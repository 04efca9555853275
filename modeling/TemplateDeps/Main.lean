import TemplateDeps.Program

/-!
# The command-line program

This is the part that talks to the system: it reads the manifest file and the environment, and prints
what `Exit` holds. Log lines and complaints go to the standard error.
-/

namespace TemplateDeps

/-- The cause of a failure to read a file, by the number that the system gives it. -/
def ReadFault.ofNumber (number : Nat) (description : String) : ReadFault :=
  if number = 2 then notFound
  else if number = 20 then notDirectory
  else if number = 21 then isDirectory
  else if number = 36 then tooLong
  else other description number

/-- The cause of a failure to read a file. -/
def ReadFault.ofError : IO.Error → ReadFault
  | .noFileOrDirectory _ code details => ofNumber code.toNat details
  | .inappropriateType _ code details => ofNumber code.toNat details
  | .permissionDenied _ code details => ofNumber code.toNat details
  | .invalidArgument _ code details => ofNumber code.toNat details
  | .resourceExhausted _ code details => ofNumber code.toNat details
  | e => other e.toString 5

/-- The content of a file. -/
def readFile (path : String) : IO (Except ReadFault ByteArray) := do
  try
    return .ok (← IO.FS.readBinFile path)
  catch e =>
    return .error (.ofError e)

/-- A log line. -/
def Event.line (event : Event) : String :=
  s!"{event.level.tag} {event.text}"

/-- Run the program on the words of its command line; the result is the exit status. -/
def runProgram (words : List String) : IO UInt32 := do
  let exit ← match CommandLine.read words with
    | .error fault => do
      let exit := Exit.ofUsage fault
      if exit.status = 2 then
        IO.eprintln s!"error: {fault.message}"
        IO.eprint helpText
      pure exit
    | .ok args => do
      pure (Exit.ofRun args (← IO.getEnv "TPLWATCH_LOG") (← readFile args.config))
  for event in exit.events do
    IO.eprintln event.line
  IO.print exit.output
  for complaint in exit.complaint do
    IO.eprintln complaint
  return exit.status.toUInt32

end TemplateDeps

/-- The entry point. -/
def main (words : List String) : IO UInt32 :=
  TemplateDeps.runProgram words
