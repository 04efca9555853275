import TemplateDeps.CommandLine.Reading
import TemplateDeps.Engine.Render
import TemplateDeps.Graph.StaticView
import TemplateDeps.Manifest.Decode
import TemplateDeps.Report

/-!
# The program

A run of the program reads its request from the command line, the manifest from one file, and does the
job on an engine. It prints its report only if all went well. `Exit` is what is seen from outside: the
status, what was printed, the log lines up to the chosen level, and a complaint.
-/

namespace TemplateDeps

/-- Do the job of a command; the result is the report to print. -/
def Command.action : Command → EngineM String
  | list => do
    Engine.compileAll
    return (← get).graph.listing
  | affected name => do
    Engine.compileAll
    let names := (← get).graph.staticView.affectedBy name
    Engine.log (.affected name names.length)
    return unlines names
  | render name vars mode => do
    mode.forM Engine.setMode
    let e ← get
    unless e.graph.tracks e.mode do
      Engine.log .untrackedMode
    Engine.compile name
    Engine.startWatch
    Engine.render name (.ofList vars)
    return (← get).graph.watchReport

/-- The checked manifest in the content of a file. -/
def Manifest.ofFile (content : Except ReadFault ByteArray) : Except Fault Manifest := do
  match content with
  | .ok bytes => Manifest.ofRaw (← RawManifest.ofBytes bytes)
  | .error cause => throw (.unreadable cause)

/-- Do the job of a command on a manifest file; the result is the report and what happened. -/
def Command.run (c : Command) (content : Except ReadFault ByteArray) :
    Except Fault String × List Event :=
  match Manifest.ofFile content with
  | .error fault => (.error fault, [])
  | .ok m =>
    let (report, e) := (Engine.new m).perform c.action
    (report, e.events)

/-- What is seen of a run from outside. -/
structure Exit where
  /-- The exit status: 0 if all went well, 1 after a failure, 2 if the command line was no request. -/
  status : Nat
  output : String
  /-- The log lines up to the chosen level. -/
  events : List Event
  /-- What is said about a failure. -/
  complaint : Option String

/-- The name and version of the program. -/
def versionLine : String := "tplwatch 0.1.0"

/-- How the program is used. It names the commands and the options that can be read, and the wording is free:
nothing is read off it. -/
def helpText : String :=
  unlines
    ["Inspect template dependencies and what a render actually used.",
     "",
     "Usage: tplwatch [--config PATH] [--log-level LEVEL] COMMAND",
     "",
     "Commands:",
     "  list            show every template with its declared dependencies",
     "  affected NAME   show the templates whose output depends on NAME",
     "  render NAME     render NAME and show the templates it used",
     "                  (--var KEY=VALUE for variables, --mode MODE for the render mode)",
     "  help            show this text"]

/-- The complaint about a failure. A failure of the system is repeated as the cause. -/
def Fault.complaint (f : Fault) : String :=
  let cause := match f with
    | unreadable cause => "\n\nCaused by:\n    " ++ cause.message
    | _ => ""
  "tplwatch error: " ++ f.message ++ cause

namespace Exit

/-- The end of a run whose command line was no request. Help and the version are printed and are no
failure. -/
def ofUsage : UsageFault → Exit
  | .help => ⟨0, helpText, [], none⟩
  | .version => ⟨0, unlines [versionLine], [], none⟩
  | _ => ⟨2, "", [], none⟩

/-- The level of the log: the one asked for on the command line, else the one in the environment if it
can be read, else information. -/
def logLevel (args : Arguments) (environment : Option String) : Level :=
  (args.logLevel <|> environment.bind Level.parse?).getD .info

/-- The end of a run that did the job of a request on a manifest file. -/
def ofRun (args : Arguments) (environment : Option String)
    (content : Except ReadFault ByteArray) : Exit :=
  let (result, events) := args.command.run content
  let seen := events.filter fun event => (logLevel args environment).admits event.level
  match result with
  | .ok report => ⟨0, report, seen, none⟩
  | .error fault => ⟨1, "", seen, some fault.complaint⟩

end Exit

end TemplateDeps
