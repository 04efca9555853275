import TemplateDeps.Level
import TemplateDeps.RenderMode
import TemplateDeps.Text.Quoted

/-!
# What is asked for on the command line

The program lists a manifest, tells which templates a change affects, or renders a template. `Arguments`
is a request in full, and `UsageFault` says why words on a command line are no request. Asking for help
or for the version ends the reading of the command line too, so these are among its faults.
-/

namespace TemplateDeps

/-- The job to do on a manifest. -/
inductive Command
  /-- Show every template with its edges. -/
  | list
  /-- Show the templates that depend on `name`. -/
  | affected (name : String)
  /-- Render a template and show what it used. Of two values for a variable the later counts. -/
  | render (name : String) (vars : List (String × String)) (mode : Option RenderMode)
  deriving DecidableEq, Repr

/-- A request. -/
structure Arguments where
  /-- The path of the manifest. -/
  config : String
  /-- The level of the log, if one was chosen. -/
  logLevel : Option Level
  command : Command
  deriving DecidableEq, Repr

/-- The path of the manifest if none is given. -/
def defaultConfigPath : String := "Tplwatch.toml"

/-- Why the text of an option cannot be read. -/
inductive ValueFault
  /-- It is no assignment to a variable. -/
  | assignment (raw : String)
  /-- It is no render mode. -/
  | mode (cause : RenderMode.Unknown)
  deriving DecidableEq, Repr

/-- What is said about the text of an option. -/
def ValueFault.message : ValueFault → String
  | assignment raw => s!"invalid variable {Text.quote raw} (expected KEY=VALUE)"
  | mode cause => cause.message

/-- Why the words of a command line are no request. -/
inductive UsageFault
  /-- Help was asked for. -/
  | help
  /-- The version was asked for. -/
  | version
  /-- Nothing was asked for. -/
  | nothing
  /-- There are options but no command. -/
  | noCommand
  /-- The command needs a name. -/
  | noName
  /-- There is no such command. -/
  | unknownCommand
  /-- There is no such option, or no place for the word. -/
  | unknownArgument
  /-- An option has no value, or one that is not among its values. -/
  | invalidValue
  /-- A value is attached to an option that takes none. -/
  | unexpectedValue
  /-- An option that may occur once is given twice. -/
  | repeatedOption
  /-- The value of an option cannot be read. -/
  | rejectedValue (cause : ValueFault)
  deriving DecidableEq, Repr

/-- What is said about words that are no request. -/
def UsageFault.message : UsageFault → String
  | help => "help was asked for"
  | version => "the version was asked for"
  | nothing => "nothing was asked for"
  | noCommand => "a command is missing"
  | noName => "the name of a template is missing"
  | unknownCommand => "there is no such command"
  | unknownArgument => "there is no such argument"
  | invalidValue => "an option lacks a valid value"
  | unexpectedValue => "an option takes no value"
  | repeatedOption => "an option is given twice"
  | rejectedValue cause => cause.message

/-- Read an assignment to a render variable: the name before the first equals sign, without blanks
around it and not blank altogether, and the value behind it as it is. -/
def parseAssignment (raw : String) : Except ValueFault (String × String) :=
  let cs := raw.toList
  let name := Text.trimChars (cs.takeWhile (· ≠ '='))
  match name, cs.dropWhile (· ≠ '=') with
  | _ :: _, '=' :: value => .ok (String.ofList name, String.ofList value)
  | _, _ => .error (.assignment raw)

end TemplateDeps
