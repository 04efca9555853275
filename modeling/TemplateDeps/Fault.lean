import TemplateDeps.Kind
import TemplateDeps.Text.Quoted

/-!
# What can go wrong

Each failure is recorded as its cause, and `Fault.message` is the one place where a cause is put into
words. Causes that belong to one subject are grouped: a malformed declaration, a manifest that does not
make sense, a file that cannot be read.
-/

namespace TemplateDeps

/-- Why a declaration is refused. -/
inductive DeclarationFault
  /-- It lists no target. -/
  | noTarget (kind : Kind)
  /-- It extends several targets at once. -/
  | severalParents (count : Nat)
  deriving DecidableEq, Repr

/-- What is said about a refused declaration. -/
def DeclarationFault.message : DeclarationFault → String
  | noTarget kind => s!"{kind.word} requires at least one target"
  | severalParents count => s!"extends takes a single target (got {count})"

/-- Why a manifest is refused, by the check of the whole manifest or while an entry is compiled. -/
inductive ManifestFault
  /-- No template is described. -/
  | noTemplates
  /-- A template has a blank name. -/
  | blankName
  /-- A target names nothing. -/
  | emptyTarget (owner : String) (kind : Kind) (raw : String)
  /-- An include lists no candidates. -/
  | noCandidates (owner : String)
  /-- An import binds both a module and members. -/
  | bothBindings (owner : String) (target : String)
  /-- An import binds neither a module nor members. -/
  | noBinding (owner : String) (target : String)
  /-- An import binds an empty list of members. -/
  | noMembers (owner : String) (target : String)
  /-- A target found while compiling names nothing. -/
  | emptyCompiledTarget (owner : String)
  /-- An import found while compiling does not bind exactly one of module and members. -/
  | ambiguousBinding (owner : String) (target : String)
  deriving DecidableEq, Repr

/-- What is said about a refused manifest. -/
def ManifestFault.message : ManifestFault → String
  | noTemplates => "manifest must contain at least one [template.<name>] section"
  | blankName => "template names must not be empty"
  | emptyTarget owner kind raw =>
    s!"template '{owner}' has an empty {kind.word} target ({Text.quote raw})"
  | noCandidates owner => s!"template '{owner}' has an include with no targets"
  | bothBindings owner target =>
    s!"template '{owner}' imports '{target}' with both `as` and `names`"
  | noBinding owner target => s!"template '{owner}' imports '{target}' without `as` or `names`"
  | noMembers owner target => s!"template '{owner}' imports no names from '{target}'"
  | emptyCompiledTarget owner => s!"template '{owner}' has an empty target"
  | ambiguousBinding owner target =>
    s!"template '{owner}' imports '{target}' with an ambiguous binding"

/-- Why a file cannot be read as text. -/
inductive ReadFault
  /-- The path leads nowhere. -/
  | notFound
  /-- The path leads to a directory. -/
  | isDirectory
  /-- The path goes through something that is no directory. -/
  | notDirectory
  /-- The path or a name in it has too many bytes. -/
  | tooLong
  /-- The path has a NUL in it, which no path can have. -/
  | nulInPath
  /-- The content is no valid UTF-8. -/
  | notText
  /-- Any other failure that the system reports, with its description and number. -/
  | other (description : String) (number : Nat)
  deriving DecidableEq, Repr

/-- What is said about an unreadable file. -/
def ReadFault.message : ReadFault → String
  | notFound => "No such file or directory (os error 2)"
  | isDirectory => "Is a directory (os error 21)"
  | notDirectory => "Not a directory (os error 20)"
  | tooLong => "File name too long (os error 36)"
  | nulInPath => "file name contained an unexpected NUL byte"
  | notText => "stream did not contain valid UTF-8"
  | other description number => s!"{description} (os error {number})"

/-- The reason why an operation failed. -/
inductive Fault
  /-- An edge was declared on a template that was never declared. -/
  | unknownTemplate (name : String)
  /-- A resolution names an edge that its template never handed out. -/
  | unknownEdge (owner : String) (edge : Nat)
  /-- A declaration is malformed. -/
  | declaration (cause : DeclarationFault)
  /-- A manifest does not make sense. -/
  | manifest (cause : ManifestFault)
  /-- A file cannot be read. -/
  | unreadable (cause : ReadFault)
  /-- A manifest file is no TOML document of the right shape. -/
  | malformedDocument
  /-- None of the names that were tried is a template of the manifest. -/
  | templateNotFound (tried : List String)
  /-- A dynamic target reads a variable without a value. -/
  | unboundVariable (name : String)
  /-- A render is nested too deeply. -/
  | tooDeep (name : String)
  deriving DecidableEq, Repr

/-- What is said about a failure. -/
def Fault.message : Fault → String
  | unknownTemplate name => s!"Unknown template: {name}"
  | unknownEdge owner edge => s!"Unknown dependency #{edge} on template '{owner}'"
  | declaration cause => s!"Invalid dependency declaration: {cause.message}"
  | manifest cause => s!"Configuration error: {cause.message}"
  | unreadable cause => s!"IO error: {cause.message}"
  | malformedDocument => "TOML parsing error"
  | templateNotFound tried => "Template not found: " ++ String.intercalate ", " tried
  | unboundVariable name => s!"Unbound render variable: {name}"
  | tooDeep name => s!"Render recursion limit exceeded while rendering '{name}'"

end TemplateDeps
