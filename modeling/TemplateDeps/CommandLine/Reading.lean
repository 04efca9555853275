import TemplateDeps.CommandLine.Basic

/-!
# Reading the command line

The words are read from left to right, first those for the program itself and then, behind the word for
a command, those for the command. A `Shape` says what can be given at each of the two levels.

A word with two dashes is an option, whose value is attached with an equals sign or is the next word; a
word with one dash is a row of letters for flags; a single dash and every other word is a command, a
value or a name. Behind a word of just two dashes every word is a name.

The value of an option is looked at only when the reader gets to the next option or name, or to the end.
So of two mistakes the one that is met first in this sense counts: an option without its value is
noticed when the next option begins, but a word that fits nowhere is noticed at once.
-/

namespace TemplateDeps.CommandLine

/-- The options that take a value. -/
inductive OptionName
  | config
  | logLevel
  | var
  | mode
  deriving DecidableEq, Repr

/-- The flags. -/
inductive Flag
  | help
  | version
  deriving DecidableEq, Repr

/-- What a flag asks for. -/
def Flag.request : Flag → UsageFault
  | help => .help
  | version => .version

/-- What can be given at one level of the command line. -/
structure Shape where
  /-- The options by their words. -/
  options : List (String × OptionName)
  /-- The flags by their words. -/
  flags : List (String × Flag)
  /-- The flags by their letters. -/
  letters : List (Char × Flag)
  /-- Whether a name is expected. -/
  takesName : Bool
  /-- The words for commands. -/
  commands : List String

/-- The level of the program. -/
def programShape : Shape where
  options := [("config", .config), ("log-level", .logLevel)]
  flags := [("help", .help), ("version", .version)]
  letters := [('h', .help), ('V', .version)]
  takesName := false
  commands := ["list", "affected", "render", "help"]

/-- The level of a command, which may take a name and options. -/
def commandShape (takesName : Bool) (options : List (String × OptionName)) : Shape where
  options := options
  flags := [("help", .help)]
  letters := [('h', .help)]
  takesName := takesName
  commands := []

/-- What was given so far. -/
structure Given where
  config : Option String
  logLevel : Option Level
  name : Option String
  vars : List (String × String)
  mode : Option RenderMode
  /-- The option that was met last, and the word for its value if that was met too. -/
  pending : Option (OptionName × Option String)

/-- What is read: something, unless the words are no request. -/
abbrev Reading (α : Type) := Except UsageFault α

namespace Given

/-- Before the first word nothing is given. -/
def none : Given := ⟨.none, .none, .none, [], .none, .none⟩

/-- Whether the next word is the value of an option. -/
def awaitsValue (g : Given) : Bool :=
  match g.pending with
  | some (_, .none) => true
  | _ => false

/-- The levels that can be chosen. -/
def level? (word : String) : Option Level :=
  [Level.error, .warn, .info, .debug, .trace].find? (·.word = word)

/-- Take in the value of an option. An option for a single value must not have one already. -/
def store (g : Given) : OptionName → String → Reading Given
  | .config, word =>
    if g.config.isSome then .error .repeatedOption else .ok { g with config := some word }
  | .logLevel, word =>
    if g.logLevel.isSome then .error .repeatedOption
    else match level? word with
      | some l => .ok { g with logLevel := some l }
      | .none => .error .invalidValue
  | .var, word =>
    match parseAssignment word with
    | .ok v => .ok { g with vars := g.vars ++ [v] }
    | .error cause => .error (.rejectedValue cause)
  | .mode, word =>
    if g.mode.isSome then .error .repeatedOption
    else match RenderMode.parse word with
      | .ok m => .ok { g with mode := some m }
      | .error cause => .error (.rejectedValue (.mode cause))

/-- Take in the value of the option that was met last. -/
def settle (g : Given) : Reading Given :=
  match g.pending with
  | .none => .ok g
  | some (_, .none) => .error .invalidValue
  | some (option, some word) => { g with pending := .none }.store option word

end Given

/-- A word with dashes, taken apart. -/
inductive Word
  /-- An option or flag by its word, with a value if one is attached. -/
  | long (name : String) (attached : Option String)
  /-- Flags by their letters, of which the first is given. -/
  | short (letter : Char)
  /-- A word of its own. -/
  | plain
  deriving DecidableEq, Repr

/-- Take a word apart. -/
def Word.ofString (word : String) : Word :=
  match word.toList with
  | '-' :: '-' :: cs =>
    let attached := match cs.dropWhile (· ≠ '=') with
      | _ :: value => some (String.ofList value)
      | [] => .none
    long (String.ofList (cs.takeWhile (· ≠ '='))) attached
  | '-' :: letter :: _ => short letter
  | _ => plain

/-- Why a word that fits nowhere is refused. -/
def misplaced (shape : Shape) (afterDashes : Bool) (word : String) : UsageFault :=
  if shape.commands.isEmpty || (afterDashes && shape.commands.contains word) then .unknownArgument
  else .unknownCommand

/-- Take in a name. -/
def takeName (shape : Shape) (afterDashes : Bool) (g : Given) (word : String) : Reading Given :=
  if shape.takesName && g.name.isNone then do
    let g ← g.settle
    .ok { g with name := some word }
  else .error (misplaced shape afterDashes word)

/-- Read words of which the first is no command, up to a command or to the end. The result is what was
given, and the command with the words behind it. -/
def readWords (shape : Shape) :
    Given → List String → Reading (Given × Option (String × List String))
  | g, [] => .ok (g, none)
  | g, word :: rest =>
    if !g.awaitsValue && shape.commands.contains word then .ok (g, some (word, rest))
    else if word = "--" then do
      let g ← rest.foldlM (takeName shape true) g
      .ok (g, none)
    else match Word.ofString word with
      | .long name attached =>
        match shape.options.lookup name, shape.flags.lookup name, attached with
        | some option, _, some value => do
          let g ← g.settle
          let g ← { g with pending := .none }.store option value
          readWords shape g rest
        | some option, _, none => do
          let g ← g.settle
          readWords shape { g with pending := some (option, none) } rest
        | none, some _, some _ => .error .unexpectedValue
        | none, some flag, none => do
          let _ ← g.settle
          .error flag.request
        | none, none, _ => .error .unknownArgument
      | .short letter =>
        match shape.letters.lookup letter with
        | some flag => do
          let _ ← g.settle
          .error flag.request
        | none => .error .unknownArgument
      | .plain =>
        match g.pending with
        | some (option, none) =>
          readWords shape { g with pending := some (option, some word) } rest
        | _ => do
          let g ← takeName shape false g word
          readWords shape g rest

/-- Read the words behind a command. -/
def readCommand : (word : String) → (rest : List String) → Reading Command
  | "list", rest => do
    let (g, _) ← readWords (commandShape false []) .none rest
    let _ ← g.settle
    .ok .list
  | "affected", rest => do
    let (g, _) ← readWords (commandShape true []) .none rest
    let g ← g.settle
    match g.name with
    | some name => .ok (.affected name)
    | none => .error .noName
  | "render", rest => do
    let (g, _) ← readWords (commandShape true [("var", .var), ("mode", .mode)]) .none rest
    let g ← g.settle
    match g.name with
    | some name => .ok (.render name g.vars g.mode)
    | none => .error .noName
  | _, [] => .error .help
  | _, [topic] =>
    .error (if programShape.commands.contains topic then .help else .unknownCommand)
  | _, _ => .error .unknownCommand

/-- Read a command line. -/
def read (words : List String) : Reading Arguments := do
  match ← readWords programShape .none words with
  | (g, none) => do
    let g ← g.settle
    .error (if g.config.isNone && g.logLevel.isNone then .nothing else .noCommand)
  | (g, some (word, rest)) => do
    let command ← readCommand word rest
    let g ← g.settle
    .ok { config := g.config.getD defaultConfigPath, logLevel := g.logLevel, command }

end TemplateDeps.CommandLine
