import TemplateDeps.Toml.Scalar
import TemplateDeps.Toml.Table

/-!
# The grammar of TOML documents

A document is a sequence of lines, each of which is blank, or holds one statement: a header in single
or double brackets, or an assignment of a value to a key. Comments run from a number sign to the end of
the line. Between the brackets of an array and the braces of a table, newlines and comments may stand
wherever blanks may, except inside a key, and a comma may follow the last element.

Values are nested at most `maxNesting` deep, which is what reading a value recurses on, and a key has at
most `maxKeyParts` parts, however deep it stands. Other sequences are read with a bound on their number
of elements, for which the length of the input is enough, since each element takes up input.
-/

namespace TemplateDeps.Toml

/-- How many brackets and braces may be open at once. -/
def maxNesting : Nat := 80

/-- How many parts a key may have. -/
def maxKeyParts : Nat := 80

/-! ## Blanks, comments and line ends -/

/-- The input after blanks, newlines and comments. `inComment` says that a comment is being read. -/
def skipGap : (inComment : Bool) → List Char → Option (List Char)
  | _, [] => some []
  | _, '\n' :: rest => skipGap false rest
  | _, '\r' :: '\n' :: rest => skipGap false rest
  | true, c :: rest => if isPlain c then skipGap true rest else none
  | false, c :: rest =>
    if c = ' ' || c = '\t' then skipGap false rest
    else if c = '#' then skipGap true rest
    else some (c :: rest)

/-- The input after the end of the line that a comment leads to. -/
def commentEnd? : List Char → Option (List Char)
  | [] => some []
  | '\n' :: rest => some rest
  | '\r' :: '\n' :: rest => some rest
  | c :: rest => if isPlain c then commentEnd? rest else none

/-- The input after the end of the line, with nothing but blanks and a comment before it. -/
def lineEnd? (cs : List Char) : Option (List Char) :=
  match skipSpace cs with
  | [] => some []
  | '\n' :: rest => some rest
  | '\r' :: '\n' :: rest => some rest
  | '#' :: rest => commentEnd? rest
  | _ => none

/-! ## Keys -/

/-- Whether `c` may occur in a key without quotes. -/
def isKeyChar (c : Char) : Bool :=
  isDigit c || ('a' ≤ c && c ≤ 'z') || ('A' ≤ c && c ≤ 'Z') || c = '_' || c = '-'

/-- Read one part of a key. -/
def keyPart : Reader String
  | '"' :: rest => string.found (basicTail rest)
  | '\'' :: rest => string.found (literalTail rest)
  | cs =>
    match cs.takeWhile isKeyChar with
    | [] => none
    | name => some (String.ofList name, cs.dropWhile isKeyChar)

/-- Read at most `bound` parts of a key with dots between them, and the blanks around it. -/
def keyParts : (bound : Nat) → Reader (List String)
  | 0, _ => none
  | bound + 1, cs => do
    let (part, rest) ← keyPart (skipSpace cs)
    match skipSpace rest with
    | '.' :: rest => do
      let (parts, rest) ← keyParts bound rest
      some (part :: parts, rest)
    | rest => some ([part], rest)

/-- Read a key. -/
def key : Reader (List String) :=
  keyParts maxKeyParts

/-! ## Values -/

/-- Read the rest of an array of at most `bound` elements, given how to read an element. -/
def arrayTail (element : Reader Value) : (bound : Nat) → Reader (List Value)
  | 0, _ => none
  | bound + 1, cs => do
    match ← skipGap false cs with
    | ']' :: rest => some ([], rest)
    | cs =>
      let (v, rest) ← element cs
      match ← skipGap false rest with
      | ']' :: rest => some ([v], rest)
      | ',' :: rest => do
        let (vs, rest) ← arrayTail element bound rest
        some (v :: vs, rest)
      | _ => none

/-- Read the rest of a table between braces of at most `bound` assignments, to be added to `entries`,
given how to read a value. -/
def tableTail (element : Reader Value) : (bound : Nat) → Entries → Reader Entries
  | 0, _, _ => none
  | bound + 1, entries, cs => do
    match ← skipGap false cs with
    | '}' :: rest => some (entries, rest)
    | cs =>
      let (path, rest) ← key cs
      let (v, rest) ← element (← skipGap false (← mark? '=' (← skipGap false rest)))
      let entries ← assign path v .header entries
      match ← skipGap false rest with
      | '}' :: rest => some (entries, rest)
      | ',' :: rest => tableTail element bound entries rest
      | _ => none

/-- Read a value without brackets or braces. -/
def simpleValue : Reader Value := fun cs =>
  match cs with
  | '"' :: _ => (string cs).map fun (s, rest) => (.string s, rest)
  | '\'' :: _ => (string cs).map fun (s, rest) => (.string s, rest)
  | _ => scalar cs

/-- Read a value in which at most `depth` brackets and braces are open at once. -/
def value : (depth : Nat) → Reader Value
  | 0 => simpleValue
  | depth + 1 => fun cs =>
    match cs with
    | '[' :: rest =>
      (arrayTail (value depth) cs.length rest).map fun (vs, rest) => (.array false vs, rest)
    | '{' :: rest =>
      (tableTail (value depth) cs.length [] rest).map fun (es, rest) => (.table .inline es, rest)
    | _ => simpleValue cs

/-! ## Statements -/

/-- A line of a document that is not blank. -/
inductive Statement
  /-- A header in single brackets. -/
  | table (path : List String)
  /-- A header in double brackets. -/
  | row (path : List String)
  /-- An assignment. -/
  | assign (path : List String) (value : Value)
  deriving Repr

/-- Read a statement. -/
def statement : Reader Statement
  | '[' :: '[' :: rest => do
    let (path, rest) ← key rest
    some (.row path, ← mark? ']' (← mark? ']' rest))
  | '[' :: rest => do
    let (path, rest) ← key rest
    some (.table path, ← mark? ']' rest)
  | cs => do
    let (path, rest) ← key cs
    let (v, rest) ← value maxNesting (skipSpace (← mark? '=' rest))
    some (.assign path v, rest)

/-- Read at most `bound` lines with statements. -/
def statements : (bound : Nat) → List Char → Option (List Statement)
  | 0, _ => none
  | bound + 1, cs => do
    match ← skipGap false cs with
    | [] => some []
    | cs =>
      let (s, rest) ← statement cs
      let more ← statements bound (← lineEnd? rest)
      some (s :: more)

end TemplateDeps.Toml
