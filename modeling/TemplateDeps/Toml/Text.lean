/-!
# Strings of a TOML document

Strings come in four forms. Between double quotes a backslash starts an escape; between single quotes
every character counts as it is. Three quotes of either sort enclose text over several lines: a newline
right after them is dropped, up to two quotes may stand before the closing three, and in the escaped
form a backslash at the end of a line joins it to the next text. A reader gives the characters of the
string and the input after it.

Controls other than the tab cannot occur anywhere in a document, and a carriage return only before a
newline.
-/

namespace TemplateDeps.Toml

/-- What a reader gives: something read and the rest of the input, unless the input is malformed. -/
abbrev Reader (α : Type) := List Char → Option (α × List Char)

/-- Whether `c` may occur in a line of text. -/
def isPlain (c : Char) : Bool :=
  c = '\t' || (' ' ≤ c && c ≠ '\x7f')

/-- The value of a hexadecimal digit. -/
def hexDigit? (c : Char) : Option Nat :=
  if '0' ≤ c && c ≤ '9' then some (c.toNat - '0'.toNat)
  else if 'a' ≤ c && c ≤ 'f' then some (c.toNat - 'a'.toNat + 10)
  else if 'A' ≤ c && c ≤ 'F' then some (c.toNat - 'A'.toNat + 10)
  else none

/-- The number that hexadecimal digits stand for. -/
def hexNumber? (digits : List Char) : Option Nat :=
  digits.foldlM (fun n c => (n * 16 + ·) <$> hexDigit? c) 0

/-- The character whose code point the digits give. -/
def hexChar? (digits : List Char) : Option Char := do
  let n ← hexNumber? digits
  if n.isValidChar then some (Char.ofNat n) else none

/-- The character that a letter after a backslash stands for. -/
def simpleEscape? : Char → Option Char
  | 'b' => some '\x08'
  | 't' => some '\t'
  | 'n' => some '\n'
  | 'f' => some '\x0c'
  | 'r' => some '\r'
  | 'e' => some '\x1b'
  | '"' => some '"'
  | '\\' => some '\\'
  | _ => none

/-- The character that an escape stands for, the backslash already read, and the rest. -/
def escape? : Reader Char
  | 'x' :: a :: b :: rest => (·, rest) <$> hexChar? [a, b]
  | 'u' :: a :: b :: c :: d :: rest => (·, rest) <$> hexChar? [a, b, c, d]
  | 'U' :: a :: b :: c :: d :: e :: f :: g :: h :: rest =>
    (·, rest) <$> hexChar? [a, b, c, d, e, f, g, h]
  | c :: rest => (·, rest) <$> simpleEscape? c
  | [] => none

/-- Put characters before the string that was read. -/
def prepend (cs : List Char) (read : Option (List Char × List Char)) :
    Option (List Char × List Char) :=
  read.map fun (s, rest) => (cs ++ s, rest)

/-- An escape takes up input. -/
theorem length_lt_of_escape? {cs rest : List Char} {c : Char} (h : escape? cs = some (c, rest)) :
    rest.length < cs.length := by
  unfold escape? at h
  split at h
  · obtain ⟨_, _, h⟩ := Option.map_eq_some_iff.1 h; cases h; simp; omega
  · obtain ⟨_, _, h⟩ := Option.map_eq_some_iff.1 h; cases h; simp; omega
  · obtain ⟨_, _, h⟩ := Option.map_eq_some_iff.1 h; cases h; simp; omega
  · obtain ⟨_, _, h⟩ := Option.map_eq_some_iff.1 h; cases h; simp
  · cases h

/-- The rest of a string in double quotes. -/
def basicTail : Reader (List Char)
  | [] => none
  | '"' :: rest => some ([], rest)
  | '\\' :: rest =>
    match h : escape? rest with
    | none => none
    | some (c, rest') =>
      have := length_lt_of_escape? h
      prepend [c] (basicTail rest')
  | c :: rest => if isPlain c then prepend [c] (basicTail rest) else none
termination_by cs => cs.length

/-- The rest of a string in single quotes. -/
def literalTail : Reader (List Char)
  | [] => none
  | '\'' :: rest => some ([], rest)
  | c :: rest => if isPlain c then prepend [c] (literalTail rest) else none

/-- The input after blanks and newlines. -/
def dropLineGap : List Char → List Char
  | ' ' :: rest => dropLineGap rest
  | '\t' :: rest => dropLineGap rest
  | '\n' :: rest => dropLineGap rest
  | '\r' :: '\n' :: rest => dropLineGap rest
  | cs => cs

/-- The input after a newline with blanks before it and any gap behind it. -/
def joinedLine? : List Char → Option (List Char)
  | ' ' :: rest => joinedLine? rest
  | '\t' :: rest => joinedLine? rest
  | '\n' :: rest => some (dropLineGap rest)
  | '\r' :: '\n' :: rest => some (dropLineGap rest)
  | _ => none

/-- Dropping a gap does not lengthen the input. -/
theorem length_dropLineGap_le (cs : List Char) : (dropLineGap cs).length ≤ cs.length := by
  fun_induction dropLineGap cs <;> simp_all <;> omega

/-- Joining lines does not lengthen the input. -/
theorem length_le_of_joinedLine? {cs rest : List Char} (h : joinedLine? cs = some rest) :
    rest.length ≤ cs.length := by
  fun_induction joinedLine? cs with
  | case1 tail ih => have := ih h; simp only [List.length_cons]; omega
  | case2 tail ih => have := ih h; simp only [List.length_cons]; omega
  | case3 tail =>
    have := length_dropLineGap_le tail
    cases h; simp only [List.length_cons]; omega
  | case4 tail =>
    have := length_dropLineGap_le tail
    cases h; simp only [List.length_cons]; omega
  | case5 => cases h

/-- The rest of a string in three double quotes. -/
def multilineBasicTail : Reader (List Char)
  | [] => none
  | '"' :: '"' :: '"' :: '"' :: '"' :: rest => some (['"', '"'], rest)
  | '"' :: '"' :: '"' :: '"' :: rest => some (['"'], rest)
  | '"' :: '"' :: '"' :: rest => some ([], rest)
  | '\r' :: '\n' :: rest => prepend ['\r', '\n'] (multilineBasicTail rest)
  | '\\' :: rest =>
    match h : joinedLine? rest with
    | some rest' =>
      have := length_le_of_joinedLine? h
      multilineBasicTail rest'
    | none =>
      match h : escape? rest with
      | none => none
      | some (c, rest') =>
        have := length_lt_of_escape? h
        prepend [c] (multilineBasicTail rest')
  | c :: rest =>
    if isPlain c || c = '\n' then prepend [c] (multilineBasicTail rest) else none
termination_by cs => cs.length

/-- The rest of a string in three single quotes. -/
def multilineLiteralTail : Reader (List Char)
  | [] => none
  | '\'' :: '\'' :: '\'' :: '\'' :: '\'' :: rest => some (['\'', '\''], rest)
  | '\'' :: '\'' :: '\'' :: '\'' :: rest => some (['\''], rest)
  | '\'' :: '\'' :: '\'' :: rest => some ([], rest)
  | '\r' :: '\n' :: rest => prepend ['\r', '\n'] (multilineLiteralTail rest)
  | c :: rest =>
    if isPlain c || c = '\n' then prepend [c] (multilineLiteralTail rest) else none

/-- The input without a newline at its head. -/
def dropNewline : List Char → List Char
  | '\n' :: rest => rest
  | '\r' :: '\n' :: rest => rest
  | cs => cs

/-- Read a string in one of the four forms. -/
def string : Reader String
  | '"' :: '"' :: '"' :: rest => found (multilineBasicTail (dropNewline rest))
  | '\'' :: '\'' :: '\'' :: rest => found (multilineLiteralTail (dropNewline rest))
  | '"' :: rest => found (basicTail rest)
  | '\'' :: rest => found (literalTail rest)
  | _ => none
where
  /-- The characters that were read, as a string. -/
  found (read : Option (List Char × List Char)) : Option (String × List Char) :=
    read.map fun (s, rest) => (String.ofList s, rest)

end TemplateDeps.Toml
