import TemplateDeps.Text.Visible

/-!
# Quoted text

A text that is shown to a reader is put between double quotes and made unambiguous: a double quote and
a backslash get a backslash, the usual controls get their letter (`\n`, `\r`, `\t`, `\0`), and every
other character that the reader could not see is written as the hexadecimal number of its code point,
`\u{301}`. All else stands for itself.
-/

namespace TemplateDeps.Text

/-- The number of a code point, in lower-case hexadecimal digits without leading zeros. -/
def hexDigits (n : Nat) : List Char :=
  Nat.toDigits 16 n

/-- What stands for `c` between quotes. -/
def escapeChar (c : Char) : List Char :=
  if c = '"' then ['\\', '"']
  else if c = '\\' then ['\\', '\\']
  else if c = '\n' then ['\\', 'n']
  else if c = '\r' then ['\\', 'r']
  else if c = '\t' then ['\\', 't']
  else if c = '\x00' then ['\\', '0']
  else if isVisible c then [c]
  else ['\\', 'u', '{'] ++ hexDigits c.toNat ++ ['}']

/-- A text between double quotes. -/
def quote (s : String) : String :=
  String.ofList ('"' :: s.toList.flatMap escapeChar ++ ['"'])

/-- The characters of a quoted text are the escaped ones between two quotes. -/
@[simp] theorem toList_quote (s : String) :
    (quote s).toList = '"' :: s.toList.flatMap escapeChar ++ ['"'] := by
  simp [quote]

end TemplateDeps.Text
