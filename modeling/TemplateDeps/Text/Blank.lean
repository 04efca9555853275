import TemplateDeps.Text.CharSet

/-!
# Blank characters and trimming

A character is blank if the Unicode standard gives it the property `White_Space`: the five controls
from tab to carriage return, the space, the next-line control, the no-break space, and the spaces of
the punctuation and ideographic blocks. `trim` removes blank characters from both ends of a text and
keeps those inside.
-/

namespace TemplateDeps.Text

/-- The characters with the Unicode property `White_Space`. -/
def blanks : CharSet where
  flips := [0x9, 0xe, 0x20, 0x21, 0x85, 0x86, 0xa0, 0xa1, 0x1680, 0x1681, 0x2000, 0x200b,
    0x2028, 0x202a, 0x202f, 0x2030, 0x205f, 0x2060, 0x3000, 0x3001]

/-- Whether `c` is white space. -/
def isBlank (c : Char) : Bool :=
  blanks.contains c

/-- A list of characters without the blanks at its ends. -/
def trimChars (cs : List Char) : List Char :=
  ((cs.dropWhile isBlank).reverse.dropWhile isBlank).reverse

/-- A text without the blanks at its ends. -/
def trim (s : String) : String :=
  String.ofList (trimChars s.toList)

/-- The characters that survive trimming are those of the trimmed list. -/
@[simp] theorem toList_trim (s : String) : (trim s).toList = trimChars s.toList := by
  simp [trim]

end TemplateDeps.Text
