import TemplateDeps.Text.CaseTable

/-!
# Lower case of a text

Every character is replaced by its small letter, with two exceptions that the Unicode standard makes
for all languages. The capital I with a dot becomes two characters, since no single character keeps
the dot. A capital sigma becomes the final form `ς` at the end of a word, and `σ` elsewhere. It stands
at the end of a word if, punctuation inside words aside, a letter comes before it and none after it.
-/

namespace TemplateDeps.Text

/-- The small letter of `c` where the mapping is one to one, and `c` itself where there is none. -/
def lowerChar (c : Char) : Char :=
  match lowerRuns.find? (·.covers c.toNat) with
  | some run => Char.ofNat (c.toNat + run.offset).toNat
  | none => c

/-- Whether the first character of `cs` that is not ignored in questions of case is a letter. -/
def meetsLetter (cs : List Char) : Bool :=
  match cs.dropWhile caseIgnorables.contains with
  | [] => false
  | c :: _ => casedLetters.contains c

/-- The lower case of `c` between the characters `before`, nearest first, and `after`. -/
def lowerAt (before : List Char) (c : Char) (after : List Char) : List Char :=
  if c = 'Σ' then [if meetsLetter before && !meetsLetter after then 'ς' else 'σ']
  else if c = 'İ' then ['i', '\u0307']
  else [lowerChar c]

/-- The lower case of a list of characters that follows the characters `before`, nearest first. -/
def lowerFrom (before : List Char) : List Char → List Char
  | [] => []
  | c :: after => lowerAt before c after ++ lowerFrom (c :: before) after

/-- The lower case of a text. -/
def lowercase (s : String) : String :=
  String.ofList (lowerFrom [] s.toList)

end TemplateDeps.Text
