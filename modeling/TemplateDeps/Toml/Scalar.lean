import TemplateDeps.Toml.Text
import TemplateDeps.Toml.Value

/-!
# Values without quotes or brackets

Truth values, numbers, dates and times are words without quotes. An integer is decimal with an optional
sign and no superfluous zero, or has a marker for its base. A floating-point number has a fraction, an
exponent, or both. Underscores may stand between two digits. A date is `1979-05-27` and has to exist;
a time is `07:32:00`, where the seconds and a fraction of them may be left out; a date and a time are
joined by `T` or a space and may be followed by an offset.

Only the outline of an integer is checked here. A word with the outline of an integer that stands for
no number is a value nonetheless, and it is refused when its number is asked for.
-/

namespace TemplateDeps.Toml

/-- Whether `c` is a decimal digit. -/
def isDigit (c : Char) : Bool := '0' ≤ c && c ≤ '9'

/-- The digits of a group in which single underscores may separate digits. -/
def digitGroup? (valid : Char → Bool) : List Char → Option (List Char)
  | [] => none
  | [c] => if valid c then some [c] else none
  | c :: '_' :: rest => if valid c then (c :: ·) <$> digitGroup? valid rest else none
  | c :: rest => if valid c then (c :: ·) <$> digitGroup? valid rest else none

/-- The number that digits stand for in the given base. -/
def natOfDigits (base : Nat) (digits : List Char) : Nat :=
  digits.foldl (fun n c => n * base + (hexDigit? c).getD 0) 0

/-! ## Numbers -/

/-- A decimal group without a superfluous zero at its head. -/
def wholePart? (cs : List Char) : Option (List Char) := do
  let digits ← digitGroup? isDigit cs
  match digits with
  | '0' :: _ :: _ => none
  | _ => some digits

/-- A sign and what follows it. -/
def splitSign : List Char → Option Bool × List Char
  | '+' :: rest => (some false, rest)
  | '-' :: rest => (some true, rest)
  | cs => (none, cs)

/-- A number with a negative sign if so asked. -/
def signed (negative : Bool) (n : Nat) : Int :=
  if negative then -n else n

/-- A floating-point number: a whole part, a fraction, and an exponent, of which one of the latter may
be missing. -/
def float? (negative : Bool) (cs : List Char) : Option Number := do
  let mantissa := cs.takeWhile fun c => c ≠ 'e' && c ≠ 'E'
  let exponent ← match cs.dropWhile fun c => c ≠ 'e' && c ≠ 'E' with
    | [] => some 0
    | _ :: digits => do
      let (sign, digits) := splitSign digits
      let digits ← digitGroup? isDigit digits
      some (signed (sign.getD false) (natOfDigits 10 digits))
  let whole ← wholePart? (mantissa.takeWhile (· ≠ '.'))
  let fraction ← match mantissa.dropWhile (· ≠ '.') with
    | [] => some []
    | _ :: digits => digitGroup? isDigit digits
  some (.decimal negative (natOfDigits 10 (whole ++ fraction)) (exponent - fraction.length))

/-- A number without its sign. -/
def unsignedNumber? (negative : Bool) (cs : List Char) : Option Value :=
  if cs = ['i', 'n', 'f'] then some (.float (.infinite negative))
  else if cs = ['n', 'a', 'n'] then some (.float .nan)
  else if cs.any fun c => c = '.' || c = 'e' || c = 'E' then .float <$> float? negative cs
  else (fun digits => .integer (signed negative (natOfDigits 10 digits))) <$> wholePart? cs

/-- An integer in base 16, 8 or 2, its marker already read. -/
def markedInteger? (base : Nat) (cs : List Char) : Option Value :=
  (fun digits => .integer (natOfDigits base digits)) <$>
    digitGroup? (fun c => (hexDigit? c).any (· < base)) cs

/-- A number. -/
def number? : List Char → Option Value
  | '0' :: 'x' :: cs => markedInteger? 16 cs
  | '0' :: 'o' :: cs => markedInteger? 8 cs
  | '0' :: 'b' :: cs => markedInteger? 2 cs
  | cs =>
    let (sign, body) := splitSign cs
    unsignedNumber? (sign.getD false) body

/-! ## Broken integers -/

/-- Whether each underscore stands between two hexadecimal digits. -/
def underscoresApart : List Char → Bool
  | c :: '_' :: d :: rest =>
    (hexDigit? c).isSome && (hexDigit? d).isSome && underscoresApart (d :: rest)
  | c :: rest => c ≠ '_' && rest ≠ ['_'] && underscoresApart rest
  | [] => true

/-- Whether the characters are digits without a superfluous zero, an underscore, and anything with no
sign of another kind of value in it. -/
def beginsLikeInteger (cs : List Char) : Bool :=
  match cs with
  | '0' :: _ => false
  | _ =>
    isDigit (cs.headD '_') && (cs.dropWhile isDigit).head? = some '_' &&
      !cs.any (fun c => c = ' ' || c = '.' || c = 'e' || c = 'E')

/-- A word with the outline of an integer: a marker for the base alone, or a word that begins like an
integer and has its underscores apart. -/
def brokenInteger? (cs : List Char) : Option Value :=
  let body := (splitSign cs).2
  if cs = ['0', 'x'] || cs = ['0', 'o'] || cs = ['0', 'b'] ||
      (beginsLikeInteger body && underscoresApart body) then
    some (.brokenInteger (String.ofList cs))
  else none

/-! ## Dates and times -/

/-- The number of days of a month. -/
def daysOf (year month : Nat) : Nat :=
  if month = 2 then
    if year % 4 = 0 ∧ (year % 100 ≠ 0 ∨ year % 400 = 0) then 29 else 28
  else if month = 4 ∨ month = 6 ∨ month = 9 ∨ month = 11 then 30
  else 31

/-- Exactly `count` digits, as a number. -/
def fixedDigits? (count : Nat) : Reader Nat := fun cs =>
  let digits := cs.take count
  if digits.length = count ∧ digits.all isDigit then
    some (natOfDigits 10 digits, cs.drop count)
  else none

/-- The character `c`. -/
def mark? (c : Char) : List Char → Option (List Char)
  | d :: rest => if d = c then some rest else none
  | [] => none

/-- A date that exists, and what follows it. -/
def date? (cs : List Char) : Option (List Char) := do
  let (year, cs) ← fixedDigits? 4 cs
  let (month, cs) ← fixedDigits? 2 (← mark? '-' cs)
  let (day, cs) ← fixedDigits? 2 (← mark? '-' cs)
  if 1 ≤ month ∧ month ≤ 12 ∧ 1 ≤ day ∧ day ≤ daysOf year month then some cs else none

/-- A fraction of a second, if there is one, and what follows it. -/
def fraction? : List Char → Option (List Char)
  | '.' :: c :: rest => if isDigit c then some (rest.dropWhile isDigit) else none
  | '.' :: [] => none
  | cs => some cs

/-- Seconds and a fraction of them, if there are any, and what follows. -/
def seconds? : List Char → Option (List Char)
  | ':' :: rest => do
    let (second, rest) ← fixedDigits? 2 rest
    if second ≤ 60 then fraction? rest else none
  | cs => some cs

/-- A time of day, and what follows it. -/
def time? (cs : List Char) : Option (List Char) := do
  let (hour, cs) ← fixedDigits? 2 cs
  let (minute, cs) ← fixedDigits? 2 (← mark? ':' cs)
  if hour ≤ 23 ∧ minute ≤ 59 then seconds? cs else none

/-- Whether the characters are an offset from universal time, or nothing. -/
def isOffset (cs : List Char) : Bool :=
  match cs with
  | [] => true
  | ['Z'] => true
  | ['z'] => true
  | sign :: rest =>
    (sign = '+' || sign = '-') &&
      match fixedDigits? 2 rest with
      | some (hour, ':' :: rest) =>
        match fixedDigits? 2 rest with
        | some (minute, []) => hour ≤ 23 && minute ≤ 59
        | _ => false
      | _ => false

/-- Whether the characters are a date, a time, or both. -/
def isDatetime (cs : List Char) : Bool :=
  match date? cs with
  | some [] => true
  | some (sep :: rest) =>
    (sep = 'T' || sep = 't' || sep = ' ') && (time? rest).any isOffset
  | none => time? cs = some []

/-! ## Words -/

/-- The input after spaces and tabs. -/
def skipSpace (cs : List Char) : List Char :=
  cs.dropWhile fun c => c = ' ' || c = '\t'

/-- Whether `c` may occur in a word. -/
def isWordChar (c : Char) : Bool :=
  !(" \t\r\n,[]\x7b\x7d=#".toList.contains c)

/-- Whether a word goes on after blanks with `c`. A quote opens another value there. -/
def resumesWord (c : Char) : Bool :=
  isWordChar c && c ≠ '"' && c ≠ '\'' && c ≠ '.'

/-- The next word, and the input after it. Blanks belong to a word that goes on after them, as they do
between a date and a time. -/
def word : List Char → List Char × List Char
  | [] => ([], [])
  | c :: rest =>
    if isWordChar c || ((c = ' ' || c = '\t') && (skipSpace rest).head?.any resumesWord) then
      let (more, after) := word rest
      (c :: more, after)
    else ([], c :: rest)

/-- The value of a word. -/
def wordValue? (cs : List Char) : Option Value :=
  if cs = ['t', 'r', 'u', 'e'] then some (.boolean true)
  else if cs = ['f', 'a', 'l', 's', 'e'] then some (.boolean false)
  else if isDatetime cs then some (.datetime (String.ofList cs))
  else (number? cs).or (brokenInteger? cs)

/-- Read a value that is a word. -/
def scalar : Reader Value := fun cs =>
  let (first, rest) := word cs
  (·, rest) <$> wordValue? first

end TemplateDeps.Toml
