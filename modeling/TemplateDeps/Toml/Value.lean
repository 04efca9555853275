/-!
# TOML values

The values of a TOML document. A table remembers how it came about, and an array whether it was written
as a sequence of headed tables, because that decides what may be added to it later in the document.
Floating-point numbers keep their decimal digits. Dates and times are kept as written.
-/

namespace TemplateDeps.Toml

/-- How a table came about. -/
inductive Origin
  /-- It has a header of its own, or is the document itself. -/
  | header
  /-- It was passed through on the way to a header. -/
  | implied
  /-- It was passed through on the way to a dotted key. -/
  | dotted
  /-- It was written between braces. -/
  | inline
  deriving DecidableEq, Repr

/-- A floating-point number as written. -/
inductive Number
  /-- The digits, to be multiplied by ten to the power of the exponent. -/
  | decimal (negative : Bool) (digits : Nat) (exponent : Int)
  | infinite (negative : Bool)
  | nan
  deriving DecidableEq, Repr

/-- A value of a document. -/
inductive Value
  | string (s : String)
  | integer (n : Int)
  | float (x : Number)
  | boolean (b : Bool)
  /-- A word with the outline of an integer that stands for no number. -/
  | brokenInteger (written : String)
  /-- A date, a time, or both. -/
  | datetime (written : String)
  /-- An array; `headed` if its elements are tables with double-bracket headers. -/
  | array (headed : Bool) (elements : List Value)
  | table (origin : Origin) (entries : List (String × Value))
  deriving Repr

/-- Keys with their values, in the order in which they were added. -/
abbrev Entries := List (String × Value)

/-! ## Numbers that can be read

Numbers of any size can be written, but a reader of numbers takes only those that fit: integers of up to
128 bits, signed or not, and floating-point numbers that do not round to infinity as doubles. It takes
no broken integers.
-/

/-- The least magnitude that rounds to infinity: half a unit above the greatest double. -/
def overflowBound : Nat := Nat.pow 2 1024 - Nat.pow 2 970

/-- Whether the number fits into a double. A number with so many digits before the point that it is too
great, or so many zeros behind it that it is small, is told without raising ten to its exponent. -/
def Number.fits : Number → Bool
  | decimal _ digits exponent =>
    let width : Int := (Nat.toDigits 10 digits).length + exponent
    if digits = 0 || width < 0 then true
    else if width > 310 then false
    else if exponent < 0 then digits < overflowBound * Nat.pow 10 exponent.natAbs
    else digits * Nat.pow 10 exponent.natAbs < overflowBound
  | infinite _ => true
  | nan => true

mutual

/-- Whether all numbers in a value fit. -/
def Value.fits : Value → Bool
  | .integer n => -(2 ^ 127) ≤ n && n < 2 ^ 128
  | .float x => x.fits
  | .brokenInteger _ => false
  | .array _ elements => elementsFit elements
  | .table _ entries => entriesFit entries
  | _ => true

/-- Whether all numbers in the elements of an array fit. -/
def elementsFit : List Value → Bool
  | [] => true
  | v :: rest => v.fits && elementsFit rest

/-- Whether all numbers in the entries of a table fit. -/
def entriesFit : List (String × Value) → Bool
  | [] => true
  | (_, v) :: rest => v.fits && entriesFit rest

end

end TemplateDeps.Toml
