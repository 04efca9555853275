/-!
# Sets of characters given by their boundaries

A property of characters that a standard lays down is a union of intervals of code points. `CharSet`
stores the increasing list of code points at which membership changes, starting outside the set: the
first number opens the first interval, the second closes it, and so on. Two numbers per interval is
the shortest form of such a table, and `contains` reads it in one pass that stops at the first
boundary above the character.
-/

namespace TemplateDeps.Text

/-- A set of characters, as the increasing list of code points where membership flips. -/
structure CharSet where
  /-- The flips: the set holds the code points from the first up to but excluding the second, from
  the third up to the fourth, and so on. -/
  flips : List Nat
  deriving DecidableEq, Repr

namespace CharSet

/-- Whether `n` lies inside, if membership below the first of `flips` is `inside`. -/
def memberFrom : (flips : List Nat) → (inside : Bool) → (n : Nat) → Bool
  | [], inside, _ => inside
  | b :: rest, inside, n => if n < b then inside else memberFrom rest (!inside) n

/-- Whether the set holds `c`. -/
def contains (s : CharSet) (c : Char) : Bool :=
  memberFrom s.flips false c.toNat

end CharSet

end TemplateDeps.Text
