import Mathlib.Data.String.Basic
import TemplateDeps.Text.Utf8

/-!
# The order of names is that of their bytes

Names are compared character by character. A list of names that is sorted in this way is also sorted by
the bytes of the names in UTF-8, since the encoding keeps the order (`lt_iff_bytes_lt`).

The reason is in a single character: the encodings of two characters differ at a byte that both have,
and there the smaller character has the smaller byte, whatever comes after it
(`utf8EncodeChar_append_lt`). An encoding is a leading byte and some bytes of six bits each. The leading
byte grows with the character, and while it stays the same, so does the number of bytes behind it
(`lead_lt_or_eq`); those then differ in the order of the characters (`continuation_append_lt`).
-/

namespace TemplateDeps

namespace Text

/-! ## One character -/

/-- How many bytes follow the leading byte of a code point. -/
def width (n : Nat) : Nat :=
  if n ≤ 0x7f then 0 else if n ≤ 0x7ff then 1 else if n ≤ 0xffff then 2 else 3

/-- The leading byte of a code point. -/
def lead (n : Nat) : Nat :=
  if n ≤ 0x7f then n
  else if n ≤ 0x7ff then n / 64 + 0xc0
  else if n ≤ 0xffff then n / 4096 + 0xe0
  else n / 262144 + 0xf0

/-- The last `count` bytes of a code point, each with six bits of it. -/
def continuation : (count : Nat) → Nat → List UInt8
  | 0, _ => []
  | count + 1, n => UInt8.ofNat (n / 64 ^ count % 64 + 0x80) :: continuation count n

/-- A code point is below this bound. -/
theorem toNat_val_lt (c : Char) : c.val.toNat < 0x110000 := by
  have hvalid := c.valid
  unfold UInt32.isValidChar Nat.isValidChar at hvalid
  omega

/-- The encoding of a character is its leading byte and what follows it. -/
theorem utf8EncodeChar_eq (c : Char) :
    String.utf8EncodeChar c =
      UInt8.ofNat (lead c.val.toNat) :: continuation (width c.val.toNat) c.val.toNat := by
  have hmax := toNat_val_lt c
  unfold String.utf8EncodeChar lead width
  generalize c.val.toNat = n at hmax
  dsimp only
  split
  · rfl
  · split
    · rw [Nat.mod_eq_of_lt (show n / 64 < 32 by omega)]
      simp [continuation]
    · split
      · rw [Nat.mod_eq_of_lt (show n / 4096 < 16 by omega)]
        simp [continuation]
      · rw [Nat.mod_eq_of_lt (show n / 262144 < 8 by omega)]
        simp [continuation]

/-- A leading byte is a byte. -/
theorem lead_lt {n : Nat} (hmax : n < 0x110000) : lead n < 256 := by
  unfold lead
  split_ifs <;> omega

/-- A greater code point has a greater leading byte, or it has the same and as many bytes behind it. -/
theorem lead_lt_or_eq {m n : Nat} (h : m < n) :
    lead m < lead n ∨
      lead m = lead n ∧ width m = width n ∧ m / 64 ^ width n = n / 64 ^ width n := by
  unfold lead width
  split_ifs <;> omega

/-- Lists of bytes are compared at the first byte, and behind it if that is the same. -/
private theorem cons_lt_cons_of {m n : Nat} {s t : List UInt8} (hm : m < 256) (hn : n < 256)
    (h : m < n ∨ m = n ∧ s < t) : UInt8.ofNat m :: s < UInt8.ofNat n :: t := by
  have hm' : (UInt8.ofNat m).toNat = m := UInt8.toNat_ofNat_of_lt hm
  have hn' : (UInt8.ofNat n).toNat = n := UInt8.toNat_ofNat_of_lt hn
  rw [List.cons_lt_cons_iff, UInt8.lt_iff_toNat_lt, hm', hn']
  rcases h with hlt | ⟨rfl, hrest⟩
  · exact .inl hlt
  · exact .inr ⟨rfl, hrest⟩

/-- Code points with the same leading bits are told apart by the bytes that follow. -/
theorem continuation_append_lt {m n : Nat} (h : m < n) {count : Nat}
    (hlead : m / 64 ^ count = n / 64 ^ count) (s t : List UInt8) :
    continuation count m ++ s < continuation count n ++ t := by
  induction count with
  | zero =>
    rw [Nat.pow_zero, Nat.div_one, Nat.div_one] at hlead
    omega
  | succ count ih =>
    rw [Nat.pow_succ, ← Nat.div_div_eq_div_mul, ← Nat.div_div_eq_div_mul] at hlead
    have hle : m / 64 ^ count ≤ n / 64 ^ count := Nat.div_le_div_right (Nat.le_of_lt h)
    refine cons_lt_cons_of (by omega) (by omega) ?_
    by_cases hbits : m / 64 ^ count = n / 64 ^ count
    · exact .inr ⟨by rw [hbits], ih hbits⟩
    · exact .inl (by omega)

/-- A smaller character has smaller bytes, whatever follows. -/
theorem utf8EncodeChar_append_lt {c d : Char} (h : c < d) (s t : List UInt8) :
    String.utf8EncodeChar c ++ s < String.utf8EncodeChar d ++ t := by
  have hlt : c.val.toNat < d.val.toNat := UInt32.lt_iff_toNat_lt.1 h
  rw [utf8EncodeChar_eq, utf8EncodeChar_eq]
  refine cons_lt_cons_of (lead_lt (toNat_val_lt c)) (lead_lt (toNat_val_lt d)) ?_
  rcases lead_lt_or_eq hlt with hlead | ⟨hlead, hwidth, hbits⟩
  · exact .inl hlead
  · rw [hwidth]
    exact .inr ⟨hlead, continuation_append_lt hlt hbits s t⟩

/-! ## Texts -/

/-- A smaller list of characters has smaller bytes. -/
private theorem flatMap_lt_flatMap {l l' : List Char} (h : l < l') :
    l.flatMap String.utf8EncodeChar < l'.flatMap String.utf8EncodeChar := by
  induction l generalizing l' with
  | nil =>
    cases l' with
    | nil => exact absurd h (List.lt_irrefl [])
    | cons d rest =>
      rw [List.flatMap_nil, List.flatMap_cons, utf8EncodeChar_eq]
      exact List.nil_lt_cons _ _
  | cons c rest ih =>
    cases l' with
    | nil => exact absurd h (List.not_lt_nil _)
    | cons d rest' =>
      rw [List.flatMap_cons, List.flatMap_cons]
      rcases List.cons_lt_cons_iff.1 h with hlt | ⟨rfl, hrest⟩
      · exact utf8EncodeChar_append_lt hlt _ _
      · exact List.append_left_lt (ih hrest)

/-- One text is before another in the order of characters when it is in the order of bytes. -/
theorem lt_iff_bytes_lt {a b : String} : a < b ↔ bytes a < bytes b := by
  constructor
  · exact fun h => flatMap_lt_flatMap h
  · intro h
    by_contra hnot
    rcases lt_or_eq_of_le (not_lt.1 hnot) with hlt | rfl
    · exact absurd (List.lt_trans h (flatMap_lt_flatMap hlt)) (List.lt_irrefl _)
    · exact absurd h (List.lt_irrefl _)

end Text

end TemplateDeps
