import TemplateDeps.Proofs.Text.ByteOrder
import Mathlib.Data.List.Forall2

/-!
# What is left of broken characters

Where no character can be read from bytes, `firstPiece` takes what was to become one: the longest part in front
that some character begins with, or a single byte if no character begins with it. This is
`firstPiece_eq_broken`, and it does not speak of the bounds in which `firstPiece` looks for the bytes of a
character (`followers`). That these are the right ones is shown from both sides: the bytes of a character lie
within them (`inBounds_followers`), and all bytes that do make up a character (`exists_utf8EncodeChar_eq`).
-/

namespace TemplateDeps.Text

/-- The byte lies within the bounds. -/
def InBounds (bound : UInt8 × UInt8) (b : UInt8) : Prop :=
  bound.1 ≤ b ∧ b ≤ bound.2

/-! ## The bytes of characters -/

variable {first : UInt8} {others : List UInt8}

/-- Code points are those of characters, except for the surrogates. -/
theorem toNat_val_not_surrogate (c : Char) : c.val.toNat < 0xd800 ∨ 0xdfff < c.val.toNat := by
  have hvalid := c.valid
  unfold UInt32.isValidChar Nat.isValidChar at hvalid
  omega

/-- The bytes of a character lie within the bounds that go with its first byte. -/
theorem inBounds_followers {c : Char} (h : String.utf8EncodeChar c = first :: others) :
    List.Forall₂ InBounds (followers first) others := by
  have hmax := toNat_val_lt c
  have hvalid := toNat_val_not_surrogate c
  unfold String.utf8EncodeChar at h
  generalize c.val.toNat = n at hmax hvalid h
  dsimp only at h
  unfold followers
  simp only [UInt8.lt_iff_toNat_lt, UInt8.le_iff_toNat_le, ← UInt8.toNat_inj, UInt8.toNat_ofNat]
  -- One case for each number of bytes.
  split at h
  · obtain ⟨rfl, rfl⟩ := List.cons.inj h
    simp only [UInt8.toNat_ofNat']
    rw [if_pos (by omega)]
    exact .nil
  · split at h
    · obtain ⟨rfl, rfl⟩ := List.cons.inj h
      simp only [UInt8.toNat_ofNat']
      rw [if_neg (by omega), if_pos (by omega)]
      simp only [List.forall₂_cons, List.Forall₂.nil, and_true, InBounds, UInt8.le_iff_toNat_le,
        UInt8.toNat_ofNat', UInt8.toNat_ofNat]
      omega
    · split at h
      · obtain ⟨rfl, rfl⟩ := List.cons.inj h
        simp only [UInt8.toNat_ofNat']
        rw [if_neg (by omega), if_neg (by omega), if_pos (by omega)]
        simp only [List.forall₂_cons, List.Forall₂.nil, and_true, InBounds, UInt8.le_iff_toNat_le,
          UInt8.toNat_ofNat', UInt8.toNat_ofNat, apply_ite UInt8.toNat]
        split_ifs <;> omega
      · obtain ⟨rfl, rfl⟩ := List.cons.inj h
        simp only [UInt8.toNat_ofNat']
        rw [if_neg (by omega), if_neg (by omega), if_neg (by omega), if_pos (by omega)]
        simp only [List.forall₂_cons, List.Forall₂.nil, and_true, InBounds, UInt8.le_iff_toNat_le,
          UInt8.toNat_ofNat', UInt8.toNat_ofNat, apply_ite UInt8.toNat]
        split_ifs <;> omega

/-- Every other code point is that of a character. -/
theorem exists_char {n : Nat} (h : n < 0xd800 ∨ 0xdfff < n ∧ n < 0x110000) : ∃ c : Char, c.val.toNat = n :=
  ⟨Char.ofNatAux n h, rfl⟩

/-- Two bytes within their bounds are those of a character. -/
theorem exists_utf8EncodeChar_eq_two {a b : UInt8} (ha : 0xc2 ≤ a.toNat ∧ a.toNat ≤ 0xdf)
    (hb : 0x80 ≤ b.toNat ∧ b.toNat ≤ 0xbf) : ∃ c, String.utf8EncodeChar c = [a, b] := by
  obtain ⟨c, hc⟩ := exists_char (n := (a.toNat - 0xc0) * 64 + (b.toNat - 0x80)) (by omega)
  refine ⟨c, ?_⟩
  unfold String.utf8EncodeChar
  rw [hc]
  dsimp only
  rw [if_neg (by omega), if_pos (by omega)]
  simp only [List.cons.injEq, ← UInt8.toNat_inj, UInt8.toNat_ofNat', and_true]
  omega

/-- So are three. -/
theorem exists_utf8EncodeChar_eq_three {a b d : UInt8} (ha : 0xe0 ≤ a.toNat ∧ a.toNat ≤ 0xef)
    (hb : 0x80 ≤ b.toNat ∧ b.toNat ≤ 0xbf) (hlow : a.toNat = 0xe0 → 0xa0 ≤ b.toNat)
    (hhigh : a.toNat = 0xed → b.toNat ≤ 0x9f) (hd : 0x80 ≤ d.toNat ∧ d.toNat ≤ 0xbf) :
    ∃ c, String.utf8EncodeChar c = [a, b, d] := by
  obtain ⟨c, hc⟩ := exists_char
    (n := (a.toNat - 0xe0) * 4096 + (b.toNat - 0x80) * 64 + (d.toNat - 0x80)) (by omega)
  refine ⟨c, ?_⟩
  unfold String.utf8EncodeChar
  rw [hc]
  dsimp only
  rw [if_neg (by omega), if_neg (by omega), if_pos (by omega)]
  simp only [List.cons.injEq, ← UInt8.toNat_inj, UInt8.toNat_ofNat', and_true]
  omega

/-- So are four. -/
theorem exists_utf8EncodeChar_eq_four {a b d e : UInt8} (ha : 0xf0 ≤ a.toNat ∧ a.toNat ≤ 0xf4)
    (hb : 0x80 ≤ b.toNat ∧ b.toNat ≤ 0xbf) (hlow : a.toNat = 0xf0 → 0x90 ≤ b.toNat)
    (hhigh : a.toNat = 0xf4 → b.toNat ≤ 0x8f) (hd : 0x80 ≤ d.toNat ∧ d.toNat ≤ 0xbf)
    (he : 0x80 ≤ e.toNat ∧ e.toNat ≤ 0xbf) : ∃ c, String.utf8EncodeChar c = [a, b, d, e] := by
  obtain ⟨c, hc⟩ := exists_char
    (n := (a.toNat - 0xf0) * 262144 + (b.toNat - 0x80) * 4096 + (d.toNat - 0x80) * 64 + (e.toNat - 0x80))
    (by omega)
  refine ⟨c, ?_⟩
  unfold String.utf8EncodeChar
  rw [hc]
  dsimp only
  rw [if_neg (by omega), if_neg (by omega), if_neg (by omega)]
  simp only [List.cons.injEq, ← UInt8.toNat_inj, UInt8.toNat_ofNat', and_true]
  omega

/-- Bytes within the bounds that go with the first one make up a character. -/
theorem exists_utf8EncodeChar_eq (hfirst : followers first ≠ [])
    (h : List.Forall₂ InBounds (followers first) others) :
    ∃ c, String.utf8EncodeChar c = first :: others := by
  unfold followers at h hfirst
  simp only [UInt8.lt_iff_toNat_lt, UInt8.le_iff_toNat_le, ← UInt8.toNat_inj, UInt8.toNat_ofNat] at h hfirst
  -- One case for each number of bytes.
  split at h
  · next hlow =>
    rw [if_pos hlow] at hfirst
    exact absurd rfl hfirst
  · split at h
    · obtain _ | ⟨hb, _ | _⟩ := h
      simp only [InBounds, UInt8.le_iff_toNat_le, UInt8.toNat_ofNat] at hb
      exact exists_utf8EncodeChar_eq_two (by omega) (by omega)
    · split at h
      · obtain _ | ⟨hb, _ | ⟨hd, _ | _⟩⟩ := h
        simp only [InBounds, UInt8.le_iff_toNat_le, UInt8.toNat_ofNat, apply_ite UInt8.toNat] at hb hd
        exact exists_utf8EncodeChar_eq_three (by omega) (by split_ifs at hb <;> omega)
          (by split_ifs at hb <;> omega) (by split_ifs at hb <;> omega) (by omega)
      · split at h
        · obtain _ | ⟨hb, _ | ⟨hd, _ | ⟨he, _ | _⟩⟩⟩ := h
          simp only [InBounds, UInt8.le_iff_toNat_le, UInt8.toNat_ofNat, apply_ite UInt8.toNat] at hb hd he
          exact exists_utf8EncodeChar_eq_four (by omega) (by split_ifs at hb <;> omega)
            (by split_ifs at hb <;> omega) (by split_ifs at hb <;> omega) (by omega) (by omega)
        · simp_all

/-! ## The longest part -/

variable {bounds : List (UInt8 × UInt8)} {more rest : List UInt8}

/-- No bounds exclude all bytes. -/
theorem le_of_mem_followers (first : UInt8) : ∀ bound ∈ followers first, bound.1 ≤ bound.2 := by
  unfold followers
  split_ifs <;> simp_all

/-- Nothing is taken without bounds. -/
theorem takeWithin_nil (rest : List UInt8) : takeWithin [] rest = [] := by
  cases rest <;> rfl

/-- What is taken can be completed: by the least bytes, for example. -/
theorem exists_takeWithin_prefix (hbounds : ∀ bound ∈ bounds, bound.1 ≤ bound.2) (rest : List UInt8) :
    ∃ all, List.Forall₂ InBounds bounds all ∧ takeWithin bounds rest <+: all := by
  induction bounds generalizing rest with
  | nil =>
    rw [takeWithin_nil]
    exact ⟨[], .nil, List.nil_prefix⟩
  | cons bound bounds ih =>
    obtain ⟨hbound, hbounds⟩ := List.forall_mem_cons.1 hbounds
    obtain ⟨least, hleast, -⟩ := ih hbounds []
    have hnothing : ∃ all, List.Forall₂ InBounds (bound :: bounds) all ∧ [] <+: all :=
      ⟨bound.1 :: least, .cons ⟨UInt8.le_refl _, hbound⟩ hleast, List.nil_prefix⟩
    cases rest with
    | nil => exact hnothing
    | cons b rest =>
      rw [takeWithin]
      split
      · next hb =>
        obtain ⟨all, hall, htaken⟩ := ih hbounds rest
        exact ⟨b :: all, .cons hb hall, List.cons_prefix_cons.2 ⟨rfl, htaken⟩⟩
      · exact hnothing

/-- All that lies within the bounds is taken. -/
theorem prefix_takeWithin {all : List UInt8} (hall : List.Forall₂ InBounds bounds all) (hmore : more <+: all)
    (hrest : more <+: rest) : more <+: takeWithin bounds rest := by
  induction hall generalizing more rest with
  | nil => rw [List.prefix_nil.1 hmore]; exact List.nil_prefix
  | @cons bound b bounds all hb hall ih =>
    cases more with
    | nil => exact List.nil_prefix
    | cons _ more =>
      obtain ⟨rfl, hothers⟩ := List.cons_prefix_cons.1 hmore
      obtain ⟨tail, rfl⟩ := hrest
      rw [List.cons_append, takeWithin]
      split_ifs with hwithin
      · exact List.cons_prefix_cons.2 ⟨rfl, ih hothers (List.prefix_append more tail)⟩
      · exact absurd hb hwithin

/-- Some character begins with the bytes. -/
def BeginsChar (bytes : List UInt8) : Prop :=
  ∃ c, bytes <+: String.utf8EncodeChar c

/-- Where no character can be read, what is broken is the first byte with as many of the others as a character
could begin with. -/
theorem firstPiece_eq_broken (h : firstChar? (first :: rest) = none) :
    ∃ others, firstPiece first rest = .broken first others ∧ others <+: rest ∧
      (others = [] ∨ BeginsChar (first :: others)) ∧
      ∀ more, more <+: rest → BeginsChar (first :: more) → more <+: others := by
  refine ⟨takeWithin (followers first) rest, by rw [firstPiece, h], takeWithin_prefix _ rest, ?_, ?_⟩
  · by_cases hfirst : followers first = []
    · left
      rw [hfirst, takeWithin_nil]
    · right
      obtain ⟨all, hall, htaken⟩ := exists_takeWithin_prefix (le_of_mem_followers first) rest
      obtain ⟨c, hc⟩ := exists_utf8EncodeChar_eq hfirst hall
      exact ⟨c, hc ▸ List.cons_prefix_cons.2 ⟨rfl, htaken⟩⟩
  · rintro more hrest ⟨c, hc⟩
    obtain ⟨b, all, hall⟩ := List.exists_cons_of_ne_nil (String.utf8EncodeChar_ne_nil (c := c))
    rw [hall] at hc
    obtain ⟨rfl, hmore⟩ := List.cons_prefix_cons.1 hc
    exact prefix_takeWithin (inBounds_followers hall) hmore hrest

end TemplateDeps.Text
