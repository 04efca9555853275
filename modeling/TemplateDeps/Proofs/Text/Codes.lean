import Mathlib.Data.List.Basic

/-!
# Codes that can be told apart

Texts are put together from the codes of things, one behind the other. They can be taken apart again if each
code says by itself where it ends: what a text begins with is then the code of one thing only. `PrefixFree`
is this property. It passes from the members of a list to the list (`PrefixFree.flatMap_append_inj`), as
long as what follows the list begins like no code.

Numbers written in a base up to sixteen say where they end if what follows is no digit
(`toDigits_append_inj`).
-/

namespace TemplateDeps.Text

/-! ## Prefix-free codes -/

section Codes

variable {α σ : Type} {f : α → List σ}

/-- A text begins with the code of one thing at most, and this code ends in one place. -/
def PrefixFree (f : α → List σ) : Prop :=
  ∀ ⦃a b : α⦄ ⦃u v : List σ⦄, f a ++ u = f b ++ v → a = b ∧ u = v

/-- The same text may stand in front of each code. -/
theorem PrefixFree.append_left (h : PrefixFree f) (front : List σ) : PrefixFree fun a => front ++ f a := by
  intro a b u v heq
  rw [List.append_assoc, List.append_assoc] at heq
  exact h (List.append_cancel_left heq)

/-- A list of things is known from their codes, and so is what follows them, if that begins with no code. -/
theorem PrefixFree.flatMap_append_inj (h : PrefixFree f) {as bs : List α} {u v : List σ}
    (hu : ∀ a w, f a ++ w ≠ u) (hv : ∀ a w, f a ++ w ≠ v)
    (heq : as.flatMap f ++ u = bs.flatMap f ++ v) : as = bs ∧ u = v := by
  induction as generalizing bs with
  | nil =>
    cases bs with
    | nil => exact ⟨rfl, heq⟩
    | cons b bs =>
      rw [List.flatMap_cons, List.append_assoc] at heq
      exact absurd heq.symm (hu b _)
  | cons a as ih =>
    rw [List.flatMap_cons, List.append_assoc] at heq
    cases bs with
    | nil => exact absurd heq (hv a _)
    | cons b bs =>
      rw [List.flatMap_cons, List.append_assoc] at heq
      obtain ⟨rfl, hrest⟩ := h heq
      obtain ⟨rfl, hfollow⟩ := ih hrest
      exact ⟨rfl, hfollow⟩

/-- What stands in front of the first `c` is known from a text, and so is what stands behind it. -/
theorem append_cons_inj_of_not_mem {c : σ} {xs ys u v : List σ} (hx : c ∉ xs) (hy : c ∉ ys)
    (h : xs ++ c :: u = ys ++ c :: v) : xs = ys ∧ u = v := by
  -- Of the two parts in front one begins with the other, and behind that comes `c`.
  rcases List.append_eq_append_iff.1 h with ⟨_ | ⟨first, more⟩, rfl, hrest⟩ | ⟨_ | ⟨first, more⟩, rfl, hrest⟩
  · exact ⟨(List.append_nil xs).symm, (List.cons.inj hrest).2⟩
  · obtain rfl := (List.cons.inj hrest).1
    exact absurd (List.mem_append_right _ List.mem_cons_self) hy
  · exact ⟨List.append_nil ys, (List.cons.inj hrest).2.symm⟩
  · obtain rfl := (List.cons.inj hrest).1
    exact absurd (List.mem_append_right _ List.mem_cons_self) hx

end Codes

/-! ## Numbers -/

section Digits

variable {b m n : Nat}

/-- Numbers are written in digits. -/
theorem exists_digitChar_of_mem_toDigits (hb : 1 < b) {c : Char} (hc : c ∈ Nat.toDigits b n) :
    ∃ d < b, c = d.digitChar := by
  induction n using Nat.strongRecOn with
  | ind n ih =>
    rw [Nat.toDigits_eq_if hb] at hc
    split at hc
    · next hlt => exact ⟨n, hlt, List.mem_singleton.1 hc⟩
    · next hge =>
      rcases List.mem_append.1 hc with hc | hc
      · exact ih (n / b) (Nat.div_lt_self (by omega) hb) hc
      · exact ⟨n % b, Nat.mod_lt n (by omega), List.mem_singleton.1 hc⟩

/-- What is no digit is not in a number. -/
theorem not_mem_toDigits (hb : 1 < b) (hb' : b ≤ 16) {c : Char} (hc : ∀ d < 16, d.digitChar ≠ c) (n : Nat) :
    c ∉ Nat.toDigits b n := by
  intro hmem
  obtain ⟨d, hd, hdigit⟩ := exists_digitChar_of_mem_toDigits hb hmem
  exact hc d (Nat.lt_of_lt_of_le hd hb') hdigit.symm

/-- Digits up to `f` stand for different numbers. -/
theorem digitChar_inj (hm : m < 16) (hn : n < 16) (h : m.digitChar = n.digitChar) : m = n := by
  have hall : ∀ i < 16, ∀ j < 16, i.digitChar = j.digitChar → i = j := by decide
  exact hall m hm n hn h

/-- Different numbers are written differently. -/
theorem toDigits_injective (hb : 1 < b) (hb' : b ≤ 16) : Function.Injective (Nat.toDigits b) := by
  intro m n h
  induction m using Nat.strongRecOn generalizing n with
  | ind m ih =>
    rw [Nat.toDigits_eq_if hb (n := m), Nat.toDigits_eq_if hb (n := n)] at h
    have hlast : ∀ k, k % b < 16 := fun k => Nat.lt_of_lt_of_le (Nat.mod_lt k (by omega)) hb'
    -- One digit is not several.
    have hseveral : ∀ (k : Nat) (d e : Char), Nat.toDigits b k ++ [d] ≠ [e] := by
      intro k d e heq
      have hfront : Nat.toDigits b k = [] := (List.append_inj' (heq.trans (List.nil_append [e]).symm) rfl).1
      exact Nat.toDigits_ne_nil hfront
    split at h <;> split at h
    · next hm hn => exact digitChar_inj (by omega) (by omega) (List.singleton_inj.1 h)
    · exact absurd h.symm (hseveral _ _ _)
    · exact absurd h (hseveral _ _ _)
    · next hm hn =>
      obtain ⟨hfront, hback⟩ := List.append_inj' h rfl
      have hdiv : m / b = n / b := ih (m / b) (Nat.div_lt_self (by omega) hb) hfront
      have hmod : m % b = n % b := digitChar_inj (hlast m) (hlast n) (List.singleton_inj.1 hback)
      rw [← Nat.div_add_mod m b, ← Nat.div_add_mod n b, hdiv, hmod]

/-- A number is known from its digits, and so is what follows it, if that begins with no digit. -/
theorem toDigits_append_inj (hb : 1 < b) (hb' : b ≤ 16) {c : Char} (hc : ∀ d < 16, d.digitChar ≠ c)
    {u v : List Char} (h : Nat.toDigits b m ++ c :: u = Nat.toDigits b n ++ c :: v) : m = n ∧ u = v := by
  have hmem := not_mem_toDigits hb hb' hc
  obtain ⟨hdigits, hfollow⟩ := append_cons_inj_of_not_mem (hmem m) (hmem n) h
  exact ⟨toDigits_injective hb hb' hdigits, hfollow⟩

end Digits

end TemplateDeps.Text
