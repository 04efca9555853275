import TemplateDeps.Proofs.Text.Codes
import TemplateDeps.Text.Quoted

/-!
# Quoted text can be read back

What stands between quotes is put together from the escapes of characters. Each escape says where it ends:
it is the character itself, or a backslash and a letter, or a hexadecimal number between braces
(`escapeChar_cases`). None begins with a quote, so that the closing quote is not mistaken for a part of the
text. Hence `prefixFree_quote`: whatever follows a quoted text, the text is known, whatever characters it
has. A quoted text has no line break in it (`newline_not_mem_quote`).
-/

namespace TemplateDeps.Text

/-- The letters that stand for a character behind a backslash, each with this character. -/
def letters : List (Char × Char) :=
  [('"', '"'), ('\\', '\\'), ('n', '\n'), ('r', '\r'), ('t', '\t'), ('0', '\x00')]

/-- A letter stands for one character. -/
theorem eq_of_mem_letters {letter c d : Char} (hc : (letter, c) ∈ letters) (hd : (letter, d) ∈ letters) :
    c = d := by
  have hall : ∀ p ∈ letters, ∀ q ∈ letters, p.1 = q.1 → p.2 = q.2 := by decide
  exact hall _ hc _ hd rfl

/-- The letter of a number between braces is none of them, and neither is a line break. -/
theorem letter_ne {letter c : Char} (h : (letter, c) ∈ letters) : letter ≠ 'u' ∧ letter ≠ '\n' := by
  have hall : ∀ p ∈ letters, p.1 ≠ 'u' ∧ p.1 ≠ '\n' := by decide
  exact hall _ h

/-- A character stands for itself, or a letter stands for it, or its number. -/
theorem escapeChar_cases (c : Char) :
    (escapeChar c = [c] ∧ c ≠ '"' ∧ c ≠ '\\' ∧ c ≠ '\n') ∨
    (∃ letter, escapeChar c = ['\\', letter] ∧ (letter, c) ∈ letters) ∨
    escapeChar c = '\\' :: 'u' :: '{' :: (Nat.toDigits 16 c.toNat ++ ['}']) := by
  unfold escapeChar
  split
  · next hc => exact .inr (.inl ⟨'"', rfl, by simp [hc, letters]⟩)
  · next hquote =>
    split
    · next hc => exact .inr (.inl ⟨'\\', rfl, by simp [hc, letters]⟩)
    · next hbackslash =>
      split
      · next hc => exact .inr (.inl ⟨'n', rfl, by simp [hc, letters]⟩)
      · next hnewline =>
        split
        · next hc => exact .inr (.inl ⟨'r', rfl, by simp [hc, letters]⟩)
        · split
          · next hc => exact .inr (.inl ⟨'t', rfl, by simp [hc, letters]⟩)
          · split
            · next hc => exact .inr (.inl ⟨'0', rfl, by simp [hc, letters]⟩)
            · split
              · exact .inl ⟨rfl, hquote, hbackslash, hnewline⟩
              · exact .inr (.inr rfl)

/-- An escape is known from the text that it begins. -/
theorem prefixFree_escapeChar : PrefixFree escapeChar := by
  intro c d u v h
  rcases escapeChar_cases c with ⟨hc, -, hc', -⟩ | ⟨letter, hc, hletter⟩ | hc <;>
    rcases escapeChar_cases d with ⟨hd, -, hd', -⟩ | ⟨letter', hd, hletter'⟩ | hd <;>
    rw [hc, hd] at h
  · exact List.cons.inj h
  · exact absurd (List.cons.inj h).1 hc'
  · exact absurd (List.cons.inj h).1 hc'
  · exact absurd (List.cons.inj h).1.symm hd'
  · obtain ⟨rfl, hfollow⟩ := List.cons.inj (List.cons.inj h).2
    exact ⟨eq_of_mem_letters hletter hletter', hfollow⟩
  · exact absurd (List.cons.inj (List.cons.inj h).2).1 (letter_ne hletter).1
  · exact absurd (List.cons.inj h).1.symm hd'
  · exact absurd (List.cons.inj (List.cons.inj h).2).1.symm (letter_ne hletter').1
  · have hnumber : Nat.toDigits 16 c.toNat ++ '}' :: u = Nat.toDigits 16 d.toNat ++ '}' :: v := by
      simpa using h
    obtain ⟨hcode, hfollow⟩ := toDigits_append_inj (by decide) (by decide) (by decide) hnumber
    exact ⟨Char.toNat_inj.1 hcode, hfollow⟩

/-- No escape begins like the closing quote. -/
theorem escapeChar_append_ne (c : Char) (w u : List Char) : escapeChar c ++ w ≠ '"' :: u := by
  intro h
  rcases escapeChar_cases c with ⟨hc, hquote, -⟩ | ⟨letter, hc, -⟩ | hc <;> rw [hc] at h
  · exact hquote (List.cons.inj h).1
  · exact absurd (List.cons.inj h).1 (by decide)
  · exact absurd (List.cons.inj h).1 (by decide)

/-- A quoted text is known from the text that it begins. -/
theorem prefixFree_quote : PrefixFree fun s => (quote s).toList := by
  intro s t u v h
  simp only [toList_quote, List.cons_append, List.append_assoc, List.nil_append, List.cons.injEq,
    true_and] at h
  obtain ⟨hchars, hfollow⟩ := prefixFree_escapeChar.flatMap_append_inj
    (fun c w => escapeChar_append_ne c w u) (fun c w => escapeChar_append_ne c w v) h
  exact ⟨String.toList_inj.1 hchars, (List.cons.inj hfollow).2⟩

/-- Escapes have no line break in them. -/
theorem newline_not_mem_escapeChar (c : Char) : '\n' ∉ escapeChar c := by
  rcases escapeChar_cases c with ⟨hc, -, -, hnewline⟩ | ⟨letter, hc, hletter⟩ | hc <;> rw [hc]
  · exact fun hmem => hnewline (List.mem_singleton.1 hmem).symm
  · simpa using (letter_ne hletter).2.symm
  · have hnumber : '\n' ∉ Nat.toDigits 16 c.toNat := not_mem_toDigits (by decide) (by decide) (by decide) _
    simpa using hnumber

/-- Neither has a quoted text. -/
theorem newline_not_mem_quote (s : String) : '\n' ∉ (quote s).toList := by
  have hchars : ∀ c ∈ s.toList, '\n' ∉ escapeChar c := fun c _ => newline_not_mem_escapeChar c
  simpa using hchars

end TemplateDeps.Text
