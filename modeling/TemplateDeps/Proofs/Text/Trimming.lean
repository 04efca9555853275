import TemplateDeps.Text.Blank
import Mathlib.Data.List.DropRight

/-!
# Trimmed text

Trimming takes the blanks off both ends of a text. What it leaves has no blank at either end
(`head?_trimChars`, `getLast?_trimChars`), and a text without blanks at its ends is left as it is
(`trimChars_eq_self_iff`). So a text is trimmed once and for all (`trimChars_trimChars`), and blanks that are put
around it make no difference to what is left (`trimChars_pad`).
-/

namespace TemplateDeps.Text

variable {cs : List Char}

/-- Trimming leaves alone what has no blank at either end. -/
theorem trimChars_eq_self_iff :
    trimChars cs = cs ↔ (∀ c ∈ cs.head?, isBlank c = false) ∧ ∀ c ∈ cs.getLast?, isBlank c = false := by
  have htrim : trimChars cs = (cs.dropWhile isBlank).rdropWhile isBlank := rfl
  have hfront : cs.dropWhile isBlank = cs ↔ ∀ c ∈ cs.head?, isBlank c = false := by
    cases cs with
    | nil => simp
    | cons c rest => simp [List.dropWhile_eq_self_iff]
  have hback : cs.rdropWhile isBlank = cs ↔ ∀ c ∈ cs.getLast?, isBlank c = false := by
    rw [List.rdropWhile_eq_self_iff]
    cases cs with
    | nil => simp
    | cons c rest => simp [List.getLast?_eq_getLast_of_ne_nil]
  rw [htrim, ← hfront, ← hback]
  constructor
  · intro heq
    -- Nothing can have been dropped in front, for the rest would be shorter.
    have hlength : cs.length ≤ (cs.dropWhile isBlank).length := by
      conv_lhs => rw [← heq]
      exact (List.rdropWhile_prefix _ _).length_le
    have hkept : cs.dropWhile isBlank = cs :=
      (List.dropWhile_suffix _).eq_of_length_le hlength
    exact ⟨hkept, by rwa [hkept] at heq⟩
  · rintro ⟨hkept, hrest⟩
    rw [hkept, hrest]

/-- What is left begins with no blank. -/
theorem head?_trimChars {c : Char} (h : c ∈ (trimChars cs).head?) : isBlank c = false := by
  obtain ⟨rest, hrest⟩ := List.head?_eq_some_iff.1 h
  -- The end that was dropped leaves the beginning where it was.
  have hprefix : trimChars cs <+: cs.dropWhile isBlank := List.rdropWhile_prefix isBlank _
  obtain ⟨dropped, happend⟩ := hprefix
  have hfirst := List.head?_dropWhile_not isBlank cs
  rw [← happend, hrest] at hfirst
  simpa using hfirst

/-- What is left ends with no blank. -/
theorem getLast?_trimChars {c : Char} (h : c ∈ (trimChars cs).getLast?) : isBlank c = false := by
  have hne : trimChars cs ≠ [] := by
    intro hnil
    rw [hnil] at h
    cases h
  rw [List.getLast?_eq_getLast_of_ne_nil hne] at h
  obtain rfl : (trimChars cs).getLast hne = c := Option.some.inj h
  exact Bool.eq_false_iff.2 (List.rdropWhile_last_not isBlank (cs.dropWhile isBlank) hne)

/-- Nothing is left to be trimmed. -/
theorem trimChars_trimChars (cs : List Char) : trimChars (trimChars cs) = trimChars cs :=
  trimChars_eq_self_iff.2 ⟨fun _ => head?_trimChars, fun _ => getLast?_trimChars⟩

/-- Blanks behind a text are dropped along with those that it ends with. -/
theorem rdropWhile_append_of_blank {after : List Char} (hafter : ∀ c ∈ after, isBlank c = true) :
    (cs ++ after).rdropWhile isBlank = cs.rdropWhile isBlank := by
  have hreverse : ∀ c ∈ after.reverse, isBlank c = true := fun c hc => hafter c (List.mem_reverse.1 hc)
  rw [List.rdropWhile, List.reverse_append, List.dropWhile_append_of_pos hreverse, List.rdropWhile]

/-- Blanks around a text are trimmed away. -/
theorem trimChars_pad {before after : List Char} (hbefore : ∀ c ∈ before, isBlank c = true)
    (hafter : ∀ c ∈ after, isBlank c = true) : trimChars (before ++ cs ++ after) = trimChars cs := by
  have htrim : ∀ l, trimChars l = (l.dropWhile isBlank).rdropWhile isBlank := fun _ => rfl
  rw [htrim, htrim, List.append_assoc, List.dropWhile_append_of_pos hbefore, List.dropWhile_append]
  split
  · next hempty =>
    -- Nothing is left of the text itself, so nothing but blanks was there.
    rw [List.isEmpty_iff.1 hempty, List.dropWhile_eq_nil_iff.2 hafter]
  · exact rdropWhile_append_of_blank hafter

/-- Trimming brings in no characters. -/
theorem mem_of_mem_trimChars {c : Char} (h : c ∈ trimChars cs) : c ∈ cs :=
  (List.dropWhile_suffix _).mem ((List.rdropWhile_prefix isBlank _).mem h)

end TemplateDeps.Text
