import TemplateDeps.Manifest.EdgeSpec
import TemplateDeps.Proofs.Text.Trimming

/-!
# Reading a written target

A written target is read in two steps. Blanks are taken off both ends, and then a dollar sign in front tells
variables from template names. The second step is said here for each of its outcomes:
`TargetRef.ofTrimmed?_eq_literal_iff`, `TargetRef.ofTrimmed?_eq_var_iff` and
`TargetRef.ofTrimmed?_eq_none_iff`. For whole targets it follows which of them name nothing
(`TargetRef.parse?_eq_none_iff`) and which are read as the name that they are (`TargetRef.parse?_self_iff`): those
that are `Verbatim`, with no blank at either end and no dollar sign in front. It also follows which variables
can be read at all (`TargetRef.parse?_eq_var`): blanks behind a variable are trimmed away, blanks between the
dollar sign and the variable are not.
-/

namespace TemplateDeps

/-- The target names nothing: without the blanks around it there is nothing left, or just a dollar sign. -/
def NamesNothing (raw : String) : Prop :=
  Text.trim raw = "" ∨ Text.trim raw = "$"

instance (raw : String) : Decidable (NamesNothing raw) :=
  inferInstanceAs (Decidable (_ ∨ _))

/-- A name as a target can be written: it does not begin with a blank or a dollar sign, and does not end with
a blank. -/
structure Verbatim (name : String) : Prop where
  front : ∀ c ∈ name.toList.head?, Text.isBlank c = false ∧ c ≠ '$'
  back : ∀ c ∈ name.toList.getLast?, Text.isBlank c = false

namespace TargetRef

variable {cs : List Char} {raw name : String}

/-- What begins with no dollar sign is the name of a template. -/
theorem ofTrimmed?_eq_literal_iff :
    ofTrimmed? cs = some (.literal name) ↔
      cs ≠ [] ∧ cs.head? ≠ some '$' ∧ name = String.ofList cs := by
  unfold ofTrimmed?
  split
  · simp
  · simp
  · simp
  · next hempty hdollar hvar =>
    have hhead : cs.head? ≠ some '$' := by
      cases cs with
      | nil => simp
      | cons c rest =>
        rintro hc
        exact hvar rest (by rw [Option.some.inj hc])
    rw [and_iff_right hempty, and_iff_right hhead, Option.some.injEq, literal.injEq, eq_comm]

/-- Something behind a dollar sign is the name of a variable. -/
theorem ofTrimmed?_eq_var_iff :
    ofTrimmed? cs = some (.var name) ↔ cs = '$' :: name.toList ∧ name ≠ "" := by
  unfold ofTrimmed?
  split
  · simp
  · simp [eq_comm (a := ([] : List Char))]
  · next rest hrest =>
    rw [Option.some.injEq, var.injEq, List.cons.injEq, and_iff_right rfl]
    constructor
    · rintro rfl
      rw [String.toList_ofList]
      refine ⟨rfl, fun hempty => hrest ?_⟩
      rw [← String.toList_ofList (l := rest), hempty]
      rfl
    · rintro ⟨rfl, -⟩
      exact String.ofList_toList
  · next hvar =>
    refine iff_of_false (by simp) ?_
    rintro ⟨rfl, -⟩
    exact hvar _ rfl

/-- Nothing, and a dollar sign alone, are no targets. -/
theorem ofTrimmed?_eq_none_iff : ofTrimmed? cs = none ↔ cs = [] ∨ cs = ['$'] := by
  unfold ofTrimmed?
  split
  · simp
  · simp
  · next rest hrest => simpa using hrest
  · next hempty hdollar _ => exact iff_of_false (by simp) (not_or.2 ⟨hempty, hdollar⟩)

/-- The targets that cannot be read are those that name nothing. -/
theorem parse?_eq_none_iff : parse? raw = none ↔ NamesNothing raw := by
  rw [parse?, ofTrimmed?_eq_none_iff, NamesNothing, ← String.toList_inj, ← String.toList_inj,
    Text.toList_trim]
  rfl

/-- The targets that are read as the name they write are the verbatim ones. -/
theorem parse?_self_iff {name : String} :
    parse? name = some (.literal name) ↔ name ≠ "" ∧ Verbatim name := by
  have hchars : name = String.ofList (Text.trimChars name.toList) ↔
      Text.trimChars name.toList = name.toList := by
    rw [eq_comm, ← String.toList_inj, String.toList_ofList]
  rw [parse?, ofTrimmed?_eq_literal_iff, hchars]
  constructor
  · rintro ⟨hsome, hdollar, htrim⟩
    obtain ⟨hfront, hback⟩ := Text.trimChars_eq_self_iff.1 htrim
    rw [htrim] at hsome hdollar
    refine ⟨fun hempty => hsome (by rw [hempty]; rfl), fun c hc => ⟨hfront c hc, ?_⟩, hback⟩
    rintro rfl
    exact hdollar hc
  · rintro ⟨hempty, hverbatim⟩
    have htrim : Text.trimChars name.toList = name.toList :=
      Text.trimChars_eq_self_iff.2 ⟨fun c hc => (hverbatim.front c hc).1, hverbatim.back⟩
    rw [htrim]
    refine ⟨fun hnil => hempty (String.toList_eq_nil_iff.1 hnil), fun hdollar => ?_, rfl⟩
    exact (hverbatim.front '$' hdollar).2 rfl

/-- A variable of a written target is not empty and does not end with a blank. -/
theorem parse?_eq_var (h : parse? raw = some (.var name)) :
    name ≠ "" ∧ ∀ c ∈ name.toList.getLast?, Text.isBlank c = false := by
  obtain ⟨htrim, hname⟩ := ofTrimmed?_eq_var_iff.1 h
  refine ⟨hname, fun c hc => ?_⟩
  have hlast : c ∈ (Text.trimChars raw.toList).getLast? := by
    rw [htrim, List.getLast?_cons, Option.mem_def.1 hc]
    rfl
  exact Text.getLast?_trimChars hlast

end TargetRef

/-- What is written as the only target of an edge is its only candidate. -/
theorem EdgeSpec.candidates_of_written {spec : EdgeSpec} {raw : String} {target : TargetRef}
    (hwritten : spec.written = [raw]) (hparse : TargetRef.parse? raw = some target) :
    spec.candidates = [target] := by
  rw [candidates, hwritten, List.filterMap_cons_some hparse, List.filterMap_nil]

end TemplateDeps
