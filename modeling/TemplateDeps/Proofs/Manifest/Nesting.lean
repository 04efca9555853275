import TemplateDeps.Proofs.Manifest.Walks
import Mathlib.Data.Finset.Card
import Mathlib.Data.Finset.Range
import Mathlib.Data.Nat.SuccPred
import Mathlib.Order.SuccPred.Relation

/-!
# How deep walks go

How deep a walk goes is a question about chains of edges: `Manifest.LeadsIn n` says that following `n`
edges leads from one template to another.

* `fault_walkWithin_eq_none_iff`: a walk of bounded depth has no fault exactly when its template exists,
  every template within the bound is passable, and no chain is as long as the bound.
* `leadsIn_of_tooDeep`: a walk that is too deep has found a chain as long as the bound.
* `LeadsIn.reachesCycle`: a chain of as many edges as the manifest has templates runs into a cycle. The
  other way round, `ReachesCycle.exists_leadsIn` goes round a cycle for as long as is asked for.
* `exists_step_iff`: a walk without a fault takes steps to exactly the templates that edges lead to, in
  one step or in several.
-/

namespace TemplateDeps

namespace Manifest

open Relation

variable {m : Manifest} {vars : Variables} {depth : Nat} {name : String}

/-- Following so many edges leads from one template to the other. -/
inductive LeadsIn (m : Manifest) (vars : Variables) : Nat → String → String → Prop
  | here (name : String) : LeadsIn m vars 0 name name
  | step {n : Nat} {first next last : String} (hleads : m.Leads vars first next)
      (hrest : LeadsIn m vars n next last) : LeadsIn m vars (n + 1) first last

/-- A longer chain starts with one edge. -/
theorem leadsIn_succ_iff {n : Nat} {a c : String} :
    m.LeadsIn vars (n + 1) a c ↔ ∃ b, m.Leads vars a b ∧ m.LeadsIn vars n b c := by
  constructor
  · rintro (_ | ⟨hleads, hrest⟩)
    exact ⟨_, hleads, hrest⟩
  · rintro ⟨b, hleads, hrest⟩
    exact .step hleads hrest

/-! ## Faults and chains -/

/-- A walk has no fault exactly when its template exists, the templates within its depth are passable,
and no chain is as long as its depth. -/
theorem fault_walkWithin_eq_none_iff :
    (m.walkWithin vars depth name).fault = none ↔
      m.contains name = true ∧
      (∀ n < depth, ∀ t, m.LeadsIn vars n name t → m.Passable vars t) ∧
      ¬ ∃ t, m.LeadsIn vars depth name t := by
  induction depth generalizing name with
  | zero =>
    have hhere : ∃ t, m.LeadsIn vars 0 name t := ⟨name, .here name⟩
    simp [walkWithin, Walk.failed, hhere]
  | succ depth ih =>
    rw [fault_walkWithin_succ_eq_none_iff]
    constructor
    · rintro ⟨hname, hpass, hrest⟩
      refine ⟨hname, ?_, ?_⟩
      · intro n hn t hchain
        cases hchain with
        | here => exact hpass
        | step hleads hchain => exact (ih.1 (hrest _ hleads)).2.1 _ (by omega) t hchain
      · rintro ⟨t, hchain⟩
        obtain ⟨next, hleads, hchain⟩ := leadsIn_succ_iff.1 hchain
        exact (ih.1 (hrest next hleads)).2.2 ⟨t, hchain⟩
    · rintro ⟨hname, hpass, hbound⟩
      refine ⟨hname, hpass 0 (by omega) name (.here name), fun next hleads => ih.2 ⟨?_, ?_, ?_⟩⟩
      · exact hleads.contains_target
      · intro n hn t hchain
        exact hpass (n + 1) (by omega) t (.step hleads hchain)
      · rintro ⟨t, hchain⟩
        exact hbound ⟨t, .step hleads hchain⟩

/-- A walk is too deep at the end of a chain as long as its depth. -/
theorem leadsIn_of_tooDeep {t : String}
    (h : (m.walkWithin vars depth name).fault = some (.tooDeep t)) :
    m.LeadsIn vars depth name t := by
  induction depth generalizing name with
  | zero =>
    cases h
    exact .here t
  | succ depth ih =>
    rcases fault_walkWithin_succ_eq_some h with ⟨_, hmissing⟩ | ⟨_, hunbound, -⟩ | ⟨next, hleads, hrest⟩
    · cases hmissing
    · cases hunbound
    · exact .step hleads (ih hrest)

/-- There are three ways for a walk to fail. -/
theorem fault_walkWithin_eq_some {fault : Fault}
    (h : (m.walkWithin vars depth name).fault = some fault) :
    (∃ t, fault = .tooDeep t) ∨ (∃ tried, fault = .templateNotFound tried) ∨
      ∃ v, fault = .unboundVariable v := by
  induction depth generalizing name with
  | zero =>
    cases h
    exact .inl ⟨name, rfl⟩
  | succ depth ih =>
    rcases fault_walkWithin_succ_eq_some h with hmissing | ⟨v, hunbound, -⟩ | ⟨next, -, hrest⟩
    · exact .inr (.inl hmissing)
    · exact .inr (.inr ⟨v, hunbound⟩)
    · exact ih hrest

/-! ## Cycles -/

/-- Edges lead from the template to one that they lead back to. -/
def ReachesCycle (m : Manifest) (vars : Variables) (name : String) : Prop :=
  ∃ t, ReflTransGen (m.Leads vars) name t ∧ TransGen (m.Leads vars) t t

/-- From a cycle one can go on forever. -/
theorem exists_leadsIn_of_transGen {t : String} (hcycle : TransGen (m.Leads vars) t t) (n : Nat) :
    ∃ u, m.LeadsIn vars n t u := by
  induction n generalizing t with
  | zero => exact ⟨t, .here t⟩
  | succ n ih =>
    -- The next template on the cycle is on it as well.
    obtain ⟨next, hleads, hback⟩ := TransGen.head'_iff.1 hcycle
    obtain ⟨u, hchain⟩ := ih (TransGen.tail' hback hleads)
    exact ⟨u, .step hleads hchain⟩

/-- A template from which a cycle can be reached starts chains of any length. -/
theorem ReachesCycle.exists_leadsIn (h : m.ReachesCycle vars name) (n : Nat) :
    ∃ u, m.LeadsIn vars n name u := by
  obtain ⟨t, hreach, hcycle⟩ := h
  induction hreach using ReflTransGen.head_induction_on generalizing n with
  | refl => exact exists_leadsIn_of_transGen hcycle n
  | @head first next hleads _ ih =>
    cases n with
    | zero => exact ⟨first, .here first⟩
    | succ n =>
      obtain ⟨u, hchain⟩ := ih n
      exact ⟨u, .step hleads hchain⟩

/-- A walk without a fault does not get near a cycle. -/
theorem not_reachesCycle (h : (m.walkWithin vars depth name).fault = none) :
    ¬ m.ReachesCycle vars name := fun hcycle =>
  (fault_walkWithin_eq_none_iff.1 h).2.2 (hcycle.exists_leadsIn depth)

namespace LeadsIn

variable {n : Nat} {first last : String}

/-- The templates on a chain, by their distance from its start. -/
theorem exists_path (h : m.LeadsIn vars n first last) :
    ∃ path : Nat → String, path 0 = first ∧
      ∀ i < n, m.Leads vars (path i) (path (i + 1)) := by
  induction h with
  | here name => exact ⟨fun _ => name, rfl, fun i hi => absurd hi (Nat.not_lt_zero i)⟩
  | @step n first next last hleads _ ih =>
    obtain ⟨path, hstart, hpath⟩ := ih
    refine ⟨fun i => i.casesOn first path, rfl, fun i hi => ?_⟩
    cases i with
    | zero =>
      show m.Leads vars first (path 0)
      rw [hstart]
      exact hleads
    | succ i => exact hpath i (by omega)

/-- A chain with as many edges as the manifest has templates runs into a cycle: it has one template more
than that on it, so that one of them comes twice. -/
theorem reachesCycle (h : m.LeadsIn vars n first last) (hfirst : m.contains first = true)
    (hn : m.names.length ≤ n) : m.ReachesCycle vars first := by
  obtain ⟨path, hstart, hpath⟩ := h.exists_path
  have hmem : ∀ i ∈ Finset.range (n + 1), path i ∈ m.names.toFinset := by
    intro i hi
    rw [List.mem_toFinset]
    refine (NameMap.mem_keys_iff _).2 ?_
    cases i with
    | zero => exact hstart.symm ▸ hfirst
    | succ i => exact (hpath i (by simpa using hi)).contains_target
  have hcard : m.names.toFinset.card < (Finset.range (n + 1)).card := by
    rw [Finset.card_range]
    exact Nat.lt_succ_of_le ((List.toFinset_card_le _).trans hn)
  have hreach : ∀ i j, i < j → j ≤ n → TransGen (m.Leads vars) (path i) (path j) := by
    intro i j hij hj
    have hsucc : ∀ k ∈ Set.Ico i j, m.Leads vars (path k) (path (Order.succ k)) :=
      fun k hk => hpath k (hk.2.trans_le hj)
    exact (transGen_of_succ_of_lt (fun a b => m.Leads vars (path a) (path b)) hsucc hij).lift path
      fun _ _ hleads => hleads
  have hfrom : ∀ i ≤ n, ReflTransGen (m.Leads vars) first (path i) := by
    intro i hi
    rcases Nat.eq_zero_or_pos i with rfl | hpos
    · exact hstart ▸ .refl
    · exact hstart ▸ (hreach 0 i hpos hi).to_reflTransGen
  obtain ⟨i, hi, j, hj, hne, heq⟩ := Finset.exists_ne_map_eq_of_card_lt_of_maps_to hcard hmem
  rw [Finset.mem_range, Nat.lt_succ_iff] at hi hj
  rcases Nat.lt_or_gt_of_ne hne with hij | hij
  · exact ⟨path i, hfrom i hi, heq ▸ hreach i j hij hj⟩
  · exact ⟨path j, hfrom j hj, heq ▸ hreach j i hij hi⟩

end LeadsIn

/-! ## Steps -/

/-- Edges lead to the target of every step, one edge or several. -/
theorem reaches_of_mem_steps {step : Step} (h : step ∈ (m.walkWithin vars depth name).steps) :
    TransGen (m.Leads vars) name step.target := by
  induction depth generalizing name with
  | zero => cases h
  | succ depth ih =>
    obtain ⟨next, hleads, ⟨-, rfl⟩ | hstep⟩ := mem_steps_walkWithin_succ h
    · exact .single hleads
    · exact .head hleads (ih hstep)

/-- A walk without a fault takes steps to exactly the templates that edges lead to, one edge or
several. -/
theorem exists_step_iff (h : (m.walkWithin vars depth name).fault = none) {t : String} :
    (∃ step ∈ (m.walkWithin vars depth name).steps, step.target = t) ↔
      TransGen (m.Leads vars) name t := by
  constructor
  · rintro ⟨step, hstep, rfl⟩
    exact reaches_of_mem_steps hstep
  · intro hreach
    induction depth generalizing name with
    | zero => cases h
    | succ depth ih =>
      obtain ⟨next, hleads, hrest⟩ := TransGen.head'_iff.1 hreach
      obtain ⟨hnext, hbeyond⟩ := exists_step_of_leads h hleads
      rcases reflTransGen_iff_eq_or_transGen.1 hrest with rfl | hrest
      · exact hnext
      · have hfault := (fault_walkWithin_succ_eq_none_iff.1 h).2.2 next hleads
        obtain ⟨step, hstep, htarget⟩ := ih hfault hrest
        exact ⟨step, hbeyond step hstep, htarget⟩

end Manifest

end TemplateDeps
