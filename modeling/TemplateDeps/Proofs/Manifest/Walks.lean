import TemplateDeps.Manifest.Walk
import TemplateDeps.Proofs.Manifest.Selection

/-!
# What a walk finds

A walk is put together of selections, and what is said of it here is said from the bottom up: of chains,
of the walk over one edge, of one level of the walk from a template.

`Manifest.walkEdge_cases` says in terms of the candidates where a walk goes over one edge. `Manifest.Passable`
is the condition under which no edge of a template stops a walk.
`fault_walkWithin_succ_eq_none_iff` says when a walk comes to its end without a fault,
`fault_walkWithin_succ_eq_some` where a fault comes from, `mem_steps_walkWithin_succ` where a step does,
and `exists_step_of_leads` which steps are taken. All of them go one level down; what follows for whole
walks is an induction on the depth over one of them.
-/

namespace TemplateDeps

/-! ## Chains -/

namespace Walk

variable {α : Type} {visit : α → Walk} {l : List α}

/-- A walk that goes on takes its fault from the part that failed first. -/
theorem fault_andThen (w next : Walk) : (w.andThen next).fault = w.fault.or next.fault := by
  obtain ⟨steps, _ | fault⟩ := w <;> rfl

/-- After a walk without a fault come the steps of the next one. -/
theorem steps_andThen {w : Walk} (h : w.fault = none) (next : Walk) :
    (w.andThen next).steps = w.steps ++ next.steps := by
  rw [andThen, h]

/-- A step of a walk that goes on is a step of one of its parts. -/
theorem mem_steps_andThen {w next : Walk} {step : Step} (h : step ∈ (w.andThen next).steps) :
    step ∈ w.steps ∨ step ∈ next.steps := by
  obtain ⟨steps, _ | fault⟩ := w
  · exact List.mem_append.1 h
  · exact .inl h

/-- The fault of a chain is the first one that its members have. -/
theorem fault_chain (visit : α → Walk) (l : List α) :
    (chain visit l).fault = l.findSome? fun a => (visit a).fault := by
  induction l with
  | nil => rfl
  | cons a rest ih =>
    rw [chain_cons, fault_andThen, ih, List.findSome?_cons]
    cases (visit a).fault <;> rfl

/-- A chain has no fault when none of its members has one. -/
theorem fault_chain_eq_none_iff : (chain visit l).fault = none ↔ ∀ a ∈ l, (visit a).fault = none := by
  rw [fault_chain, List.findSome?_eq_none_iff]

/-- A fault of a chain is one of a member. -/
theorem exists_of_fault_chain {fault : Fault} (h : (chain visit l).fault = some fault) :
    ∃ a ∈ l, (visit a).fault = some fault := by
  rw [fault_chain] at h
  exact List.exists_of_findSome?_eq_some h

/-- A step of a chain is one of a member. -/
theorem exists_of_mem_steps_chain {step : Step} (h : step ∈ (chain visit l).steps) :
    ∃ a ∈ l, step ∈ (visit a).steps := by
  induction l with
  | nil => cases h
  | cons a rest ih =>
    rw [chain_cons] at h
    rcases mem_steps_andThen h with h | h
    · exact ⟨a, List.mem_cons_self, h⟩
    · obtain ⟨b, hb, hstep⟩ := ih h
      exact ⟨b, List.mem_cons_of_mem _ hb, hstep⟩

/-- A chain without a fault takes every step of every member. -/
theorem mem_steps_chain_iff (h : (chain visit l).fault = none) {step : Step} :
    step ∈ (chain visit l).steps ↔ ∃ a ∈ l, step ∈ (visit a).steps := by
  refine ⟨exists_of_mem_steps_chain, ?_⟩
  rintro ⟨a, ha, hstep⟩
  induction l with
  | nil => cases ha
  | cons b rest ih =>
    rw [fault_chain_eq_none_iff] at h
    obtain ⟨hb, hrest⟩ := List.forall_mem_cons.1 h
    rw [chain_cons, steps_andThen hb, List.mem_append]
    rcases List.mem_cons.1 ha with rfl | ha
    · exact .inl hstep
    · exact .inr (ih (fault_chain_eq_none_iff.2 hrest) ha)

end Walk

/-! ## Edges that pass -/

namespace Manifest

variable {m : Manifest} {vars : Variables}

/-- The edge leads to a template, or it is an optional include that is passed over. -/
def EdgePasses (m : Manifest) (vars : Variables) (edge : EdgeSpec) : Prop :=
  (∃ target, m.select vars edge.optional edge.candidates = .ok (some target)) ∨
    (edge.optional = true ∧ m.select vars edge.optional edge.candidates = .ok none)

/-- No edge of the template stops a walk. -/
def Passable (m : Manifest) (vars : Variables) (name : String) : Prop :=
  ∀ entry, m.get? name = some entry → ∀ edge ∈ entry.edges, m.EdgePasses vars edge

/-- An edge passes when its selection does not fail. -/
theorem edgePasses_iff {edge : EdgeSpec} :
    m.EdgePasses vars edge ↔ ∃ found, m.select vars edge.optional edge.candidates = .ok found := by
  constructor
  · rintro (⟨target, hselect⟩ | ⟨-, hselect⟩)
    · exact ⟨_, hselect⟩
    · exact ⟨_, hselect⟩
  · rintro ⟨_ | target, hselect⟩
    · exact .inr ⟨optional_of_select_eq_ok_none hselect, hselect⟩
    · exact .inl ⟨target, hselect⟩

/-- Edges lead from templates of the manifest to templates of the manifest. -/
theorem Leads.contains_owner {owner target : String} (h : m.Leads vars owner target) :
    m.contains owner = true := by
  obtain ⟨entry, hentry, -⟩ := h
  exact Option.isSome_iff_exists.2 ⟨entry, hentry⟩

theorem Leads.contains_target {owner target : String} (h : m.Leads vars owner target) :
    m.contains target = true := by
  obtain ⟨-, -, edge, -, hselect⟩ := h
  exact (select_eq_ok_some hselect).1

/-! ## One level of a walk -/

/-- A walk takes an edge to the first candidate that exists, and goes on from there. It fails at a variable
without a value, if that comes first. Where no candidate exists, an optional edge is passed over, and any other
one ends the walk. -/
theorem walkEdge_cases (m : Manifest) (vars : Variables) (owner : String) (descend : String → Walk)
    (edge : EdgeSpec) :
    (∃ before target after, edge.candidates = before ++ target :: after ∧
      (∀ t ∈ before, ∃ name, m.Misses vars t name) ∧
      ((∃ name, target.evaluate vars = .ok name ∧ m.contains name = true ∧
          m.walkEdge vars owner descend edge = (Walk.single ⟨owner, edge, name⟩).andThen (descend name)) ∨
        ∃ v, target = .var v ∧ vars.get? v = none ∧
          m.walkEdge vars owner descend edge = .failed (.unboundVariable v))) ∨
    (∀ t ∈ edge.candidates, ∃ name, m.Misses vars t name) ∧ m.walkEdge vars owner descend edge =
      if edge.optional then .still
      else .failed (.templateNotFound (edge.candidates.filterMap (TargetRef.value? vars))) := by
  rcases m.select_cases vars edge.optional edge.candidates with
    ⟨before, target, after, hcandidates, hbefore, hdecides⟩ | ⟨hmisses, hend⟩
  · refine .inl ⟨before, target, after, hcandidates, hbefore, ?_⟩
    rcases hdecides with ⟨name, heval, hcontains, hend⟩ | ⟨v, htarget, hunbound, hend⟩
    · exact .inl ⟨name, heval, hcontains, by rw [walkEdge, hend]⟩
    · exact .inr ⟨v, htarget, hunbound, by rw [walkEdge, hend]⟩
  · refine .inr ⟨hmisses, ?_⟩
    rw [walkEdge, hend]
    cases edge.optional <;> rfl

variable {owner : String} {descend : String → Walk} {edge : EdgeSpec}

/-- The walk over an edge has no fault when the edge passes and the walk from its target has none. -/
theorem fault_walkEdge_eq_none_iff :
    (m.walkEdge vars owner descend edge).fault = none ↔
      m.EdgePasses vars edge ∧
      ∀ target, m.select vars edge.optional edge.candidates = .ok (some target) →
        (descend target).fault = none := by
  rw [walkEdge, edgePasses_iff]
  cases hselect : m.select vars edge.optional edge.candidates with
  | error fault => simp [Walk.failed]
  | ok found =>
    cases found with
    | none => simp [Walk.still]
    | some target => simp [Walk.fault_andThen, Walk.single]

/-- A walk over an edge fails where the edge leads nowhere, or further on. -/
theorem fault_walkEdge_eq_some {fault : Fault}
    (h : (m.walkEdge vars owner descend edge).fault = some fault) :
    m.select vars edge.optional edge.candidates = .error fault ∨
      ∃ target, m.select vars edge.optional edge.candidates = .ok (some target) ∧
        (descend target).fault = some fault := by
  rw [walkEdge] at h
  cases hselect : m.select vars edge.optional edge.candidates with
  | error cause =>
    rw [hselect] at h
    cases h
    exact .inl rfl
  | ok found =>
    rw [hselect] at h
    cases found with
    | none => cases h
    | some target => exact .inr ⟨target, rfl, h⟩

/-- The steps over an edge are the step to its target and the steps from there on. -/
theorem mem_steps_walkEdge_iff {step : Step} :
    step ∈ (m.walkEdge vars owner descend edge).steps ↔
      ∃ target, m.select vars edge.optional edge.candidates = .ok (some target) ∧
        (step = ⟨owner, edge, target⟩ ∨ step ∈ (descend target).steps) := by
  rw [walkEdge]
  cases hselect : m.select vars edge.optional edge.candidates with
  | error fault => simp [Walk.failed]
  | ok found =>
    cases found with
    | none => simp [Walk.still]
    | some target => simp [Walk.steps_andThen, Walk.single]

variable {depth : Nat} {name : String}

/-- A walk that may go on has no fault when its template is there, all edges of it pass, and no walk
from a template that these lead to has a fault. -/
theorem fault_walkWithin_succ_eq_none_iff :
    (m.walkWithin vars (depth + 1) name).fault = none ↔
      m.contains name = true ∧ m.Passable vars name ∧
      ∀ target, m.Leads vars name target → (m.walkWithin vars depth target).fault = none := by
  rw [walkWithin]
  cases hentry : m.get? name with
  | none =>
    have hmissing : m.contains name = false := by
      rw [contains, NameMap.contains, Option.isSome_eq_false_iff, Option.isNone_iff_eq_none]
      exact hentry
    simp [Walk.failed, hmissing]
  | some entry =>
    have hfound : m.contains name = true := Option.isSome_iff_exists.2 ⟨entry, hentry⟩
    simp only [Walk.fault_chain_eq_none_iff, fault_walkEdge_eq_none_iff, hfound, true_and]
    constructor
    · intro h
      constructor
      · intro found hsame edge hedge
        obtain rfl : entry = found := Option.some.inj (hentry.symm.trans hsame)
        exact (h edge hedge).1
      · rintro target ⟨found, hsame, edge, hedge, hselect⟩
        obtain rfl : entry = found := Option.some.inj (hentry.symm.trans hsame)
        exact (h edge hedge).2 target hselect
    · rintro ⟨hpass, hrest⟩ edge hedge
      exact ⟨hpass entry hentry edge hedge, fun target hselect =>
        hrest target ⟨entry, hentry, edge, hedge, hselect⟩⟩

/-- A fault arises at the template itself, which is missing or has an edge that leads nowhere or needs a
variable without a value, or in a walk from a template that one of its edges leads to. -/
theorem fault_walkWithin_succ_eq_some {fault : Fault}
    (h : (m.walkWithin vars (depth + 1) name).fault = some fault) :
    (∃ tried, fault = .templateNotFound tried) ∨
      (∃ v, fault = .unboundVariable v ∧ vars.get? v = none) ∨
      ∃ target, m.Leads vars name target ∧ (m.walkWithin vars depth target).fault = some fault := by
  rw [walkWithin] at h
  cases hentry : m.get? name with
  | none =>
    rw [hentry] at h
    cases h
    exact .inl ⟨_, rfl⟩
  | some entry =>
    rw [hentry] at h
    obtain ⟨edge, hedge, hfault⟩ := Walk.exists_of_fault_chain h
    rcases fault_walkEdge_eq_some hfault with hselect | ⟨target, hselect, hrest⟩
    · rcases select_eq_error hselect with hmissing | hunbound
      · exact .inl hmissing
      · exact .inr (.inl hunbound)
    · exact .inr (.inr ⟨target, ⟨entry, hentry, edge, hedge, hselect⟩, hrest⟩)

/-- A step leads from the template to the target of one of its edges, or belongs to the walk from such
a target. -/
theorem mem_steps_walkWithin_succ {step : Step}
    (h : step ∈ (m.walkWithin vars (depth + 1) name).steps) :
    ∃ target, m.Leads vars name target ∧
      (step.owner = name ∧ step.target = target ∨ step ∈ (m.walkWithin vars depth target).steps) := by
  rw [walkWithin] at h
  cases hentry : m.get? name with
  | none =>
    rw [hentry] at h
    cases h
  | some entry =>
    rw [hentry] at h
    obtain ⟨edge, hedge, hstep⟩ := Walk.exists_of_mem_steps_chain h
    obtain ⟨target, hselect, hstep⟩ := mem_steps_walkEdge_iff.1 hstep
    refine ⟨target, ⟨entry, hentry, edge, hedge, hselect⟩, ?_⟩
    rcases hstep with rfl | hstep
    · exact .inl ⟨rfl, rfl⟩
    · exact .inr hstep

/-- A walk without a fault takes a step to every template that an edge leads to, and every step of the
walk from there. -/
theorem exists_step_of_leads {target : String}
    (h : (m.walkWithin vars (depth + 1) name).fault = none) (hleads : m.Leads vars name target) :
    (∃ step ∈ (m.walkWithin vars (depth + 1) name).steps, step.target = target) ∧
      ∀ step ∈ (m.walkWithin vars depth target).steps,
        step ∈ (m.walkWithin vars (depth + 1) name).steps := by
  obtain ⟨entry, hentry, edge, hedge, hselect⟩ := hleads
  rw [walkWithin] at h ⊢
  rw [hentry] at h ⊢
  simp only [Walk.mem_steps_chain_iff h, mem_steps_walkEdge_iff]
  constructor
  · exact ⟨_, ⟨edge, hedge, target, hselect, .inl rfl⟩, rfl⟩
  · intro step hstep
    exact ⟨edge, hedge, target, hselect, .inr hstep⟩

end Manifest

end TemplateDeps
