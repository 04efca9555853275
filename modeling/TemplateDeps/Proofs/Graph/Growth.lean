import TemplateDeps.Manifest.Walk
import TemplateDeps.Proofs.Compilation

/-!
# How a graph grows in a render

A render does two things to a graph: it declares templates and edges, and it records the steps of its
walk. `Graph.Grows g steps g'` says that `g'` comes of `g` in this way, that the recorded steps are
exactly `steps`, in their order, and that each of them was recorded on the edge that the graph keeps
for it.

Growth can be put together (`Grows.trans`) and keeps what was there: every edge stays in its place
(`Grows.placeOf?`). To the history of an edge it adds the targets of the steps over this edge and
nothing else (`Grows.history`).
-/

namespace TemplateDeps

namespace Graph

/-- Declarations and the steps of a walk lead from one graph to another. A step is recorded on the edge
where the graph keeps what the manifest describes. -/
inductive Grows : Graph → List Step → Graph → Prop
  | still (g : Graph) : Grows g [] g
  | declare {g after : Graph} {steps : List Step} (op : Operation) (hdeclares : op.declares = true)
      (hrest : Grows (g.apply op) steps after) : Grows g steps after
  | record {g after : Graph} {steps : List Step} (step : Step) {id : EdgeId}
      (hplace : g.placeOf? step.owner step.edge = some id)
      (hrest : Grows (g.apply (.record step.owner id step.target)) steps after) :
      Grows g (step :: steps) after

/-- The records that steps leave on edge `id` of `owner`. -/
def left (g : Graph) (steps : List Step) (owner : String) (id : EdgeId) : List Resolution :=
  (steps.filter fun step => step.owner = owner ∧ g.placeOf? step.owner step.edge = some id).map
    fun step => ⟨step.target, true⟩

/-- Neither declarations nor records change whether concurrent renders are tracked. -/
theorem watchConcurrent_apply (g : Graph) {op : Operation}
    (hop : op.declares = true ∨ ∃ owner id name, op = .record owner id name) :
    (g.apply op).watchConcurrent = g.watchConcurrent := by
  have hmodify : ∀ (owner : String) (f : Template → Template),
      (g.modifyTemplate owner f).watchConcurrent = g.watchConcurrent := by
    intro owner f
    unfold modifyTemplate
    split <;> rfl
  cases op with
  | declareTemplate name file =>
    rw [apply_declareTemplate]
    split
    · exact hmodify _ _
    · rfl
  | declare owner d =>
    rw [apply_declare]
    exact hmodify _ _
  | record owner id name =>
    rw [apply_record]
    exact hmodify _ _
  | startWatch => simp [Operation.declares] at hop
  | setWatchConcurrent on => simp [Operation.declares] at hop

/-- Declarations have no part in what was recorded. -/
theorem Coherent.history_apply_of_declares {g : Graph} (h : g.Coherent) {op : Operation}
    (hop : op.declares = true) (owner : String) (id : EdgeId) :
    (g.apply op).history owner id = g.history owner id := by
  rw [h.history_apply]
  cases op <;> simp_all [Operation.declares, Operation.recordOf?]

namespace Grows

variable {g g' g'' : Graph} {steps more : List Step}

/-- A list of declarations records no step. -/
theorem of_declares {ops : List Operation} (hops : ∀ op ∈ ops, op.declares = true) :
    Grows g [] (g.applyAll ops) := by
  induction ops generalizing g with
  | nil => exact .still g
  | cons op rest ih =>
    obtain ⟨hop, hrest⟩ := List.forall_mem_cons.1 hops
    exact .declare op hop (ih hrest)

/-- A graph that grows twice takes the steps of both times. -/
theorem trans (h : Grows g steps g') (h' : Grows g' more g'') : Grows g (steps ++ more) g'' := by
  induction h with
  | still g => exact h'
  | declare op hdeclares _ ih => exact .declare op hdeclares (ih h')
  | record step hplace _ ih => exact .record step hplace (ih h')

/-- Growth is by operations. -/
theorem exists_applyAll (h : Grows g steps g') : ∃ ops, g' = g.applyAll ops := by
  induction h with
  | still g => exact ⟨[], rfl⟩
  | declare op _ _ ih =>
    obtain ⟨ops, hops⟩ := ih
    exact ⟨op :: ops, hops⟩
  | record step _ _ ih =>
    obtain ⟨ops, hops⟩ := ih
    exact ⟨_ :: ops, hops⟩

/-- A coherent graph stays coherent. -/
theorem coherent (h : Grows g steps g') (hg : g.Coherent) : g'.Coherent := by
  obtain ⟨ops, rfl⟩ := h.exists_applyAll
  exact hg.applyAll ops

/-- A declared template stays declared. -/
theorem mem_names (h : Grows g steps g') (hg : g.Coherent) {name : String} (hname : name ∈ g.names) :
    name ∈ g'.names := by
  obtain ⟨ops, rfl⟩ := h.exists_applyAll
  exact hg.mem_names_applyAll ops hname

/-- An edge keeps its place. -/
theorem placeOf? (h : Grows g steps g') (hg : g.Coherent) {owner : String} {spec : EdgeSpec}
    {id : EdgeId} (hid : g.placeOf? owner spec = some id) : g'.placeOf? owner spec = some id := by
  obtain ⟨ops, rfl⟩ := h.exists_applyAll
  exact hg.placeOf?_applyAll ops hid

/-- A compiled edge stays one. -/
theorem compiled (h : Grows g steps g') (hg : g.Coherent) {owner : String} {spec : EdgeSpec}
    {edge : CompiledEdge} (hedge : g.Compiled owner spec edge) : g'.Compiled owner spec edge := by
  obtain ⟨ops, rfl⟩ := h.exists_applyAll
  exact hg.compiled_applyAll ops hedge

/-- The same renders are tracked. -/
theorem tracks (h : Grows g steps g') (mode : RenderMode) : g'.tracks mode = g.tracks mode := by
  have hwatch : g'.watchConcurrent = g.watchConcurrent := by
    induction h with
    | still g => rfl
    | declare op hdeclares _ ih => rw [ih, watchConcurrent_apply _ (.inl hdeclares)]
    | record step _ _ ih => rw [ih, watchConcurrent_apply _ (.inr ⟨_, _, _, rfl⟩)]
  cases mode with
  | sync => rfl
  | concurrent => exact hwatch

/-- The graph keeps an edge for every recorded step. -/
theorem exists_placeOf? (h : Grows g steps g') (hg : g.Coherent) {step : Step} (hstep : step ∈ steps) :
    ∃ id, g'.placeOf? step.owner step.edge = some id := by
  induction h with
  | still g => cases hstep
  | declare op _ _ ih => exact ih (hg.apply op) hstep
  | @record g after steps first place hplace hrest ih =>
    have hnext := hg.apply (.record first.owner place first.target)
    rcases List.mem_cons.1 hstep with rfl | hlater
    · have hkept := hg.placeOf?_applyAll [.record step.owner place step.target] hplace
      exact ⟨place, hrest.placeOf? hnext hkept⟩
    · exact ih hnext hlater

/-- The history of an edge gets the targets of the steps over this edge, in their order. -/
theorem history (h : Grows g steps g') (hg : g.Coherent) (owner : String) (id : EdgeId) :
    g'.history owner id = g.history owner id ++ g'.left steps owner id := by
  induction h with
  | still g => simp [left]
  | @declare g after steps op hdeclares _ ih =>
    rw [ih (hg.apply op), hg.history_apply_of_declares hdeclares]
  | @record g after steps step place hplace hrest ih =>
    -- The place of the step is known when it is recorded, and stays the same to the end.
    obtain ⟨d, -, hd⟩ := Option.bind_eq_some_iff.1 hplace
    have hlt := (List.getElem?_eq_some_iff.1 (getElem?_declarations hd)).1
    have hnext := hg.apply (.record step.owner place step.target)
    have hlast : after.placeOf? step.owner step.edge = some place := by
      refine hrest.placeOf? hnext ?_
      exact hg.placeOf?_applyAll [.record step.owner place step.target] hplace
    rw [ih hnext, hg.history_apply, if_neg (by simp), List.append_assoc]
    congr 1
    by_cases hedge : step.owner = owner ∧ place = id
    · obtain ⟨rfl, rfl⟩ := hedge
      simp [left, Operation.recordOf?, hlast, hlt]
    · have hother : ¬ (step.owner = owner ∧ after.placeOf? step.owner step.edge = some id) := by
        rw [hlast, Option.some.injEq]
        exact hedge
      simp [left, Operation.recordOf?, hedge, hother]

end Grows

end Graph

end TemplateDeps
