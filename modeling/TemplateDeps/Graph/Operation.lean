import TemplateDeps.Graph.Basic

/-!
# Operations on a graph

A graph comes about by operations, one after the other, from the graph without templates. An operation
that the graph refuses leaves it as it was, so that every list of operations leads to a graph. A graph
is reachable if some list leads to it from the empty one.
-/

namespace TemplateDeps

namespace Graph

/-- A change of a graph. -/
inductive Operation
  | declareTemplate (name : String) (file : Option FilePath)
  | declare (owner : String) (d : Declaration)
  | record (owner : String) (id : EdgeId) (name : String)
  | startWatch
  | setWatchConcurrent (on : Bool)
  deriving DecidableEq, Repr

/-- The graph after an operation. -/
def apply (g : Graph) : Operation → Graph
  | .declareTemplate name file => g.declareTemplate name file
  | .declare owner d =>
    match g.declare owner d with
    | .ok (_, next) => next
    | .error _ => g
  | .record owner id name =>
    match g.record owner id name with
    | .ok next => next
    | .error _ => g
  | .startWatch => g.startWatch
  | .setWatchConcurrent on => g.setWatchConcurrent on

/-- The graph after a list of operations. -/
def applyAll (g : Graph) (ops : List Operation) : Graph :=
  ops.foldl apply g

@[simp] theorem applyAll_nil (g : Graph) : g.applyAll [] = g := rfl

@[simp] theorem applyAll_cons (g : Graph) (op : Operation) (ops : List Operation) :
    g.applyAll (op :: ops) = (g.apply op).applyAll ops := rfl

/-- Operations can be done in two parts. -/
theorem applyAll_append (g : Graph) (us vs : List Operation) :
    g.applyAll (us ++ vs) = (g.applyAll us).applyAll vs :=
  List.foldl_append

/-- Operations lead to the graph from the empty one. -/
def Reachable (g : Graph) : Prop :=
  ∃ ops, empty.applyAll ops = g

theorem Reachable.empty : Reachable Graph.empty := ⟨[], rfl⟩

/-- An operation on a reachable graph gives a reachable graph. -/
theorem Reachable.apply {g : Graph} (h : g.Reachable) (op : Operation) : (g.apply op).Reachable := by
  obtain ⟨ops, rfl⟩ := h
  exact ⟨ops ++ [op], applyAll_append _ _ _⟩

/-- What holds of the empty graph and is kept by every operation holds of every reachable graph. -/
theorem Reachable.induction {motive : Graph → Prop} (empty : motive Graph.empty)
    (apply : ∀ g op, motive g → motive (g.apply op)) {g : Graph} (h : g.Reachable) : motive g := by
  obtain ⟨ops, rfl⟩ := h
  suffices ∀ start, motive start → motive (start.applyAll ops) from this _ empty
  intro start hstart
  induction ops generalizing start with
  | nil => exact hstart
  | cons op ops ih => exact ih _ (apply _ _ hstart)

end Graph

end TemplateDeps
