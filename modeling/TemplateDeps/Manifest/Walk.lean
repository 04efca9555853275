import TemplateDeps.Manifest.EdgeSpec
import TemplateDeps.Manifest.Selection

/-!
# Walks through a manifest

A walk from a template follows the edges of its entry in order, depth first: for each edge it takes the
first candidate that exists, notes the step, and goes on with the edges of the template it got to. An
optional include that leads nowhere is passed over. The walk ends early at the first fault, and what it
noted until then stays. `Walk` holds the steps and that fault.

The nesting is bounded by `maxRenderDepth`: a template entered at that depth ends the walk.

A walk depends on the manifest and the variables only. What an engine does beyond it, when it renders a
template, is to compile templates on the way and to record the steps.
-/

namespace TemplateDeps

/-- How many templates a render may enter inside one another. -/
def maxRenderDepth : Nat := 64

/-- One edge that was followed. -/
structure Step where
  /-- The template whose edge it is. -/
  owner : String
  edge : EdgeSpec
  /-- The template it led to. -/
  target : String
  deriving DecidableEq, Repr

/-- How a walk went. -/
structure Walk where
  /-- The edges that were followed, in order. -/
  steps : List Step
  /-- What ended the walk early. -/
  fault : Option Fault
  deriving DecidableEq, Repr

namespace Walk

/-- A walk that stays where it is. -/
def still : Walk := ⟨[], none⟩

/-- A walk that fails at once. -/
def failed (fault : Fault) : Walk := ⟨[], some fault⟩

/-- A walk of one step. -/
def single (step : Step) : Walk := ⟨[step], none⟩

/-- Go on with a second walk, unless a fault ended the first. -/
def andThen (w next : Walk) : Walk :=
  match w.fault with
  | some _ => w
  | none => ⟨w.steps ++ next.steps, next.fault⟩

@[simp] theorem still_andThen (w : Walk) : still.andThen w = w := rfl

@[simp] theorem failed_andThen (fault : Fault) (w : Walk) :
    (failed fault).andThen w = failed fault := rfl

@[simp] theorem andThen_still (w : Walk) : w.andThen still = w := by
  rcases w with ⟨steps, _ | fault⟩ <;> simp [andThen, still]

/-- In a chain of walks the grouping does not matter. -/
theorem andThen_assoc (u v w : Walk) : (u.andThen v).andThen w = u.andThen (v.andThen w) := by
  rcases u with ⟨us, _ | uf⟩
  · rcases v with ⟨vs, _ | vf⟩ <;> simp [andThen]
  · rfl

/-- The walks to the members of a list, one after the other until a fault. -/
def chain {α : Type} (visit : α → Walk) : List α → Walk
  | [] => still
  | a :: rest =>
    match visit a with
    | ⟨steps, some fault⟩ => ⟨steps, some fault⟩
    | ⟨steps, none⟩ =>
      let next := chain visit rest
      ⟨steps ++ next.steps, next.fault⟩

@[simp] theorem chain_nil {α : Type} (visit : α → Walk) : chain visit [] = still := rfl

@[simp] theorem chain_cons {α : Type} (visit : α → Walk) (a : α) (rest : List α) :
    chain visit (a :: rest) = (visit a).andThen (chain visit rest) := by
  rw [chain]
  rcases visit a with ⟨steps, _ | fault⟩ <;> rfl

/-- A chain over two lists is that over the first and then that over the second. -/
theorem chain_append {α : Type} (visit : α → Walk) (us vs : List α) :
    chain visit (us ++ vs) = (chain visit us).andThen (chain visit vs) := by
  induction us with
  | nil => rfl
  | cons u us ih => rw [List.cons_append, chain_cons, ih, chain_cons, andThen_assoc]

end Walk

namespace Manifest

/-- The walk over one edge of `owner`, where `descend` is the walk from the template it leads to. -/
def walkEdge (m : Manifest) (vars : Variables) (owner : String) (descend : String → Walk)
    (edge : EdgeSpec) : Walk :=
  match m.select vars edge.optional edge.candidates with
  | .error fault => .failed fault
  | .ok none => .still
  | .ok (some target) => (Walk.single ⟨owner, edge, target⟩).andThen (descend target)

/-- The walk from a template that may be nested `depth` deep, itself included. -/
def walkWithin (m : Manifest) (vars : Variables) : (depth : Nat) → (name : String) → Walk
  | 0, name => .failed (.tooDeep name)
  | depth + 1, name =>
    match m.get? name with
    | none => .failed (.templateNotFound [name])
    | some entry => .chain (m.walkEdge vars name (m.walkWithin vars depth)) entry.edges

/-- The walk from a template. -/
def walk (m : Manifest) (vars : Variables) (name : String) : Walk :=
  m.walkWithin vars maxRenderDepth name

/-- Whether an edge of the template `owner` leads to `target`. -/
def Leads (m : Manifest) (vars : Variables) (owner target : String) : Prop :=
  ∃ entry, m.get? owner = some entry ∧
    ∃ edge ∈ entry.edges, m.select vars edge.optional edge.candidates = .ok (some target)

end Manifest

end TemplateDeps
