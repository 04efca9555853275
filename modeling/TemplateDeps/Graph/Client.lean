import TemplateDeps.Graph.Basic

/-!
# Clients of a shared graph

Several renders share one graph, each of them a client that declares edges and reports what they resolved
to. A call has the graph for itself: no other one happens while it runs. What a client holds on to between
its calls are the positions that it was given for its edges, and a report passes one of them.

A `Session` is the graph together with what the clients hold. A schedule lists calls in the order in which
they happen, each with the client that makes it; it interleaves the programs of the clients if every client
makes the calls of its program in their order.
-/

namespace TemplateDeps

namespace Graph

/-- A call on a shared graph. -/
inductive Call
  /-- Declare an edge and hold on to its position. -/
  | declare (owner : String) (d : Declaration)
  /-- Report that the edge of `owner` with declaration `d` resolved to `name` in a render of some mode. The
  client passes the position that it was given when it declared this edge. -/
  | report (mode : RenderMode) (owner : String) (d : Declaration) (name : String)
  deriving DecidableEq, Repr

/-- The template whose edge a call is about. -/
def Call.owner : Call → String
  | declare owner _ => owner
  | report _ owner _ _ => owner

/-- A client can make the call after the calls `before`: it reports on an edge that it declared. -/
def Call.Allowed (before : List Call) : Call → Prop
  | declare .. => True
  | report _ owner d _ => .declare owner d ∈ before

instance (before : List Call) (call : Call) : Decidable (call.Allowed before) :=
  match call with
  | .declare .. => .isTrue trivial
  | .report _ owner d _ => inferInstanceAs (Decidable (.declare owner d ∈ before))

/-- A client can make the calls one after the other. -/
def Call.Ordered (calls : List Call) : Prop :=
  ∀ place, ∀ _ : place < calls.length, (calls[place]).Allowed (calls.take place)

instance (calls : List Call) : Decidable (Call.Ordered calls) :=
  inferInstanceAs (Decidable (∀ place, ∀ _ : place < calls.length, _))

/-! ## Sessions -/

section Session

variable {ι : Type}

/-- A graph that clients share, and the positions that each of them was given. -/
structure Session (ι : Type) where
  graph : Graph
  /-- The position that a client holds for an edge of a template. -/
  held : ι → String → Declaration → Option EdgeId

/-- A session in which no call was made. -/
def Session.start (g : Graph) : Session ι :=
  ⟨g, fun _ _ _ => none⟩

/-- A client makes a call. There is no session after a call that the graph refuses, or for which the client
has no position to pass. -/
def Session.perform [DecidableEq ι] (s : Session ι) : ι × Call → Option (Session ι)
  | (i, .declare owner d) =>
    match s.graph.declare owner d with
    | .ok (id, graph) =>
      some ⟨graph, fun j o e => if j = i ∧ o = owner ∧ e = d then some id else s.held j o e⟩
    | .error _ => none
  | (i, .report mode owner d name) =>
    match s.held i owner d with
    | some id =>
      match s.graph.recordIn mode owner id name with
      | .ok graph => some { s with graph }
      | .error _ => none
    | none => none

/-- The clients make the calls of a schedule, in its order. -/
def Session.run [DecidableEq ι] (s : Session ι) (schedule : List (ι × Call)) : Option (Session ι) :=
  schedule.foldlM perform s

/-- What client `i` has in the schedule. -/
def part [DecidableEq ι] {α : Type} (i : ι) (schedule : List (ι × α)) : List α :=
  (schedule.filter (·.1 = i)).map (·.2)

/-- The schedule consists of the given lists, one for each client, and keeps the order of each. -/
def Interleaves [DecidableEq ι] {α : Type} (lists : ι → List α) (schedule : List (ι × α)) : Prop :=
  ∀ i, part i schedule = lists i

end Session

end Graph

end TemplateDeps
