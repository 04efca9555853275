import TemplateDeps.Graph.Basic
import TemplateDeps.Manifest.EdgeSpec

/-!
# Compiling manifest entries into declarations

Compiling declares the template and then its edges one after the other, and stops at the first edge
that is malformed. A `Compilation` holds all that came of it: the graph as it was left, the edges that
were declared, and what was wrong with the edge that stopped it.
-/

namespace TemplateDeps

/-- A described edge that was read: what is declared, and what a render needs to follow the edge. -/
structure PlannedEdge where
  declaration : Declaration
  /-- The targets as the manifest writes them, so that variables can be looked up. -/
  targets : List TargetRef
  /-- Whether a missing target is tolerated. -/
  ignoreMissing : Bool
  deriving DecidableEq, Repr

/-- Read a target of a template that is being compiled. -/
def readTarget (owner : String) (raw : String) : Except Fault TargetRef :=
  match TargetRef.parse? raw with
  | some target => .ok target
  | none => .error (.manifest (.emptyCompiledTarget owner))

/-- What an import binds: the library or some of its members, but not both. -/
def ImportSpec.binding (owner : String) (spec : ImportSpec) : Except Fault Binding :=
  match spec.boundAs, spec.members with
  | some name, none => .ok (.whole name)
  | none, some names => .ok (.members names)
  | _, _ => .error (.manifest (.ambiguousBinding owner spec.target))

/-- Read an edge of the template `owner`. The targets are read first. -/
def EdgeSpec.plan (owner : String) : EdgeSpec → Except Fault PlannedEdge
  | extending raw => do
    let target ← readTarget owner raw
    return ⟨.extending target.target, [target], false⟩
  | including spec => do
    let targets ← spec.targets.mapM (readTarget owner)
    match Declaration.fragment (targets.map TargetRef.target) with
    | .ok d =>
      let d := (d.setContext spec.withContext).setIgnoreMissing spec.ignoreMissing
      return ⟨d, targets, spec.ignoreMissing⟩
    | .error cause => throw (.declaration cause)
  | importing spec => do
    let target ← readTarget owner spec.target
    let binding ← spec.binding owner
    return ⟨(Declaration.library target.target binding).setContext spec.withContext, [target], false⟩

/-- An edge of a compiled template. -/
structure CompiledEdge where
  /-- Where the graph keeps it. -/
  id : EdgeId
  kind : Kind
  targets : List TargetRef
  ignoreMissing : Bool
  deriving DecidableEq, Repr

/-- Whether the edge may lead nowhere. -/
def CompiledEdge.optional (e : CompiledEdge) : Bool :=
  e.kind = .including && e.ignoreMissing

/-- What came of compiling an entry. -/
structure Compilation where
  /-- The graph with what was declared. -/
  graph : Graph
  /-- The declared edges, in the order of the entry. -/
  edges : List CompiledEdge
  /-- Why compiling stopped before the end of the entry. -/
  fault : Option Fault

namespace Compilation

/-- Declare one more edge, unless compiling has stopped. -/
def add (owner : String) : Compilation → EdgeSpec → Compilation
  | ⟨graph, edges, some fault⟩, _ => ⟨graph, edges, some fault⟩
  | ⟨graph, edges, none⟩, spec =>
    match spec.plan owner with
    | .error fault => ⟨graph, edges, some fault⟩
    | .ok planned =>
      match graph.declare owner planned.declaration with
      | .error fault => ⟨graph, edges, some fault⟩
      | .ok (id, graph) =>
        let edge := ⟨id, planned.declaration.kind, planned.targets, planned.ignoreMissing⟩
        ⟨graph, edges ++ [edge], none⟩

/-- The compiled edges, or what was wrong. -/
def result (c : Compilation) : Except Fault (List CompiledEdge) :=
  match c.fault with
  | some fault => .error fault
  | none => .ok c.edges

end Compilation

/-- Declare the template `name` and the edges of its entry. A template that is compiled again gets its
old edges back. -/
def Graph.compile (g : Graph) (name : String) (entry : Entry) : Compilation :=
  entry.edges.foldl (Compilation.add name) ⟨g.declareTemplate name entry.file, [], none⟩

end TemplateDeps
