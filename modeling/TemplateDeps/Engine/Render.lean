import TemplateDeps.Engine.Basic
import TemplateDeps.Manifest.Walk

/-!
# Rendering

A render goes the way of the walk from its template, but over compiled edges: it compiles every template
it gets to, and records that template as the resolution of the edge that led there. Both happen before
it goes on, so a render that fails has recorded all steps up to the fault.
-/

namespace TemplateDeps

namespace Engine

/-- Record that edge `id` of `owner` led to `name`, if renders of the current mode are tracked. -/
def record (owner : String) (id : EdgeId) (name : String) : EngineM Unit := do
  let e ← get
  if e.graph.tracks e.mode then
    match e.graph.record owner id name with
    | .ok graph => set ({ e with graph }.note [.resolved owner id name])
    | .error fault => throw fault
  else
    log (.unrecorded owner id)

/-- Follow one edge of `owner` and go on with `descend` at the template it leads to. -/
def follow (vars : Variables) (owner : String) (descend : String → EngineM Unit)
    (edge : CompiledEdge) : EngineM Unit := do
  let e ← get
  match e.manifest.select vars edge.optional edge.targets with
  | .error fault => throw fault
  | .ok none => log (.skipped owner edge.id)
  | .ok (some target) => do
    compile target
    record owner edge.id target
    descend target

/-- Render a template that may be nested `depth` deep, itself included. -/
def renderWithin (vars : Variables) : (depth : Nat) → (name : String) → EngineM Unit
  | 0, name => throw (.tooDeep name)
  | depth + 1, name => do
    compile name
    let e ← get
    ((e.cache.get? name).getD []).forM (follow vars name (renderWithin vars depth))

/-- Render a template, compiling it and all that it reaches on the way. -/
def render (name : String) (vars : Variables) : EngineM Unit := do
  let e ← get
  log (.rendering name e.mode)
  renderWithin vars maxRenderDepth name

end Engine

end TemplateDeps
