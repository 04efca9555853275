import TemplateDeps.Compilation
import TemplateDeps.Level

/-!
# Events

An engine keeps a journal of what it does. Each entry is an `Event`, with a level and a line of text.
The events of compiling an entry follow from its compilation: every declared edge is announced, and an
edge whose position was handed out before is announced to be known already.
-/

namespace TemplateDeps

/-- Something that a reader of the log may want to know. -/
inductive Event
  /-- A template is about to be compiled. -/
  | compiling (name : String)
  /-- A template was declared, possibly not for the first time. -/
  | templateDeclared (name : String) (again : Bool)
  /-- An edge was declared. -/
  | edgeDeclared (owner : String) (id : EdgeId)
  /-- The declared edge was there before. -/
  | edgeKnown (owner : String) (id : EdgeId)
  /-- A watch was started. -/
  | watchStarted (templates : Nat)
  /-- A render begins. -/
  | rendering (name : String) (mode : RenderMode)
  /-- A render followed an edge. -/
  | resolved (owner : String) (id : EdgeId) (name : String)
  /-- A render followed an edge, but renders of its mode are not recorded. -/
  | unrecorded (owner : String) (id : EdgeId)
  /-- An optional include led nowhere. -/
  | skipped (owner : String) (id : EdgeId)
  /-- Nothing of the coming render will be recorded. -/
  | untrackedMode
  /-- The templates affected by a change were computed. -/
  | affected (name : String) (count : Nat)
  deriving DecidableEq, Repr

namespace Event

/-- How much an event matters. -/
def level : Event → Level
  | compiling .. => .debug
  | templateDeclared .. => .debug
  | edgeDeclared .. => .debug
  | edgeKnown .. => .trace
  | watchStarted .. => .debug
  | rendering .. => .debug
  | resolved .. => .trace
  | unrecorded .. => .trace
  | skipped .. => .trace
  | untrackedMode => .warn
  | affected .. => .info

/-- The line of text for an event. -/
def text : Event → String
  | compiling name => s!"compiling template {name}"
  | templateDeclared name false => s!"template {name} declared"
  | templateDeclared name true => s!"template {name} declared again"
  | edgeDeclared owner id => s!"edge #{id} of {owner} declared"
  | edgeKnown owner id => s!"edge #{id} of {owner} was declared before"
  | watchStarted templates => s!"watch started over {templates} templates"
  | rendering name mode => s!"rendering {name} in mode {mode.word}"
  | resolved owner id name => s!"edge #{id} of {owner} resolved to {name}"
  | unrecorded owner id => s!"render mode not tracked, resolution of edge #{id} of {owner} dropped"
  | skipped owner id => s!"optional include #{id} of {owner} is missing and was skipped"
  | untrackedMode =>
    "render mode is concurrent and such renders are not tracked: no resolutions will be recorded"
  | affected name count => s!"{count} templates depend on {name}"

end Event

/-- The events of declaring edges of a template that has `known` edges so far. -/
def edgeEvents (owner : String) : (known : Nat) → List CompiledEdge → List Event
  | _, [] => []
  | known, e :: rest =>
    if e.id < known then .edgeDeclared owner e.id :: .edgeKnown owner e.id :: edgeEvents owner known rest
    else .edgeDeclared owner e.id :: edgeEvents owner (known + 1) rest

/-- The events of compiling the template `name` on the graph `before`. -/
def Compilation.events (c : Compilation) (before : Graph) (name : String) : List Event :=
  let known := before.template? name
  .compiling name :: .templateDeclared name known.isSome
    :: edgeEvents name ((known.map (·.edges.length)).getD 0) c.edges

end TemplateDeps
