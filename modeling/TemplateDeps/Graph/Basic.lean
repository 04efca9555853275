import TemplateDeps.Graph.Template
import TemplateDeps.NameMap
import TemplateDeps.RenderMode

/-!
# The dependency graph

A `Graph` holds every template an engine has declared, in the order of first declaration, and an index
from names to positions. Nothing is ever removed: templates, edges and records are only added, and
declaring a template again keeps its node.

The graph does not know which render a record came from. A watch is a window over all of them: what was
recorded since it was started counts as current. Records of renders that overlap end up in the same
window, so tracking concurrent renders is off unless `watchConcurrent` is set.
-/

namespace TemplateDeps

/-- The templates an engine knows, with their edges. -/
structure Graph where
  /-- The templates, in the order of first declaration. -/
  templates : List Template
  /-- The position of each template. -/
  index : NameMap Nat
  /-- Whether concurrent renders are tracked. -/
  watchConcurrent : Bool
  deriving DecidableEq, Repr

namespace Graph

/-- The graph without templates. -/
def empty : Graph := ⟨[], .empty, false⟩

instance : Inhabited Graph := ⟨empty⟩

/-! ## Operations -/

/-- Declare a template. One that is already known keeps everything, its file included, and is marked as
reloaded. -/
def declareTemplate (g : Graph) (name : String) (file : Option FilePath) : Graph :=
  match g.index.get? name with
  | some i => { g with templates := g.templates.modify i Template.markReloaded }
  | none =>
    { g with
      templates := g.templates ++ [Template.fresh name file]
      index := g.index.insert name g.templates.length }

/-- The node of a template. -/
def template? (g : Graph) (name : String) : Option Template :=
  g.index.get? name >>= (g.templates[·]?)

/-- Declare an edge of `owner` and give its position. An equal declaration gives the old position. -/
def declare (g : Graph) (owner : String) (d : Declaration) : Except Fault (EdgeId × Graph) :=
  match g.index.get? owner, g.template? owner with
  | some i, some t =>
    let (id, t) := t.declare d
    .ok (id, { g with templates := g.templates.set i t })
  | _, _ => .error (.unknownTemplate owner)

/-- Note that edge `id` of `owner` resolved to `name`. An unknown owner is passed over, since engines
may render templates that were compiled before the graph came into use; an unknown edge of a known
owner is an error. -/
def record (g : Graph) (owner : String) (id : EdgeId) (name : String) : Except Fault Graph :=
  match g.index.get? owner, g.template? owner with
  | some i, some t =>
    if id < t.edges.length then
      .ok { g with templates := g.templates.modify i (·.record id name) }
    else
      .error (.unknownEdge owner id)
  | _, _ => .ok g

/-- Start a watch: what was recorded so far stops being current. -/
def startWatch (g : Graph) : Graph :=
  { g with templates := g.templates.map Template.startWatch }

/-- Say whether concurrent renders are tracked. -/
def setWatchConcurrent (g : Graph) (on : Bool) : Graph :=
  { g with watchConcurrent := on }

/-- Whether renders of this mode are to be recorded. -/
def tracks (g : Graph) : RenderMode → Bool
  | .sync => true
  | .concurrent => g.watchConcurrent

/-- Note a resolution that a render of the given mode reports: nothing happens unless such renders are
tracked. This is how several renders share one graph. -/
def recordIn (g : Graph) (mode : RenderMode) (owner : String) (id : EdgeId) (name : String) :
    Except Fault Graph :=
  if g.tracks mode then g.record owner id name else .ok g

/-! ## Queries -/

/-- The number of templates. -/
def size (g : Graph) : Nat :=
  g.templates.length

/-- The names of the templates, in the order of first declaration. -/
def names (g : Graph) : List String :=
  g.templates.map (·.name)

/-- Whether some edge reached `name` in the current watch. -/
def reached (g : Graph) (name : String) : Bool :=
  g.templates.any (·.reached name)

/-- The templates reached in the current watch, in the order of first declaration. The template a
render starts from counts only if an edge reached it too. -/
def used (g : Graph) : List Template :=
  g.templates.filter (fun t => g.reached t.name)

/-- The files of the templates reached in the current watch. -/
def usedFiles (g : Graph) : List FilePath :=
  g.used.filterMap (·.file)

/-- The templates with an include that lists `name` literally. -/
def includersOf (g : Graph) (name : String) : List Template :=
  g.templates.filter (·.includes name)

/-- The templates with an import whose single target is `name`. -/
def importersOf (g : Graph) (name : String) : List Template :=
  g.templates.filter (·.imports name)

/-- The templates whose parent is `name`. -/
def childrenOf (g : Graph) (name : String) : List Template :=
  g.templates.filter (·.extends? name)

end Graph

end TemplateDeps
