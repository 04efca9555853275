import TemplateDeps.FilePath
import TemplateDeps.Graph.Edge

/-!
# Templates as nodes of the graph

A node records what a template depends on, not the template itself: its name and file, its edges in the
order of declaration, and whether it was declared more than once. Declaring an edge that is already
there gives the position of the old one, so declarations stay distinct.
-/

namespace TemplateDeps

/-- One template known to the engine. -/
structure Template where
  name : String
  /-- Where its source lies, if it comes from a file. -/
  file : Option FilePath
  /-- Its edges, in the order of declaration. -/
  edges : List Edge
  /-- Whether it was declared again after the first time. -/
  reloaded : Bool
  deriving DecidableEq, Repr

namespace Template

/-- A template that was just declared. -/
def fresh (name : String) (file : Option FilePath) : Template :=
  ⟨name, file, [], false⟩

/-- The template, declared once more. -/
def markReloaded (t : Template) : Template :=
  { t with reloaded := true }

/-- The position of the edge with declaration `d`. -/
def edgeId? (t : Template) (d : Declaration) : Option EdgeId :=
  t.edges.findIdx? (·.declaration = d)

/-- Declare an edge: an equal declaration gives its old position, a new one is put at the end. -/
def declare (t : Template) (d : Declaration) : EdgeId × Template :=
  match t.edgeId? d with
  | some id => (id, t)
  | none => (t.edges.length, { t with edges := t.edges ++ [Edge.ofDeclaration d] })

/-- Note that edge `id` resolved to `name`. -/
def record (t : Template) (id : EdgeId) (name : String) : Template :=
  { t with edges := t.edges.modify id (·.record name) }

/-- Move every record out of the current watch. -/
def startWatch (t : Template) : Template :=
  { t with edges := t.edges.map Edge.startWatch }

/-- The edges of one kind with their positions. -/
def edgesOf (t : Template) (kind : Kind) : List (Edge × EdgeId) :=
  t.edges.zipIdx.filter (·.1.declaration.kind = kind)

/-- The edge to the parent and its position, if there is exactly one such edge. -/
def parent? (t : Template) : Option (Edge × EdgeId) :=
  match t.edgesOf .extending with
  | [single] => some single
  | _ => none

/-- Whether an include lists `name` literally. -/
def includes (t : Template) (name : String) : Bool :=
  (t.edgesOf .including).any (·.1.declaration.names name)

/-- Whether the single target of an import is the literal `name`. -/
def imports (t : Template) (name : String) : Bool :=
  (t.edgesOf .importing).any (·.1.declaration.target? = some (.named name))

/-- Whether the parent is the literal `name`. -/
def extends? (t : Template) (name : String) : Bool :=
  match t.parent? with
  | some (edge, _) => edge.declaration.target? = some (.named name)
  | none => false

/-- Whether some edge reached `name` in the current watch. -/
def reached (t : Template) (name : String) : Bool :=
  t.edges.any (·.reached name)

/-- The template in short: name, file and number of edges. -/
def summary (t : Template) : String :=
  let file := match t.file with
    | some path => "Some(" ++ path.quote ++ ")"
    | none => "None"
  "TemplateRef \x7b name: " ++ Text.quote t.name ++ ", file: " ++ file ++ ", dependencies: "
    ++ toString t.edges.length ++ " \x7d"

end Template

end TemplateDeps
