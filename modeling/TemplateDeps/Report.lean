import TemplateDeps.Graph.Basic

/-!
# Reports

Two texts are made from a graph. The listing shows every template with its file and its declared edges;
the watch report shows the templates reached since the last watch was started. Every line ends with a
newline.
-/

namespace TemplateDeps

/-- The lines of one template in the listing: its name, its file, and its numbered edges. -/
def Template.listingLines (t : Template) : List String :=
  ("  - " ++ t.name)
    :: (t.file : Option String).toList.map ("      file: " ++ ·)
    ++ t.edges.zipIdx.map fun (edge, id) => s!"      #{id} {edge.declaration.display}"

/-- The line of one template in the watch report: its name, and its file in parentheses. -/
def Template.reportLine (t : Template) : String :=
  match (t.file : Option String) with
  | some file => s!"  - {t.name} ({file})"
  | none => s!"  - {t.name}"

/-- The lines of a text, each ended by a newline. -/
def unlines (lines : List String) : String :=
  String.join (lines.map (· ++ "\n"))

namespace Graph

/-- Every template with its declared edges. -/
def listing (g : Graph) : String :=
  unlines (s!"templates ({g.size}):" :: g.templates.flatMap Template.listingLines)

/-- The templates reached in the current watch. -/
def watchReport (g : Graph) : String :=
  unlines (s!"used in current watch ({g.used.length}):" :: g.used.map Template.reportLine)

end Graph

end TemplateDeps
