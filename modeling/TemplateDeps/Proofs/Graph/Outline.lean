import TemplateDeps.Proofs.Graph.Growth
import TemplateDeps.Proofs.Graph.OperationLog
import TemplateDeps.Proofs.Graph.ReverseQueries
import TemplateDeps.Report

/-!
# What renders leave untouched

A graph is told two kinds of things: what templates declare, and what renders found. The outline of a graph
is what is left of it without the second kind. All that a run does to the outline is done by its
declarations (`outline_applyAll`), and the answers to questions about declarations are read off the outline:
for each of them there is an equation that says so (`listing_outline`, `parentOf?_outline`,
`map_name_filter_outline`, `staticView_outline` and those around them). Hence `declared_apart_from_found`: a
run and the same run without its records and watches give the same answers, and give out the same positions
on the way. In particular no reverse query finds a template by what a dynamic target turned out to be.

The other way round, declarations have no part in records. They can make a name show up as used only because
a template has to be declared to be reported.
-/

namespace TemplateDeps

/-! ## The outline of a node -/

/-- The edge, as if it was never followed. -/
def Edge.outline (e : Edge) : Edge :=
  .ofDeclaration e.declaration

namespace Template

/-- The template, as if none of its edges was ever followed. -/
def outline (t : Template) : Template :=
  { t with edges := t.edges.map Edge.outline }

variable (t : Template)

@[simp] theorem name_outline : t.outline.name = t.name := rfl

@[simp] theorem file_outline : t.outline.file = t.file := rfl

@[simp] theorem reloaded_outline : t.outline.reloaded = t.reloaded := rfl

@[simp] theorem outline_markReloaded : t.markReloaded.outline = t.outline.markReloaded := rfl

@[simp] theorem outline_fresh (name : String) (file : Option FilePath) :
    (fresh name file).outline = fresh name file := rfl

@[simp] theorem declarations_outline : t.outline.declarations = t.declarations := by
  simp [declarations, outline, Edge.outline, Edge.ofDeclaration]

/-- A record does not show in the outline. -/
@[simp] theorem outline_record (id : EdgeId) (name : String) : (t.record id name).outline = t.outline := by
  have hedges : (t.edges.modify id (·.record name)).map Edge.outline = t.edges.map Edge.outline := by
    apply List.ext_getElem?
    intro i
    rw [List.getElem?_map, List.getElem?_map, List.getElem?_modify]
    cases t.edges[i]? with
    | none => rfl
    | some e => by_cases hi : id = i <;> simp [hi, Edge.outline]
  simp [outline, record, hedges]

/-- Neither does the start of a watch. -/
@[simp] theorem outline_startWatch : t.startWatch.outline = t.outline := by
  simp [outline, startWatch, Edge.outline, Function.comp_def]

@[simp] theorem edgeId?_outline (d : Declaration) : t.outline.edgeId? d = t.edgeId? d := by
  rw [edgeId?_eq_findIdx?, declarations_outline, edgeId?_eq_findIdx?]

/-- The outline is enough to declare an edge. -/
theorem declare_outline (d : Declaration) :
    t.outline.declare d = ((t.declare d).1, (t.declare d).2.outline) := by
  unfold declare
  rw [edgeId?_outline]
  cases t.edgeId? d with
  | some id => rfl
  | none => simp [outline, Edge.outline, Edge.ofDeclaration]

/-! ### Questions to a node -/

@[simp] theorem listingLines_outline : t.outline.listingLines = t.listingLines := by
  have hedges : t.outline.edges.zipIdx = t.edges.zipIdx.map (Prod.map Edge.outline id) :=
    List.zipIdx_map ..
  simp [listingLines, hedges, Edge.outline, Edge.ofDeclaration]

/-- The edges of one kind are in the same positions. -/
theorem edgesOf_outline (kind : Kind) :
    t.outline.edgesOf kind = (t.edgesOf kind).map (Prod.map Edge.outline id) := by
  have hedges : t.outline.edges.zipIdx = t.edges.zipIdx.map (Prod.map Edge.outline id) :=
    List.zipIdx_map ..
  rw [edgesOf, hedges, List.filter_map]
  rfl

/-- The outline has the same parent. -/
theorem parent?_outline : t.outline.parent? = t.parent?.map (Prod.map Edge.outline id) := by
  unfold parent?
  rw [edgesOf_outline]
  rcases t.edgesOf .extending with _ | ⟨first, _ | ⟨second, rest⟩⟩ <;> rfl

@[simp] theorem includes_outline (name : String) : t.outline.includes name = t.includes name := by
  rw [includes, edgesOf_outline, List.any_map]
  rfl

@[simp] theorem imports_outline (name : String) : t.outline.imports name = t.imports name := by
  rw [imports, edgesOf_outline, List.any_map]
  rfl

@[simp] theorem extends?_outline (name : String) : t.outline.extends? name = t.extends? name := by
  unfold extends?
  rw [parent?_outline]
  cases t.parent? <;> rfl

end Template

namespace Graph

variable (g : Graph)

/-! ## The outline of a graph -/

/-- The graph without what renders told it, and without what was decided about recording them. -/
def outline : Graph :=
  { g with templates := g.templates.map Template.outline, watchConcurrent := false }

@[simp] theorem outline_empty : empty.outline = empty := rfl

@[simp] theorem names_outline : g.outline.names = g.names := by
  simp [names, outline]

@[simp] theorem template?_outline (name : String) :
    g.outline.template? name = (g.template? name).map Template.outline := by
  simp only [template?, outline, Option.bind_eq_bind, List.getElem?_map]
  cases g.index.get? name <;> rfl

/-- A change that the outline takes part in can be made to the outline. -/
theorem outline_modifyTemplate (owner : String) {f f' : Template → Template}
    (hf : ∀ t, (f t).outline = f' t.outline) :
    (g.modifyTemplate owner f).outline = g.outline.modifyTemplate owner f' := by
  have hindex : g.outline.index = g.index := rfl
  unfold modifyTemplate
  rw [hindex]
  cases g.index.get? owner with
  | none => rfl
  | some i =>
    have hmodify : (g.templates.modify i f).map Template.outline =
        (g.templates.map Template.outline).modify i f' := by
      apply List.ext_getElem?
      intro j
      simp only [List.getElem?_map, List.getElem?_modify]
      split <;> simp [Function.comp_def, hf]
    simp [outline, hmodify]

/-- A change of a node that does not show in its outline does not show in that of the graph. -/
theorem outline_modifyTemplate_eq_self (owner : String) {f : Template → Template}
    (hf : ∀ t, (f t).outline = t.outline) : (g.modifyTemplate owner f).outline = g.outline := by
  have hid : (g.modifyTemplate owner f).outline = g.outline.modifyTemplate owner id :=
    g.outline_modifyTemplate owner hf
  rw [hid]
  exact modifyTemplate_eq_self fun _ _ => rfl

/-- What an operation does to the outline: a declaration is made there, and nothing else is seen. -/
theorem outline_apply (op : Operation) :
    (g.apply op).outline = if op.declares then g.outline.apply op else g.outline := by
  cases op with
  | declareTemplate name file =>
    show _ = g.outline.apply (.declareTemplate name file)
    have hindex : g.outline.index = g.index := rfl
    rw [apply_declareTemplate, apply_declareTemplate, hindex]
    split
    · exact g.outline_modifyTemplate name fun _ => rfl
    · simp [extend, outline]
  | declare owner d =>
    show _ = g.outline.apply (.declare owner d)
    rw [apply_declare, apply_declare]
    exact g.outline_modifyTemplate owner fun t => by rw [t.declare_outline]
  | record owner id name =>
    rw [apply_record]
    exact g.outline_modifyTemplate_eq_self owner fun t => t.outline_record id name
  | startWatch => simp [apply, startWatch, outline, Operation.declares]
  | setWatchConcurrent on => rfl

/-- The outline of a run is made by its declarations alone. -/
theorem outline_applyAll (ops : List Operation) :
    (g.applyAll ops).outline = g.outline.applyAll (ops.filter Operation.declares) := by
  induction ops generalizing g with
  | nil => rfl
  | cons op ops ih =>
    rw [applyAll_cons, ih, outline_apply]
    by_cases hop : op.declares = true
    · rw [if_pos hop, List.filter_cons_of_pos hop, applyAll_cons]
    · rw [if_neg hop, List.filter_cons_of_neg hop]

/-! ## What declarations give back -/

/-- What an operation gives back, if it is a declaration: nothing for a template, and for an edge its
position or the reason why it is refused. -/
def response? : Operation → Option (Except Fault (Option EdgeId))
  | .declareTemplate .. => some (.ok none)
  | .declare owner d => some ((g.declare owner d).map fun given => some given.1)
  | _ => none

/-- What the declarations of a run give back, one after the other. -/
def responses (g : Graph) : List Operation → List (Except Fault (Option EdgeId))
  | [] => []
  | op :: ops => (g.response? op).toList ++ (g.apply op).responses ops

/-- What a declaration gives back is decided by the outline. -/
@[simp] theorem response?_outline (op : Operation) : g.outline.response? op = g.response? op := by
  cases op with
  | declare owner d =>
    simp only [response?]
    rw [declare_eq, declare_eq, template?_outline]
    cases g.template? owner with
    | none => rfl
    | some t => simp [Except.map, t.declare_outline]
  | _ => rfl

/-- What the declarations of a run give back does not depend on the other operations. -/
theorem responses_outline (ops : List Operation) :
    g.responses ops = g.outline.responses (ops.filter Operation.declares) := by
  induction ops generalizing g with
  | nil => rfl
  | cons op ops ih =>
    rw [responses, ih, outline_apply]
    by_cases hop : op.declares = true
    · rw [if_pos hop, List.filter_cons_of_pos hop, responses, response?_outline]
    · have hsilent : g.response? op = none := by
        cases op <;> simp_all [response?, Operation.declares]
      rw [if_neg hop, List.filter_cons_of_neg hop, hsilent]
      rfl

/-! ## Questions to a graph -/

/-- The declaration of the parent of a template, and its position. -/
def parentOf? (name : String) : Option (Declaration × EdgeId) :=
  ((g.template? name).bind Template.parent?).map (Prod.map Edge.declaration id)

@[simp] theorem listing_outline : g.outline.listing = g.listing := by
  simp [listing, size, outline, List.flatMap_map]

@[simp] theorem declarations_outline (owner : String) :
    g.outline.declarations owner = g.declarations owner := by
  simp [declarations, Function.comp_def]

@[simp] theorem edgeId?_outline (owner : String) (d : Declaration) :
    g.outline.edgeId? owner d = g.edgeId? owner d := by
  rw [edgeId?_eq_findIdx?, declarations_outline, edgeId?_eq_findIdx?]

@[simp] theorem parentOf?_outline (name : String) : g.outline.parentOf? name = g.parentOf? name := by
  rw [parentOf?, template?_outline, parentOf?]
  cases g.template? name with
  | none => rfl
  | some t =>
    rw [Option.map_some, Option.bind_some, Template.parent?_outline, Option.map_map]
    rfl

/-- A test that does not look at histories picks out the same templates of the outline. -/
theorem map_name_filter_outline {test : Template → Bool} (htest : ∀ t, test t.outline = test t) :
    (g.outline.templates.filter test).map (·.name) = (g.templates.filter test).map (·.name) := by
  show ((g.templates.map Template.outline).filter test).map (·.name) = _
  rw [List.filter_map, List.map_map, show test ∘ Template.outline = test from funext htest]
  rfl

/-- The static view is one of the outline. -/
@[simp] theorem staticView_outline : g.outline.staticView = g.staticView := by
  have htemplate : ∀ (v : StaticView) (t : Template), v.addTemplate t.outline = v.addTemplate t := by
    intro v t
    show (t.edges.map Edge.outline).foldl (StaticView.addEdge t.name) (v.addNode t.name) = _
    rw [List.foldl_map]
    rfl
  show (g.templates.map Template.outline).foldl StaticView.addTemplate .empty = _
  rw [List.foldl_map]
  simp only [htemplate]
  rfl

/-- Two graphs give the same answers to all questions about declarations. -/
structure StaticallyAlike (g g' : Graph) : Prop where
  listing : g.listing = g'.listing
  names : g.names = g'.names
  nodes : ∀ name, (g.template? name).map (fun t => (t.file, t.reloaded)) =
    (g'.template? name).map fun t => (t.file, t.reloaded)
  declarations : ∀ owner, g.declarations owner = g'.declarations owner
  edgeIds : ∀ owner d, g.edgeId? owner d = g'.edgeId? owner d
  parents : ∀ name, g.parentOf? name = g'.parentOf? name
  includers : ∀ name, (g.includersOf name).map (·.name) = (g'.includersOf name).map (·.name)
  importers : ∀ name, (g.importersOf name).map (·.name) = (g'.importersOf name).map (·.name)
  children : ∀ name, (g.childrenOf name).map (·.name) = (g'.childrenOf name).map (·.name)
  dependents : ∀ name, g.staticView.dependentsOf name = g'.staticView.dependentsOf name
  dependencies : ∀ name, g.staticView.dependenciesOf name = g'.staticView.dependenciesOf name
  affected : ∀ name, g.staticView.affectedBy name = g'.staticView.affectedBy name

/-- Graphs with the same outline give the same answers. -/
theorem staticallyAlike_of_outline_eq {g g' : Graph} (h : g.outline = g'.outline) :
    g.StaticallyAlike g' := by
  have hfilter : ∀ {test : Template → Bool}, (∀ t, test t.outline = test t) →
      (g.templates.filter test).map (·.name) = (g'.templates.filter test).map (·.name) := by
    intro test htest
    rw [← g.map_name_filter_outline htest, h, g'.map_name_filter_outline htest]
  have hnode : ∀ name, (g.template? name).map Template.outline =
      (g'.template? name).map Template.outline := by
    intro name
    rw [← template?_outline, h, template?_outline]
  exact {
  listing := by rw [← listing_outline g, h, listing_outline]
  names := by rw [← names_outline g, h, names_outline]
  nodes name := by
    have hread := congrArg (Option.map fun t : Template => (t.file, t.reloaded)) (hnode name)
    rwa [Option.map_map, Option.map_map] at hread
  declarations owner := by rw [← declarations_outline g, h, declarations_outline]
  edgeIds owner d := by rw [← edgeId?_outline g, h, edgeId?_outline]
  parents name := by rw [← parentOf?_outline g, h, parentOf?_outline]
  includers name := hfilter fun t => t.includes_outline name
  importers name := hfilter fun t => t.imports_outline name
  children name := hfilter fun t => t.extends?_outline name
  dependents name := by rw [← staticView_outline g, h, staticView_outline]
  dependencies name := by rw [← staticView_outline g, h, staticView_outline]
  affected name := by rw [← staticView_outline g, h, staticView_outline] }

variable {g}

/-- No query that asks who points at a template finds one that does not name it in a declaration. -/
theorem Coherent.not_mem_of_not_named (h : g.Coherent) {owner name : String}
    (hnamed : ∀ d ∈ g.declarations owner, .named name ∉ d.targets) :
    owner ∉ g.staticView.dependentsOf name ∧ owner ∉ (g.includersOf name).map (·.name) ∧
    owner ∉ (g.importersOf name).map (·.name) ∧ owner ∉ (g.childrenOf name).map (·.name) := by
  have hdependent : owner ∉ g.staticView.dependentsOf name := by
    rw [StaticView.mem_dependentsOf_iff, StaticView.mem_sources_staticView_iff, h.pointsAt_iff]
    rintro ⟨d, hd, htarget⟩
    exact hnamed d hd htarget
  refine ⟨hdependent, fun hmem => ?_, fun hmem => ?_, fun hmem => ?_⟩
  · exact hdependent (h.mem_dependentsOf_iff.2 (.inl hmem))
  · exact hdependent (h.mem_dependentsOf_iff.2 (.inr (.inl hmem)))
  · exact hdependent (h.mem_dependentsOf_iff.2 (.inr (.inr (.inl hmem))))

open Classical in
/-- A declaration makes nothing used but the template that it declares for the first time, and this one if
some edge reached its name in the current watch already. -/
theorem Coherent.map_name_used_apply (h : g.Coherent) {op : Operation} (hop : op.declares = true) :
    (g.apply op).used.map (·.name) = g.used.map (·.name) ++ op.declaredName?.toList.filter fun name =>
      name ∉ g.names ∧ ∃ owner id, ⟨name, true⟩ ∈ g.history owner id := by
  have hreached : (g.apply op).reached = g.reached := by
    funext name
    rw [Bool.eq_iff_iff, (h.apply op).reached_eq_true_iff, h.reached_eq_true_iff]
    simp only [h.history_apply_of_declares hop]
  rw [map_name_used, map_name_used, hreached, h.names_apply]
  cases op with
  | declareTemplate name file =>
    show (adjoin g.names name).filter g.reached = _
    by_cases hname : name ∈ g.names
    · simp [adjoin_of_mem hname, Operation.declaredName?, hname]
    · rw [adjoin, if_neg hname, List.filter_append]
      congr 1
      refine List.filter_congr fun declared hdeclared => ?_
      obtain rfl := List.mem_singleton.1 hdeclared
      simp [hname, ← h.reached_eq_true_iff]
  | declare owner d => simp [Operation.onNames, Operation.declaredName?]
  | _ => cases hop

/-! ## Runs -/

open Classical in
/-- What was declared and what was found are kept apart. Take any run from the empty graph, and the same run
without the operations that are no declarations: no records, no watches, no decisions about what to record.
The declarations give back the same in both, and the graphs they lead to give the same answers to all
questions about declarations. So a template that names another one in none of its declarations is not found
by any query that asks who points at that one, whatever its dynamic targets turned out to be.

The other way round, a declaration changes no history, neither its names nor what is current in it, and no
decision about what to record. All it can do to the list of used templates is to put the template at its end
that it declares, if that was not declared before and some edge reached its name in the current watch. -/
theorem declared_apart_from_found (log : List Operation) :
    let declarations := log.filter Operation.declares
    let g := empty.applyAll log
    empty.responses log = empty.responses declarations ∧
    g.StaticallyAlike (empty.applyAll declarations) ∧
    (∀ owner name, (∀ d ∈ g.declarations owner, .named name ∉ d.targets) →
      owner ∉ g.staticView.dependentsOf name ∧ owner ∉ (g.includersOf name).map (·.name) ∧
      owner ∉ (g.importersOf name).map (·.name) ∧ owner ∉ (g.childrenOf name).map (·.name)) ∧
    ∀ op, op.declares = true →
      (∀ owner id, (g.apply op).history owner id = g.history owner id) ∧
      (g.apply op).watchConcurrent = g.watchConcurrent ∧
      (g.apply op).used.map (·.name) = g.used.map (·.name) ++ op.declaredName?.toList.filter fun name =>
        name ∉ g.names ∧ ∃ owner id, ⟨name, true⟩ ∈ g.history owner id := by
  intro declarations g
  have hcoherent : g.Coherent := coherent_empty.applyAll log
  have hdeclarations : declarations.filter Operation.declares = declarations := by
    simp [declarations]
  refine ⟨?_, staticallyAlike_of_outline_eq ?_, fun _ _ => hcoherent.not_mem_of_not_named,
    fun op hop => ⟨hcoherent.history_apply_of_declares hop, g.watchConcurrent_apply (.inl hop),
      hcoherent.map_name_used_apply hop⟩⟩
  · rw [responses_outline, empty.responses_outline declarations, hdeclarations]
  · rw [outline_applyAll, outline_applyAll, hdeclarations]

/-- A page whose parent is only known to a render is no child of what the render found, and what it found
beyond the declared templates is used as soon as it is declared. -/
theorem skin_not_child :
    let log : List Operation := [.declareTemplate "base" none, .declareTemplate "page" none,
      .declareTemplate "skin" none, .declare "page" (.extending (.named "base")),
      .declare "skin" (.extending .dynamic), .record "page" 0 "base", .record "skin" 0 "base",
      .record "skin" 0 "plain"]
    let g := empty.applyAll log
    g.history "skin" 0 = [⟨"base", true⟩, ⟨"plain", true⟩] ∧
    (g.childrenOf "base").map (·.name) = ["page"] ∧
    (∀ d ∈ g.declarations "skin", .named "base" ∉ d.targets) ∧
    "skin" ∉ g.staticView.dependentsOf "base" ∧
    (g.apply (.declareTemplate "plain" none)).used.map (·.name) = g.used.map (·.name) ++ ["plain"] := by
  intro log g
  have hhistory : g.history "skin" 0 = [⟨"base", true⟩, ⟨"plain", true⟩] := by decide +kernel
  have hnamed : ∀ d ∈ g.declarations "skin", .named "base" ∉ d.targets := by decide +kernel
  have hnew : "plain" ∉ g.names := by decide +kernel
  obtain ⟨-, -, hapart, hdeclare⟩ := declared_apart_from_found log
  refine ⟨hhistory, by decide +kernel, hnamed, (hapart "skin" "base" hnamed).1, ?_⟩
  rw [(hdeclare (.declareTemplate "plain" none) rfl).2.2]
  have hreached : ∃ owner id, (⟨"plain", true⟩ : Resolution) ∈ g.history owner id :=
    ⟨"skin", 0, by rw [hhistory]; simp⟩
  simp [Operation.declaredName?, g, hnew, hreached]

end Graph

end TemplateDeps
