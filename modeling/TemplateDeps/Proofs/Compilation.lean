import TemplateDeps.Proofs.Graph.Views
import TemplateDeps.Proofs.Manifest.Check
import Mathlib.Data.List.Forall2

/-!
# Compiling what passes the check

The check of a manifest is made for its compiler: what stops a compilation is an edge that cannot be planned
and nothing else (`Graph.Coherent.exists_compile_iff`), and a checked manifest has no such edge
(`Manifest.exists_plan`). A compilation that is not stopped asks of the graph to declare the template
and its edges and nothing else (`Entry.operations`), and its edges correspond one by one to those of
the entry. `Graph.compiled?` is the compiled edge that a graph has for a described one, and `Graph.Compiled`
is what a render needs to know of it: it has the candidates of the described edge, tolerates a missing
target when that does, and stands where the graph keeps the declaration of that edge. Operations on the
graph keep all of this (`Coherent.compiled?_applyAll`, `Coherent.compiled_applyAll`), so a compiled edge
can be held for as long as the graph is.
-/

namespace TemplateDeps

/-! ## What compiling does -/

/-- The declaration of an edge of `owner`, if the edge can be planned. -/
def EdgeSpec.declaration? (owner : String) (spec : EdgeSpec) : Option Declaration :=
  match spec.plan owner with
  | .ok p => some p.declaration
  | .error _ => none

/-- The declaration of an edge lists its candidates. -/
theorem EdgeSpec.targets_declaration? {owner : String} {spec : EdgeSpec} {d : Declaration}
    (h : spec.declaration? owner = some d) : d.targets = spec.candidates.map TargetRef.target := by
  unfold declaration? at h
  cases hplan : spec.plan owner with
  | error fault => simp [hplan] at h
  | ok p =>
    rw [hplan] at h
    cases h
    exact (plan_eq_ok hplan).2.1

/-- Whether an operation declares a template or an edge. -/
def Graph.Operation.declares : Graph.Operation → Bool
  | .declareTemplate .. => true
  | .declare .. => true
  | _ => false

/-- What compiling edges of `owner` asks of the graph. -/
def EdgeSpec.operations (owner : String) (specs : List EdgeSpec) : List Graph.Operation :=
  (specs.filterMap (EdgeSpec.declaration? owner)).map (.declare owner)

/-- What compiling an entry asks of the graph. -/
def Entry.operations (name : String) (entry : Entry) : List Graph.Operation :=
  .declareTemplate name entry.file :: EdgeSpec.operations name entry.edges

/-- Compiling only declares. -/
theorem Entry.declares_operations {name : String} {entry : Entry} {op : Graph.Operation}
    (h : op ∈ entry.operations name) : op.declares = true := by
  rcases List.mem_cons.1 h with rfl | h
  · rfl
  · obtain ⟨d, -, rfl⟩ := List.mem_map.1 h
    rfl

namespace Graph

variable {g : Graph}

/-- Where the graph keeps the edge of `owner` that `spec` describes. -/
def placeOf? (g : Graph) (owner : String) (spec : EdgeSpec) : Option EdgeId :=
  (spec.declaration? owner).bind (g.edgeId? owner)

/-- A compiled edge stands for the edge of `owner` that `spec` describes. -/
structure Compiled (g : Graph) (owner : String) (spec : EdgeSpec) (edge : CompiledEdge) : Prop where
  place : g.placeOf? owner spec = some edge.id
  targets : edge.targets = spec.candidates
  optional : edge.optional = spec.optional

/-- An edge keeps its place, whatever is done to the graph. -/
theorem Coherent.placeOf?_applyAll (h : g.Coherent) (ops : List Operation) {owner : String}
    {spec : EdgeSpec} {id : EdgeId} (hid : g.placeOf? owner spec = some id) :
    (g.applyAll ops).placeOf? owner spec = some id := by
  obtain ⟨d, hd, hid⟩ := Option.bind_eq_some_iff.1 hid
  exact Option.bind_eq_some_iff.2 ⟨d, hd, h.edgeId?_applyAll ops hid⟩

/-- A compiled edge stays one, whatever is done to the graph. -/
theorem Coherent.compiled_applyAll (h : g.Coherent) (ops : List Operation) {owner : String}
    {spec : EdgeSpec} {edge : CompiledEdge} (hedge : g.Compiled owner spec edge) :
    (g.applyAll ops).Compiled owner spec edge where
  place := h.placeOf?_applyAll ops hedge.place
  targets := hedge.targets
  optional := hedge.optional

/-- The compiled edge that the graph has for the edge of `owner` that `spec` describes. -/
def compiled? (g : Graph) (owner : String) (spec : EdgeSpec) : Option CompiledEdge :=
  match spec.plan owner with
  | .ok p =>
    (g.edgeId? owner p.declaration).map fun id =>
      ⟨id, p.declaration.kind, p.targets, p.ignoreMissing⟩
  | .error _ => none

/-- There is a compiled edge where the edge can be planned and its declaration has a position. -/
theorem compiled?_eq_some_iff {owner : String} {spec : EdgeSpec} {edge : CompiledEdge} :
    g.compiled? owner spec = some edge ↔
      ∃ p, spec.plan owner = .ok p ∧ g.edgeId? owner p.declaration = some edge.id ∧
        edge = ⟨edge.id, p.declaration.kind, p.targets, p.ignoreMissing⟩ := by
  unfold compiled?
  cases hplan : spec.plan owner with
  | error fault => simp
  | ok p =>
    rw [Option.map_eq_some_iff]
    constructor
    · rintro ⟨id, hid, rfl⟩
      exact ⟨p, rfl, hid, rfl⟩
    · rintro ⟨_, hp, hid, hedge⟩
      cases hp
      exact ⟨edge.id, hid, hedge.symm⟩

/-- The compiled edge of a described edge stands for it. -/
theorem compiled_of_compiled? {owner : String} {spec : EdgeSpec} {edge : CompiledEdge}
    (h : g.compiled? owner spec = some edge) : g.Compiled owner spec edge := by
  obtain ⟨p, hplan, hid, hedge⟩ := compiled?_eq_some_iff.1 h
  obtain ⟨htargets, -, hoptional⟩ := EdgeSpec.plan_eq_ok hplan
  refine ⟨?_, ?_, ?_⟩
  · simp [placeOf?, EdgeSpec.declaration?, hplan, hid]
  · rw [hedge]
    exact htargets
  · rw [hedge]
    exact hoptional

/-- The graph has the same compiled edge later on, whatever is done to it. -/
theorem Coherent.compiled?_applyAll (h : g.Coherent) (ops : List Operation) {owner : String}
    {spec : EdgeSpec} {edge : CompiledEdge} (hedge : g.compiled? owner spec = some edge) :
    (g.applyAll ops).compiled? owner spec = some edge := by
  obtain ⟨p, hplan, hid, hsame⟩ := compiled?_eq_some_iff.1 hedge
  exact compiled?_eq_some_iff.2 ⟨p, hplan, h.edgeId?_applyAll ops hid, hsame⟩

/-- Compiled edges of a list of described edges are those of its members, one by one. -/
theorem forall₂_compiled? {owner : String} {specs : List EdgeSpec} {edges : List CompiledEdge}
    (h : specs.map (g.compiled? owner) = edges.map some) :
    List.Forall₂ (fun spec edge => g.compiled? owner spec = some edge) specs edges := by
  have hsame : List.Forall₂ (· = ·) (specs.map (g.compiled? owner)) (edges.map some) :=
    List.forall₂_eq_eq_eq ▸ h
  rwa [List.forall₂_map_left_iff, List.forall₂_map_right_iff] at hsame

/-- One more edge of a known template is declared and compiled. -/
theorem Coherent.add_eq (h : g.Coherent) {owner : String} (howner : owner ∈ g.names)
    {spec : EdgeSpec} {p : PlannedEdge} (hplan : spec.plan owner = .ok p)
    (edges : List CompiledEdge) :
    ∃ edge, Compilation.add owner ⟨g, edges, none⟩ spec =
        ⟨g.apply (.declare owner p.declaration), edges ++ [edge], none⟩ ∧
      (g.apply (.declare owner p.declaration)).compiled? owner spec = some edge := by
  obtain ⟨id, hdeclare, hid⟩ := h.declare_eq_ok howner p.declaration
  refine ⟨⟨id, p.declaration.kind, p.targets, p.ignoreMissing⟩, ?_, ?_⟩
  · simp [Compilation.add, hplan, hdeclare]
  · exact compiled?_eq_some_iff.2 ⟨p, hplan, hid, rfl⟩

/-- Edges of a known template that can be planned are declared one after the other. -/
theorem Coherent.foldl_add_eq (h : g.Coherent) {owner : String} (howner : owner ∈ g.names)
    {specs : List EdgeSpec} (hplan : ∀ spec ∈ specs, ∃ p, spec.plan owner = .ok p)
    (edges : List CompiledEdge) :
    ∃ new, specs.foldl (Compilation.add owner) ⟨g, edges, none⟩ =
        ⟨g.applyAll (EdgeSpec.operations owner specs), edges ++ new, none⟩ ∧
      specs.map ((g.applyAll (EdgeSpec.operations owner specs)).compiled? owner) = new.map some := by
  induction specs generalizing g edges with
  | nil => exact ⟨[], by simp [EdgeSpec.operations], rfl⟩
  | cons spec rest ih =>
    obtain ⟨⟨p, hp⟩, hrest⟩ := List.forall_mem_cons.1 hplan
    obtain ⟨edge, hadd, hedge⟩ := h.add_eq howner hp edges
    have hnext := h.apply (.declare owner p.declaration)
    obtain ⟨new, hfold, hnew⟩ :=
      ih hnext (h.mem_names_apply _ howner) hrest (edges ++ [edge])
    have hops : EdgeSpec.operations owner (spec :: rest) =
        .declare owner p.declaration :: EdgeSpec.operations owner rest := by
      simp [EdgeSpec.operations, EdgeSpec.declaration?, hp]
    rw [hops, applyAll_cons]
    refine ⟨edge :: new, ?_, ?_⟩
    · rw [List.foldl_cons, hadd, hfold, List.append_assoc, List.singleton_append]
    · rw [List.map_cons, List.map_cons, hnext.compiled?_applyAll _ hedge, hnew]

/-- Declaring edges declares no template. -/
theorem Coherent.names_applyAll_declare (h : g.Coherent) (owner : String) (ds : List Declaration) :
    (g.applyAll (ds.map (.declare owner))).names = g.names := by
  induction ds generalizing g with
  | nil => rfl
  | cons d rest ih =>
    rw [List.map_cons, applyAll_cons, ih (h.apply _), h.names_apply]
    rfl

/-- What compiling an entry asks of the graph declares its template, and no other one. -/
theorem Coherent.names_applyAll_operations (h : g.Coherent) (name : String) (entry : Entry) :
    (g.applyAll (entry.operations name)).names = adjoin g.names name := by
  rw [Entry.operations, applyAll_cons, EdgeSpec.operations, (h.apply _).names_applyAll_declare,
    h.names_apply]
  rfl

/-- Compiling an entry whose edges can all be planned is not stopped: it declares the entry, and its
edges are those that the graph has for the edges of the entry then. -/
theorem Coherent.compile_eq_map (h : g.Coherent) {name : String} {entry : Entry}
    (hplan : ∀ spec ∈ entry.edges, ∃ p, spec.plan name = .ok p) :
    ∃ edges, g.compile name entry = ⟨g.applyAll (entry.operations name), edges, none⟩ ∧
      entry.edges.map ((g.applyAll (entry.operations name)).compiled? name) = edges.map some := by
  have hname : name ∈ (g.apply (.declareTemplate name entry.file)).names := by
    rw [h.names_apply]
    exact mem_adjoin.2 (.inr rfl)
  have hnext := h.apply (.declareTemplate name entry.file)
  obtain ⟨edges, hfold, hedges⟩ := hnext.foldl_add_eq hname hplan []
  exact ⟨edges, hfold, hedges⟩

/-- A compilation that is not stopped has edges that stand for those of the entry, one by one. -/
theorem Coherent.compile_eq (h : g.Coherent) {name : String} {entry : Entry}
    (hplan : ∀ spec ∈ entry.edges, ∃ p, spec.plan name = .ok p) :
    ∃ edges, g.compile name entry = ⟨g.applyAll (entry.operations name), edges, none⟩ ∧
      List.Forall₂ ((g.applyAll (entry.operations name)).Compiled name) entry.edges edges := by
  obtain ⟨edges, hcompile, hedges⟩ := h.compile_eq_map hplan
  exact ⟨edges, hcompile, (forall₂_compiled? hedges).imp fun _ _ => compiled_of_compiled?⟩

end Graph

/-! ## The node of a compiled template -/

namespace Template

/-- The node, with edges declared one after the other. -/
def declareAll (t : Template) (ds : List Declaration) : Template :=
  ds.foldl (fun t d => (t.declare d).2) t

/-- Declaring edges adds them to the declarations and keeps all else that was declared. -/
theorem declareAll_eq (t : Template) (ds : List Declaration) :
    (t.declareAll ds).name = t.name ∧ (t.declareAll ds).file = t.file ∧
    (t.declareAll ds).reloaded = t.reloaded ∧
    (t.declareAll ds).declarations = adjoinAll t.declarations ds := by
  induction ds generalizing t with
  | nil => exact ⟨rfl, rfl, rfl, rfl⟩
  | cons d rest ih =>
    obtain ⟨hname, hfile, hreloaded, hdeclarations⟩ := ih (t.declare d).2
    rw [name_declare] at hname
    rw [file_declare] at hfile
    rw [reloaded_declare] at hreloaded
    rw [declarations_declare] at hdeclarations
    exact ⟨hname, hfile, hreloaded, hdeclarations⟩

end Template

namespace Graph

variable {g : Graph} {name : String}

/-- Declaring edges of one template changes its node only. -/
theorem Coherent.template?_applyAll_declare (h : g.Coherent) (owner name : String)
    (ds : List Declaration) :
    (g.applyAll (ds.map (.declare owner))).template? name =
      if owner = name then (g.template? name).map (·.declareAll ds) else g.template? name := by
  induction ds generalizing g with
  | nil => simp [Template.declareAll]
  | cons d rest ih =>
    rw [List.map_cons, applyAll_cons, ih (h.apply _), h.template?_apply, Operation.onNode]
    by_cases hname : owner = name
    · simp only [if_pos hname, Option.map_map]
      rfl
    · simp only [if_neg hname]

/-- Compiling an entry makes the node of a new template or marks that of a known one, adds its edges, and
leaves the other nodes as they are. -/
theorem Coherent.template?_applyAll_operations (h : g.Coherent) (entry : Entry) (other : String) :
    (g.applyAll (entry.operations name)).template? other =
      if name = other then
        some (((g.template? name).elim (Template.fresh name entry.file) Template.markReloaded).declareAll
          (entry.edges.filterMap (EdgeSpec.declaration? name)))
      else g.template? other := by
  rw [Entry.operations, applyAll_cons, EdgeSpec.operations,
    (h.apply _).template?_applyAll_declare, h.template?_apply, Operation.onNode]
  by_cases hname : name = other
  · subst hname
    rw [if_pos rfl, if_pos rfl, if_pos rfl]
    cases g.template? name <;> rfl
  · simp only [if_neg hname]

/-- Compiling an entry adds its declarations to those that the template had. -/
theorem Coherent.declarations_applyAll_operations (h : g.Coherent) (name : String) (entry : Entry) :
    (g.applyAll (entry.operations name)).declarations name =
      adjoinAll (g.declarations name) (entry.edges.filterMap (EdgeSpec.declaration? name)) := by
  rw [declarations, h.template?_applyAll_operations, if_pos rfl, declarations]
  cases hnode : g.template? name with
  | none => exact (Template.declareAll_eq _ _).2.2.2
  | some t => exact (Template.declareAll_eq _ _).2.2.2

end Graph

/-! ## What stops a compilation -/

/-- A compilation that was stopped declares nothing more. -/
theorem Compilation.foldl_add_fault (owner : String) (specs : List EdgeSpec) (g : Graph)
    (edges : List CompiledEdge) (fault : Fault) :
    specs.foldl (add owner) ⟨g, edges, some fault⟩ = ⟨g, edges, some fault⟩ := by
  induction specs with
  | nil => rfl
  | cons spec rest ih => exact ih

/-- In a compilation that was not stopped every edge could be planned. -/
theorem Compilation.exists_plan {owner : String} {specs : List EdgeSpec} {c : Compilation}
    (h : (specs.foldl (add owner) c).fault = none) :
    ∀ spec ∈ specs, ∃ p, spec.plan owner = .ok p := by
  induction specs generalizing c with
  | nil => exact fun _ hspec => absurd hspec List.not_mem_nil
  | cons spec rest ih =>
    rw [List.foldl_cons] at h
    refine List.forall_mem_cons.2 ⟨?_, ih h⟩
    obtain ⟨g, edges, _ | fault⟩ := c
    · cases hplan : spec.plan owner with
      | ok p => exact ⟨p, rfl⟩
      | error fault =>
        have hstop : add owner ⟨g, edges, none⟩ spec = ⟨g, edges, some fault⟩ := by
          rw [add, hplan]
        rw [hstop, foldl_add_fault] at h
        cases h
    · rw [add, foldl_add_fault] at h
      cases h

/-- Whatever the graph, an entry compiles when all its edges can be planned. -/
theorem Graph.Coherent.exists_compile_iff {g : Graph} (h : g.Coherent) {name : String} {entry : Entry} :
    (∃ edges, (g.compile name entry).result = .ok edges) ↔
      ∀ spec ∈ entry.edges, ∃ p, spec.plan name = .ok p := by
  constructor
  · rintro ⟨edges, hresult⟩
    have hfault : (entry.edges.foldl (Compilation.add name)
        ⟨g.declareTemplate name entry.file, [], none⟩).fault = none := by
      unfold Compilation.result at hresult
      split at hresult
      · cases hresult
      · next hfault => exact hfault
    exact Compilation.exists_plan hfault
  · intro hplan
    obtain ⟨edges, hcompile, -⟩ := h.compile_eq hplan
    exact ⟨edges, by rw [hcompile]; rfl⟩

end TemplateDeps
