import TemplateDeps.Proofs.Compilation
import TemplateDeps.Proofs.Graph.Access
import TemplateDeps.Proofs.Graph.Positions

/-!
# Compiling a template once more

An engine may compile a template as often as it likes. `compile_again_eq` says that this does no harm: once
an entry compiled, it compiles again to the same edges in every graph that came of the first time, whatever
was done in between, and the graph stays as it is but for the mark of reloading. The edges correspond to
those of the entry one by one, and two of them have the same position exactly if their declarations say
the same.

* `EdgeSpec.attributes` is what the declaration of an edge has to say, read off the entry without its
  compiler; `EdgeSpec.attributes_plan` says that the compiler gets it right.
* A graph may also be worked on by compilations, which are stopped when they come to a malformed edge.
  `Graph.workAll` is such a run, and it comes down to operations on the graph
  (`exists_applyAll_workAll`).
* `Coherent.applyAll_operations_eq` holds the argument: a graph that has a position for every edge of an
  entry takes nothing from compiling the entry but the mark.
-/

namespace TemplateDeps

/-! ## What the declaration of an edge says -/

/-- What can be read off the declaration of an edge, as the entry describes it. A variable stands for a
target that is not known before a render. -/
def EdgeSpec.attributes (spec : EdgeSpec) :
    Kind × List Target × Option Bool × Option Bool × Option String × Option (List String) :=
  let targets := spec.candidates.map TargetRef.target
  match spec with
  | extending _ => (.extending, targets, none, none, none, none)
  | including fragment =>
    (.including, targets, some fragment.withContext, some fragment.ignoreMissing, none, none)
  | importing library =>
    (.importing, targets, some library.withContext, none, library.boundAs, library.members)

/-- The declaration of an include says what its entry describes. -/
theorem IncludeSpec.attributes_fragment (spec : IncludeSpec) {targets : List Target} {d : Declaration}
    (h : Declaration.fragment targets = .ok d) :
    ((d.setContext spec.withContext).setIgnoreMissing spec.ignoreMissing).attributes =
      (.including, targets, some spec.withContext, some spec.ignoreMissing, none, none) := by
  cases targets with
  | nil => cases h
  | cons first others =>
    cases h
    rfl

/-- The declaration of an import says what its entry describes. -/
theorem ImportSpec.attributes_library {owner : String} {spec : ImportSpec} {binding : Binding}
    (h : spec.binding owner = .ok binding) (target : Target) :
    ((Declaration.library target binding).setContext spec.withContext).attributes =
      (.importing, [target], some spec.withContext, none, spec.boundAs, spec.members) := by
  unfold ImportSpec.binding at h
  split at h
  · next name hname hmembers =>
    cases h
    rw [hname, hmembers]
    rfl
  · next names hname hmembers =>
    cases h
    rw [hname, hmembers]
    rfl
  · cases h

/-- A planned edge declares what the entry describes, and has the targets as they are written. -/
theorem EdgeSpec.attributes_plan {owner : String} {spec : EdgeSpec} {p : PlannedEdge}
    (h : spec.plan owner = .ok p) :
    p.declaration.attributes = spec.attributes ∧ p.ignoreMissing = spec.optional ∧
      spec.written.map TargetRef.parse? = p.targets.map some := by
  have htargets := (plan_eq_ok h).2.1
  cases spec with
  | extending raw =>
    obtain ⟨target, htarget, heq⟩ := bind_eq_ok_iff.1 h
    cases heq
    refine ⟨?_, rfl, ?_⟩
    · rw [attributes, ← htargets]
      rfl
    · simp [written, readTarget_eq_ok_iff.1 htarget]
  | including fragment =>
    obtain ⟨targets, hread, hrest⟩ := bind_eq_ok_iff.1 h
    cases hd : Declaration.fragment (targets.map TargetRef.target) with
    | error cause => rw [hd] at hrest; cases hrest
    | ok d =>
      rw [hd] at hrest
      cases hrest
      refine ⟨?_, rfl, mapM_readTarget_eq_ok_iff.1 hread⟩
      rw [attributes, ← htargets, Declaration.targets_setIgnoreMissing,
        Declaration.targets_setContext, (Declaration.fragment_eq_ok hd).2]
      exact fragment.attributes_fragment hd
  | importing library =>
    obtain ⟨target, htarget, hrest⟩ := bind_eq_ok_iff.1 h
    obtain ⟨binding, hbinding, heq⟩ := bind_eq_ok_iff.1 hrest
    cases heq
    refine ⟨?_, rfl, ?_⟩
    · rw [attributes, ← htargets]
      exact ImportSpec.attributes_library hbinding target.target
    · simp [written, readTarget_eq_ok_iff.1 htarget]

/-- The declaration of an edge says what the entry describes. -/
theorem EdgeSpec.attributes_declaration? {owner : String} {spec : EdgeSpec} {d : Declaration}
    (h : spec.declaration? owner = some d) : d.attributes = spec.attributes := by
  unfold declaration? at h
  cases hplan : spec.plan owner with
  | error fault => simp [hplan] at h
  | ok p =>
    rw [hplan] at h
    cases h
    exact (attributes_plan hplan).1

namespace Graph

variable {g : Graph} {name : String} {entry : Entry}

/-! ## Runs with compilations -/

/-- What is done to a graph: an operation, or the compilation of an entry, be it successful or not. -/
inductive Task
  | operate (op : Operation)
  | compile (name : String) (entry : Entry)

/-- The graph after a task. -/
def work (g : Graph) : Task → Graph
  | .operate op => g.apply op
  | .compile name entry => (g.compile name entry).graph

/-- The graph after a list of tasks. -/
def workAll (g : Graph) (tasks : List Task) : Graph :=
  tasks.foldl work g

/-- Whether or not they are stopped by a malformed one, edges of a template only add declarations to it. -/
theorem exists_applyAll_foldl_add (owner : String) (specs : List EdgeSpec) (c : Compilation) :
    ∃ ds : List Declaration,
      (specs.foldl (Compilation.add owner) c).graph = c.graph.applyAll (ds.map (.declare owner)) := by
  induction specs generalizing c with
  | nil => exact ⟨[], rfl⟩
  | cons spec rest ih =>
    have hadd : ∃ ds : List Declaration,
        (Compilation.add owner c spec).graph = c.graph.applyAll (ds.map (.declare owner)) := by
      obtain ⟨g, edges, _ | fault⟩ := c
      · unfold Compilation.add
        dsimp only
        split
        · exact ⟨[], rfl⟩
        · next p hplan =>
          split
          · exact ⟨[], rfl⟩
          · next id next hdeclare =>
            refine ⟨[p.declaration], ?_⟩
            rw [List.map_singleton, applyAll_cons, applyAll_nil, apply, hdeclare]
      · exact ⟨[], rfl⟩
    obtain ⟨ds, hds⟩ := hadd
    obtain ⟨more, hmore⟩ := ih (Compilation.add owner c spec)
    refine ⟨ds ++ more, ?_⟩
    rw [List.foldl_cons, hmore, hds, List.map_append, applyAll_append]

/-- Whether or not it is stopped, a compilation declares its template and then edges of it. -/
theorem exists_applyAll_compile (g : Graph) (name : String) (entry : Entry) :
    ∃ ds : List Declaration, (g.compile name entry).graph =
      g.applyAll (.declareTemplate name entry.file :: ds.map (.declare name)) :=
  exists_applyAll_foldl_add name entry.edges ⟨g.declareTemplate name entry.file, [], none⟩

/-- A compilation keeps arena and index together. -/
theorem Coherent.coherent_compile (h : g.Coherent) (name : String) (entry : Entry) :
    (g.compile name entry).graph.Coherent := by
  obtain ⟨ds, hds⟩ := g.exists_applyAll_compile name entry
  rw [hds]
  exact h.applyAll _

/-- Whether or not it is stopped, a compilation declares its template, and no other one. -/
theorem Coherent.names_compile (h : g.Coherent) (name : String) (entry : Entry) :
    (g.compile name entry).graph.names = adjoin g.names name := by
  obtain ⟨ds, hds⟩ := g.exists_applyAll_compile name entry
  rw [hds, applyAll_cons, (h.apply _).names_applyAll_declare, h.names_apply]
  rfl

/-- A run with compilations comes down to operations. -/
theorem exists_applyAll_workAll (g : Graph) (tasks : List Task) :
    ∃ ops, g.workAll tasks = g.applyAll ops := by
  induction tasks generalizing g with
  | nil => exact ⟨[], rfl⟩
  | cons task rest ih =>
    have hwork : ∃ ops, g.work task = g.applyAll ops := by
      cases task with
      | operate op => exact ⟨[op], rfl⟩
      | compile name entry =>
        obtain ⟨ds, hds⟩ := g.exists_applyAll_compile name entry
        exact ⟨_, hds⟩
    obtain ⟨ops, hops⟩ := hwork
    obtain ⟨more, hmore⟩ := ih (g.work task)
    refine ⟨ops ++ more, ?_⟩
    rw [applyAll_append, ← hops]
    exact hmore

/-- A run keeps arena and index together. -/
theorem Coherent.workAll (h : g.Coherent) (tasks : List Task) : (g.workAll tasks).Coherent := by
  obtain ⟨ops, hops⟩ := g.exists_applyAll_workAll tasks
  rw [hops]
  exact h.applyAll ops

/-! ## Compiling once more -/

/-- Declaring an edge that has a position changes nothing. -/
theorem apply_declare_eq_self {owner : String} {d : Declaration} {id : EdgeId}
    (hid : g.edgeId? owner d = some id) : g.apply (.declare owner d) = g := by
  rw [apply_declare]
  refine modifyTemplate_eq_self fun t ht => ?_
  rw [edgeId?, ht, Option.bind_some] at hid
  rw [Template.declare, hid]

/-- Declaring edges that have positions changes nothing. -/
theorem applyAll_declare_eq_self {owner : String} {ds : List Declaration}
    (h : ∀ d ∈ ds, ∃ id, g.edgeId? owner d = some id) :
    g.applyAll (ds.map (.declare owner)) = g := by
  induction ds with
  | nil => rfl
  | cons d rest ih =>
    obtain ⟨⟨id, hid⟩, hrest⟩ := List.forall_mem_cons.1 h
    rw [List.map_cons, applyAll_cons, apply_declare_eq_self hid, ih hrest]

/-- Where every edge of an entry has a position, compiling the entry does nothing but mark its template
as reloaded. -/
theorem Coherent.applyAll_operations_eq (h : g.Coherent) (hname : name ∈ g.names)
    (hplace : ∀ spec ∈ entry.edges, ∃ id, g.placeOf? name spec = some id) :
    g.applyAll (entry.operations name) = g.modifyTemplate name .markReloaded := by
  have hknown : (g.index.get? name).isSome = true := by
    rw [Option.isSome_iff_ne_none, Ne, h.index_eq_none_iff, h.template?_eq_none_iff, not_not]
    exact hname
  have hmark : g.apply (.declareTemplate name entry.file) = g.modifyTemplate name .markReloaded := by
    rw [apply_declareTemplate, if_pos hknown]
  rw [Entry.operations, applyAll_cons, EdgeSpec.operations, applyAll_declare_eq_self, hmark]
  -- The mark has no part in the positions.
  intro d hd
  obtain ⟨spec, hspec, hdeclares⟩ := List.mem_filterMap.1 hd
  obtain ⟨id, hid⟩ := hplace spec hspec
  rw [placeOf?, hdeclares, Option.bind_some] at hid
  exact ⟨id, h.edgeId?_apply _ hid⟩

/-- The compiled edge is the one that is described: it has the kind, the targets as they are written and
the tolerance of missing ones, and at its position the graph keeps a declaration that says the same. -/
structure Represents (g : Graph) (owner : String) (spec : EdgeSpec) (edge : CompiledEdge) : Prop where
  written : spec.written.map TargetRef.parse? = edge.targets.map some
  kind : edge.kind = spec.attributes.1
  ignoreMissing : edge.ignoreMissing = spec.optional
  stored : ∃ d, (g.declarations owner)[edge.id]? = some d ∧ d.attributes = spec.attributes

/-- The compiled edge that a graph has for a described edge represents it. -/
theorem represents_of_compiled? {owner : String} {spec : EdgeSpec} {edge : CompiledEdge}
    (h : g.compiled? owner spec = some edge) : g.Represents owner spec edge := by
  obtain ⟨p, hplan, hid, hedge⟩ := compiled?_eq_some_iff.1 h
  obtain ⟨hattributes, hoptional, hwritten⟩ := EdgeSpec.attributes_plan hplan
  refine ⟨?_, ?_, ?_, p.declaration, getElem?_declarations hid, hattributes⟩
  · rw [hedge]
    exact hwritten
  · rw [hedge, ← hattributes]
    rfl
  · rw [hedge]
    exact hoptional

/-- Two compiled edges of a template have the same position when their declarations say the same. -/
theorem id_eq_iff_of_compiled? {owner : String} {spec spec' : EdgeSpec} {edge edge' : CompiledEdge}
    (h : g.compiled? owner spec = some edge) (h' : g.compiled? owner spec' = some edge') :
    edge.id = edge'.id ↔ spec.attributes = spec'.attributes := by
  obtain ⟨p, hplan, hid, -⟩ := compiled?_eq_some_iff.1 h
  obtain ⟨p', hplan', hid', -⟩ := compiled?_eq_some_iff.1 h'
  rw [← (EdgeSpec.attributes_plan hplan).1, ← (EdgeSpec.attributes_plan hplan').1,
    Declaration.attributes_injective.eq_iff]
  constructor
  · intro hsame
    rw [← hsame] at hid'
    exact Option.some.inj ((getElem?_declarations hid).symm.trans (getElem?_declarations hid'))
  · intro hsame
    rw [hsame] at hid
    exact Option.some.inj (hid.symm.trans hid')

/-- The graph has the same compiled edges later on, whatever is done to it. -/
theorem Coherent.map_compiled?_applyAll (h : g.Coherent) (ops : List Operation) {owner : String}
    {specs : List EdgeSpec} {edges : List CompiledEdge}
    (hedges : specs.map (g.compiled? owner) = edges.map some) :
    specs.map ((g.applyAll ops).compiled? owner) = edges.map some := by
  rw [← hedges]
  refine List.map_congr_left fun spec hspec => ?_
  have hmem : g.compiled? owner spec ∈ edges.map some := hedges ▸ List.mem_map_of_mem hspec
  obtain ⟨edge, -, hedge⟩ := List.mem_map.1 hmem
  rw [← hedge, h.compiled?_applyAll ops hedge.symm]

/-- In a graph that has compiled edges for an entry, compiling the entry gives just these and marks the
template as reloaded. -/
theorem Coherent.compile_eq_of_map (h : g.Coherent) (hname : name ∈ g.names)
    {edges : List CompiledEdge} (hedges : entry.edges.map (g.compiled? name) = edges.map some) :
    g.compile name entry = ⟨g.modifyTemplate name .markReloaded, edges, none⟩ := by
  have hcompiled : ∀ spec ∈ entry.edges, ∃ edge, g.compiled? name spec = some edge := by
    intro spec hspec
    have hmem : g.compiled? name spec ∈ edges.map some := hedges ▸ List.mem_map_of_mem hspec
    obtain ⟨edge, -, hedge⟩ := List.mem_map.1 hmem
    exact ⟨edge, hedge.symm⟩
  have hplan : ∀ spec ∈ entry.edges, ∃ p, spec.plan name = .ok p := by
    intro spec hspec
    obtain ⟨edge, hedge⟩ := hcompiled spec hspec
    obtain ⟨p, hp, -⟩ := compiled?_eq_some_iff.1 hedge
    exact ⟨p, hp⟩
  have hplace : ∀ spec ∈ entry.edges, ∃ id, g.placeOf? name spec = some id := by
    intro spec hspec
    obtain ⟨edge, hedge⟩ := hcompiled spec hspec
    exact ⟨edge.id, (compiled_of_compiled? hedge).place⟩
  obtain ⟨again, hcompile, hagain⟩ := h.compile_eq_map hplan
  have hsame : again = edges := by
    rw [h.map_compiled?_applyAll _ hedges] at hagain
    exact (List.map_injective_iff.2 (fun _ _ => Option.some.inj) hagain).symm
  rw [hcompile, h.applyAll_operations_eq hname hplace, hsame]

/-- Marking a template puts a node in the place of its own that differs in nothing but the mark. -/
theorem Coherent.exists_markReloaded_eq (h : g.Coherent) (hname : name ∈ g.names) :
    ∃ i file stored reloaded, g.templates[i]? = some ⟨name, file, stored, reloaded⟩ ∧
      g.modifyTemplate name .markReloaded =
        { g with templates := g.templates.set i ⟨name, file, stored, true⟩ } := by
  obtain ⟨t, ht⟩ := Option.isSome_iff_exists.1 (h.isSome_template?_iff.2 hname)
  obtain ⟨i, hi⟩ := h.holds ht
  obtain rfl := hi.named
  exact ⟨i, t.file, t.edges, t.reloaded, hi.node, modifyTemplate_eq_setAt hi.position hi.node _⟩

/-- Compiling once more is transparent. Let an entry compile for a template in some graph. In every graph
that comes of it, by operations and by compilations of the same or of other entries, it compiles again to
the same edges, and compiling it leaves the graph as it is, except that the template is marked as
reloaded: in the place of its node stands one with the same name, the same file and the same edges, their
records included. The edges represent those of the entry one by one, and two of them have the same position
exactly if the entry describes declarations that are equal. -/
theorem compile_again_eq (before : List Task) (name : String) (entry : Entry)
    {edges : List CompiledEdge}
    (hok : ((empty.workAll before).compile name entry).result = .ok edges) (later : List Task) :
    let g := ((empty.workAll before).compile name entry).graph.workAll later
    (g.compile name entry).result = .ok edges ∧
    name ∈ g.names ∧ (g.compile name entry).graph = g.modifyTemplate name .markReloaded ∧
    (∃ i file stored reloaded, g.templates[i]? = some ⟨name, file, stored, reloaded⟩ ∧
      (g.compile name entry).graph =
        { g with templates := g.templates.set i ⟨name, file, stored, true⟩ }) ∧
    List.Forall₂ (g.Represents name) entry.edges edges ∧
    ∀ (spec spec' : EdgeSpec) (edge edge' : CompiledEdge), (spec, edge) ∈ entry.edges.zip edges →
      (spec', edge') ∈ entry.edges.zip edges →
      (edge.id = edge'.id ↔ spec.attributes = spec'.attributes) := by
  intro g
  have hstart : (empty.workAll before).Coherent := coherent_empty.workAll before
  obtain ⟨first, hcompile, hfirst⟩ :=
    hstart.compile_eq_map (hstart.exists_compile_iff.1 ⟨edges, hok⟩)
  obtain rfl : first = edges := by
    rw [hcompile] at hok
    exact Except.ok.inj hok
  let next := (empty.workAll before).applyAll (entry.operations name)
  have hnext : next.Coherent := hstart.applyAll (entry.operations name)
  -- The later run is one of operations on the graph that the first compilation left.
  obtain ⟨ops, hops⟩ : ∃ ops, g = next.applyAll ops := by
    obtain ⟨ops, hops⟩ := next.exists_applyAll_workAll later
    exact ⟨ops, by rw [← hops]; simp only [g, hcompile, next]⟩
  have hcoherent : g.Coherent := hops ▸ hnext.applyAll ops
  have hname : name ∈ g.names := by
    rw [hops]
    refine hnext.mem_names_applyAll ops ?_
    rw [hstart.names_applyAll_operations]
    exact mem_adjoin.2 (.inr rfl)
  have hedges : entry.edges.map (g.compiled? name) = first.map some := by
    rw [hops]
    exact hnext.map_compiled?_applyAll ops hfirst
  have hagain := hcoherent.compile_eq_of_map hname hedges
  have hcompiled := forall₂_compiled? hedges
  refine ⟨by rw [hagain]; rfl, hname, by rw [hagain], ?_,
    hcompiled.imp fun _ _ => represents_of_compiled?, ?_⟩
  · rw [hagain]
    exact hcoherent.exists_markReloaded_eq hname
  · intro spec spec' edge edge' hmem hmem'
    obtain ⟨-, hzip⟩ := List.forall₂_iff_zip.1 hcompiled
    exact id_eq_iff_of_compiled? (hzip hmem) (hzip hmem')

/-- The entry of a page that includes two things of which only a render knows the names, and a list in
between. -/
def frontPage : Entry :=
  ⟨some "front.html", some "base",
    [⟨["$lead"], true, false⟩, ⟨["list", "empty"], true, true⟩, ⟨["$next"], true, false⟩], []⟩

/-- The two includes with variables share an edge, and go on doing so when the page is compiled again after
a render, a new watch and the compilation of a shorter page. -/
theorem compile_frontPage_again :
    let edges : List CompiledEdge :=
      [⟨0, .extending, [.literal "base"], false⟩, ⟨1, .including, [.var "lead"], false⟩,
        ⟨2, .including, [.literal "list", .literal "empty"], true⟩, ⟨1, .including, [.var "next"], false⟩]
    let first := (empty.workAll [.compile "base" .empty]).compile "front" frontPage
    let g := first.graph.workAll
      [.operate (.record "front" 1 "news"), .operate .startWatch, .compile "front" .empty]
    first.result = .ok edges ∧ (g.compile "front" frontPage).result = .ok edges ∧
    (g.compile "front" frontPage).graph = g.modifyTemplate "front" .markReloaded ∧
    ∃ i file stored reloaded, g.templates[i]? = some ⟨"front", file, stored, reloaded⟩ ∧
      (g.compile "front" frontPage).graph =
        { g with templates := g.templates.set i ⟨"front", file, stored, true⟩ } := by
  intro edges first g
  have hok : first.result = .ok edges := by decide +kernel
  obtain ⟨hagain, -, hgraph, hnode, -⟩ := compile_again_eq [.compile "base" .empty] "front" frontPage hok
    [.operate (.record "front" 1 "news"), .operate .startWatch, .compile "front" .empty]
  exact ⟨hok, hagain, hgraph, hnode⟩

end Graph

end TemplateDeps
