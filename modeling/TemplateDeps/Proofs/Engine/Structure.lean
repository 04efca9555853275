import TemplateDeps.Proofs.Engine.Declared
import TemplateDeps.Proofs.Graph.Answers
import TemplateDeps.Proofs.Recompilation

/-!
# The structure of a graph that an engine built

What an engine declares is described by its manifest: which templates it has compiled is all that the
history of the engine has a say in. `declared_structure_eq` says so for every history that leaves the graph
to the engine. The declared templates are the compiled ones, each has the file and the distinct edges of its
entry, and a template is marked as reloaded exactly if a reload of it was asked for when it was compiled
already. Two such histories that have compiled the same templates, in whatever order, have built the same
structure (`Graph.SameStructure`): the graphs give the same answers and differ in the order of the
templates, in the marks and in the histories of the edges only.

* `Template.Built` is what compiling makes of a node, whether it is compiled for the first time
  (`Template.built_fresh`) or once more (`Template.Built.markReloaded`).
* `Engine.Keeps P action` says that an action keeps a property of the engine, however it ends. A render is
  made of compiling, recording and journal entries, and keeps what all of these keep (`keeps_render`). Its own
  entries announce no template, since this is left to compiling.
* `Engine.Faithful` is the property that is kept here. A reload may add to the marks (`Faithful.reload`), all
  else leaves them (`Faithful.use`).
-/

namespace TemplateDeps

/-! ## The node of a compiled template -/

/-- The declarations of an entry, each at the place of the first edge that has it. -/
def Entry.declarations (name : String) (entry : Entry) : List Declaration :=
  (entry.edges.filterMap (EdgeSpec.declaration? name)).eraseDups

/-- The declarations of an entry say what the entry describes. -/
theorem Entry.attributes_declarations {name : String} {entry : Entry}
    (hplan : ∀ spec ∈ entry.edges, ∃ p, spec.plan name = .ok p) :
    (entry.declarations name).map Declaration.attributes =
      (entry.edges.map EdgeSpec.attributes).eraseDups := by
  rw [declarations, map_eraseDups Declaration.attributes_injective, List.map_filterMap,
    ← List.filterMap_eq_map]
  congr 1
  refine List.filterMap_congr fun spec hspec => ?_
  obtain ⟨p, hp⟩ := hplan spec hspec
  simp [EdgeSpec.declaration?, hp, (EdgeSpec.attributes_plan hp).1]

namespace Template

/-- The node is what compiling an entry makes of it: it has the file and the declarations of the entry, and
it is marked as reloaded if it was compiled `again`. -/
structure Built (t : Template) (entry : Entry) (again : Prop) : Prop where
  file : t.file = entry.file
  declarations : t.declarations = entry.declarations t.name
  reloaded : t.reloaded = true ↔ again

/-- A node that was compiled once. -/
theorem built_fresh (name : String) (entry : Entry) :
    ((fresh name entry.file).declareAll
      (entry.edges.filterMap (EdgeSpec.declaration? name))).Built entry False := by
  obtain ⟨hname, hfile, hreloaded, hdeclarations⟩ := (fresh name entry.file).declareAll_eq
    (entry.edges.filterMap (EdgeSpec.declaration? name))
  refine ⟨hfile, ?_, ?_⟩
  · rw [hdeclarations, declarations_fresh, adjoinAll_nil_left, hname]
    rfl
  · rw [hreloaded]
    simp [fresh]

variable {t : Template} {entry : Entry} {again : Prop}

/-- Recording has no part in what was declared. -/
theorem Built.record (h : t.Built entry again) (id : EdgeId) (name : String) :
    (t.record id name).Built entry again :=
  ⟨h.file, (t.declarations_record id name).trans h.declarations, h.reloaded⟩

/-- A node that is declared once more is marked. -/
theorem Built.markReloaded (h : t.Built entry again) : t.markReloaded.Built entry True :=
  ⟨h.file, h.declarations, iff_of_true rfl trivial⟩

/-- What the mark stands for may be put in other words. -/
theorem Built.congr (h : t.Built entry again) {other : Prop} (hiff : again ↔ other) :
    t.Built entry other :=
  ⟨h.file, h.declarations, h.reloaded.trans hiff⟩

end Template

namespace Engine

/-! ## Actions that keep a property -/

/-- The action keeps a property of the engine, whether or not it succeeds. -/
def Keeps (P : Engine → Prop) {α : Type} (action : EngineM α) : Prop :=
  ∀ e, P e → P (e.perform action).2

section Keeps

variable {P : Engine → Prop} {α β : Type}

/-- Staying where it is keeps whatever holds of the engine. -/
theorem keeps_pure (a : α) : Keeps P (pure a) := fun _ h => h

/-- So does failing at once. -/
theorem keeps_throw (fault : Fault) : Keeps P (throw fault : EngineM α) := fun _ h => h

/-- Two actions that keep a property do so one after the other. -/
theorem Keeps.bind {x : EngineM α} {f : α → EngineM β} (hx : Keeps P x) (hf : ∀ a, Keeps P (f a)) :
    Keeps P (x >>= f) := by
  intro e h
  have hmid := hx e h
  rcases hperform : e.perform x with ⟨result, mid⟩
  rw [hperform] at hmid
  cases result with
  | error fault =>
    rw [perform_bind_error hperform]
    exact hmid
  | ok a =>
    rw [perform_bind_ok hperform]
    exact hf a mid hmid

/-- An action may look at the engine. -/
theorem keeps_get_bind {f : Engine → EngineM β} (hf : ∀ e, Keeps P (f e)) : Keeps P (get >>= f) := by
  intro e h
  rw [perform_get_bind]
  exact hf e e h

/-- A loop keeps what its rounds keep. -/
theorem keeps_forM {f : α → EngineM Unit} {l : List α} (hf : ∀ a ∈ l, Keeps P (f a)) :
    Keeps P (l.forM f) := by
  induction l with
  | nil => exact keeps_pure ()
  | cons a rest ih =>
    obtain ⟨ha, hrest⟩ := List.forall_mem_cons.1 hf
    exact ha.bind fun _ => ih hrest

/-- Compiling unless the template is in the cache keeps what compiling keeps. -/
theorem Keeps.compile {name : String} (h : Keeps P (reload name)) : Keeps P (compile name) := by
  intro e he
  by_cases hname : e.cache.contains name = true
  · rw [perform_compile_cached hname]
    exact he
  · rw [perform_compile_new hname]
    exact h e he

variable (hlog : ∀ event : Event, event.declaredName? = none → Keeps P (log event))
  (hcompile : ∀ name, Keeps P (compile name))
  (hrecord : ∀ owner id name, Keeps P (record owner id name))

include hcompile in
/-- Compiling everything keeps what compiling keeps. -/
theorem keeps_compileAll : Keeps P compileAll :=
  keeps_get_bind fun _ => keeps_forM fun name _ => hcompile name

include hlog hcompile hrecord in
/-- A render keeps what compiling, recording and journal entries keep. -/
theorem keeps_renderWithin (vars : Variables) (depth : Nat) (name : String) :
    Keeps P (renderWithin vars depth name) := by
  induction depth generalizing name with
  | zero => exact keeps_throw _
  | succ depth ih =>
    have hfollow : ∀ edge, Keeps P (follow vars name (renderWithin vars depth) edge) := by
      intro edge
      refine keeps_get_bind fun e => ?_
      cases e.manifest.select vars edge.optional edge.targets with
      | error fault => exact keeps_throw fault
      | ok found =>
        cases found with
        | none => exact hlog _ rfl
        | some target =>
          exact (hcompile target).bind fun _ => (hrecord name edge.id target).bind fun _ => ih target
    exact (hcompile name).bind fun _ => keeps_get_bind fun _ => keeps_forM fun edge _ => hfollow edge

include hlog hcompile hrecord in
/-- A render keeps what compiling, recording and journal entries keep. -/
theorem keeps_render (name : String) (vars : Variables) : Keeps P (render name vars) :=
  keeps_get_bind fun _ => (hlog _ rfl).bind fun _ => keeps_renderWithin hlog hcompile hrecord vars _ name

end Keeps

/-! ## What an engine keeps of its manifest -/

/-- The engine works on the manifest `m`, and the graph has the templates that it compiled, as their entries
describe them. Those marked as reloaded are the ones that were compiled `again`. -/
structure Faithful (m : Manifest) (again : String → Prop) (e : Engine) : Prop where
  sound : e.Sound
  manifest : e.manifest = m
  cached : ∀ name ∈ e.graph.names, e.cache.contains name = true
  built : ∀ name t, e.graph.template? name = some t →
    ∃ entry, m.get? name = some entry ∧ t.Built entry (again name)
  known : ∀ name, again name → name ∈ e.graph.names
  watchConcurrent : e.graph.watchConcurrent = m.settings.watchConcurrent

/-- A new engine has declared nothing. -/
theorem faithful_new (m : Manifest) : Faithful m (fun _ => False) (new m) where
  sound := sound_new m
  manifest := rfl
  cached _ hname := absurd hname List.not_mem_nil
  built _ _ ht := by cases ht
  known _ hname := hname.elim
  watchConcurrent := rfl

namespace Faithful

variable {m : Manifest} {again : String → Prop} {e : Engine}

/-- The declared templates are those that were compiled. -/
theorem mem_names_iff (h : Faithful m again e) {name : String} :
    name ∈ e.graph.names ↔ e.cache.contains name = true :=
  ⟨h.cached name, h.sound.declared name⟩

/-- The journal has no part in it. -/
theorem note (h : Faithful m again e) (events : List Event) : Faithful m again (e.note events) :=
  ⟨h.sound.note events, h.manifest, h.cached, h.built, h.known, h.watchConcurrent⟩

/-- Recording has no part in what is declared. -/
theorem keeps_record (owner : String) (id : EdgeId) (target : String) :
    Keeps (Faithful m again) (record owner id target) := by
  intro e h
  obtain ⟨g, events, hperform, hg, -⟩ := e.perform_record owner id target
  rw [hperform]
  refine note ?_ events
  rcases hg with rfl | rfl
  · exact h
  · have hcoherent := h.sound.coherent
    have hnames : (e.graph.apply (.record owner id target)).names = e.graph.names :=
      hcoherent.names_apply _
    refine ⟨h.sound.operate [.record owner id target], h.manifest, ?_, ?_, ?_, ?_⟩
    · exact fun name hname => h.cached name (hnames ▸ hname)
    · intro name t ht
      rw [hcoherent.template?_apply, Graph.Operation.onNode] at ht
      split at ht
      · obtain ⟨old, hold, rfl⟩ := Option.map_eq_some_iff.1 ht
        obtain ⟨entry, hentry, hbuilt⟩ := h.built name old hold
        exact ⟨entry, hentry, hbuilt.record id target⟩
      · exact h.built name t ht
    · exact fun name hname => hnames.symm ▸ h.known name hname
    · exact (Graph.watchConcurrent_apply _ (.inr ⟨owner, id, target, rfl⟩)).trans h.watchConcurrent

/-- The marks may be described in other words. -/
theorem congr (h : Faithful m again e) {other : String → Prop} (hiff : ∀ name, again name ↔ other name) :
    Faithful m other e := by
  obtain rfl : again = other := funext fun name => propext (hiff name)
  exact h

/-- What compiling an entry asks of the graph marks the node of a template that was compiled already, and
makes that of any other one. -/
theorem built_applyAll (h : Faithful m again e) {name : String} {entry : Entry}
    (hentry : m.get? name = some entry) {n : String} {t : Template}
    (ht : (e.graph.applyAll (entry.operations name)).template? n = some t) :
    ∃ known, m.get? n = some known ∧
      t.Built known (again n ∨ (n = name ∧ e.cache.contains n = true)) := by
  have hcoherent := h.sound.coherent
  have hother : ∀ u, name ≠ n → e.graph.template? n = some u → ∃ known, m.get? n = some known ∧
      u.Built known (again n ∨ (n = name ∧ e.cache.contains n = true)) := by
    intro u hne hu
    obtain ⟨known, hknown, hbuilt⟩ := h.built n u hu
    exact ⟨known, hknown, hbuilt.congr (or_iff_left fun heq => hne heq.1.symm).symm⟩
  by_cases hname : name ∈ e.graph.names
  · -- All edges are there, so that the node is marked and nothing else happens.
    have hcached := h.cached name hname
    have hplace : ∀ spec ∈ entry.edges, ∃ id, e.graph.placeOf? name spec = some id :=
      fun spec hspec => h.sound.exists_placeOf? (h.manifest.symm ▸ hentry) hcached hspec
    rw [hcoherent.applyAll_operations_eq hname hplace, hcoherent.template?_modifyTemplate] at ht
    split at ht
    · next heq =>
      subst heq
      obtain ⟨old, hold, rfl⟩ := Option.map_eq_some_iff.1 ht
      obtain ⟨known, hknown, hbuilt⟩ := h.built name old hold
      exact ⟨known, hknown, hbuilt.markReloaded.congr (iff_of_true trivial (.inr ⟨rfl, hcached⟩))⟩
    · next hne => exact hother t hne ht
  · rw [hcoherent.template?_applyAll_operations] at ht
    split at ht
    · next heq =>
      subst heq
      rw [hcoherent.template?_eq_none_iff.2 hname] at ht
      cases ht
      refine ⟨entry, hentry, (Template.built_fresh name entry).congr (iff_of_false id ?_)⟩
      rintro (hagain | ⟨-, hcached⟩)
      · exact hname (h.known name hagain)
      · exact hname (h.mem_names_iff.2 hcached)
    · next hne => exact hother t hne ht

/-- A reload marks a template that was compiled already, and makes the node of any other one. -/
theorem reload (h : Faithful m again e) (name : String) :
    Faithful m (fun n => again n ∨ (n = name ∧ e.cache.contains n = true))
      (e.perform (Engine.reload name)).2 := by
  cases hentry : e.manifest.get? name with
  | none =>
    rw [perform_reload_missing hentry]
    refine h.congr fun n => (or_iff_left ?_).symm
    rintro ⟨rfl, hcached⟩
    obtain ⟨entry, hfound⟩ := h.sound.exists_entry hcached
    rw [hentry] at hfound
    cases hfound
  | some entry =>
    obtain ⟨after, hafter, hadvances, hname⟩ := h.sound.perform_reload hentry
    have hgraph : after.graph = e.graph.applyAll (entry.operations name) := by
      rw [← h.sound.graph_reload hentry, hafter]
    have hnames : after.graph.names = adjoin e.graph.names name := by
      rw [hgraph, h.sound.coherent.names_applyAll_operations]
    rw [hafter]
    refine ⟨hadvances.sound, hadvances.manifest.trans h.manifest, ?_, ?_, ?_, ?_⟩
    · intro n hn
      rw [hnames, mem_adjoin] at hn
      rcases hn with hn | rfl
      · exact hadvances.cache n (h.cached n hn)
      · exact hname
    · intro n t ht
      rw [hgraph] at ht
      exact h.built_applyAll (h.manifest ▸ hentry) ht
    · intro n hn
      rw [hnames, mem_adjoin]
      rcases hn with hagain | ⟨rfl, -⟩
      · exact .inl (h.known n hagain)
      · exact .inr rfl
    · exact (hadvances.graph.tracks .concurrent).trans h.watchConcurrent

/-- Compiling marks nothing: a template in the cache stays as it is. -/
theorem keeps_compile (name : String) : Keeps (Faithful m again) (compile name) := by
  intro e h
  by_cases hname : e.cache.contains name = true
  · rw [perform_compile_cached hname]
    exact h
  · rw [perform_compile_new hname]
    refine (h.reload name).congr fun n => or_iff_left ?_
    rintro ⟨rfl, hcached⟩
    exact hname hcached

/-- Of all uses only reloads mark templates, namely those that were compiled already. -/
theorem use (h : Faithful m again e) {u : Use} (hu : ∀ op, u ≠ .operate op) :
    Faithful m (fun n => again n ∨ (u = .reload n ∧ e.cache.contains n = true)) (e.use u) := by
  have hlog : ∀ event : Event, event.declaredName? = none → Keeps (Faithful m again) (log event) :=
    fun event _ _ h => h.note [event]
  cases u with
  | compile name => exact (keeps_compile name e h).congr fun n => by simp
  | reload name =>
    refine (h.reload name).congr fun n => or_congr_right (and_congr_left' ?_)
    rw [Use.reload.injEq, eq_comm]
  | compileAll => exact (keeps_compileAll keeps_compile e h).congr fun n => by simp
  | render name vars =>
    exact (keeps_render hlog keeps_compile keeps_record name vars e h).congr fun n => by simp
  | setMode mode =>
    have hmode : Faithful m again { e with mode } :=
      ⟨⟨h.sound.coherent, h.sound.cached, h.sound.declared⟩, h.manifest, h.cached, h.built, h.known,
        h.watchConcurrent⟩
    exact hmode.congr fun n => by simp
  | operate op => exact absurd rfl (hu op)

end Faithful

/-! ## Histories -/

/-- In the history a reload of `name` was asked for when the template was compiled already. -/
def ReloadedIn (m : Manifest) (uses : List Use) (name : String) : Prop :=
  ∃ before after, uses = before ++ .reload name :: after ∧
    ((new m).after before).cache.contains name = true

/-- One more use may be one more reload. -/
theorem reloadedIn_concat_iff {m : Manifest} {uses : List Use} {u : Use} {name : String} :
    ReloadedIn m (uses ++ [u]) name ↔ ReloadedIn m uses name ∨
      (u = .reload name ∧ ((new m).after uses).cache.contains name = true) := by
  constructor
  · rintro ⟨before, after, heq, hcached⟩
    induction after using List.reverseRecOn with
    | nil =>
      obtain ⟨rfl, hu⟩ := List.append_inj' heq rfl
      cases hu
      exact .inr ⟨rfl, hcached⟩
    | append_singleton after last _ =>
      rw [← List.cons_append, ← List.append_assoc] at heq
      obtain ⟨rfl, -⟩ := List.append_inj' heq rfl
      exact .inl ⟨before, after, rfl, hcached⟩
  · rintro (⟨before, after, rfl, hcached⟩ | ⟨rfl, hcached⟩)
    · exact ⟨before, after ++ [u], by simp, hcached⟩
    · exact ⟨uses, [], rfl, hcached⟩

/-- Whatever an engine that has its graph for itself is used for, it has declared what its manifest
describes. -/
theorem faithful_after (m : Manifest) {uses : List Use} (hown : ∀ op, .operate op ∉ uses) :
    Faithful m (ReloadedIn m uses) ((new m).after uses) := by
  induction uses using List.reverseRecOn with
  | nil =>
    refine (faithful_new m).congr fun name => iff_of_false id ?_
    rintro ⟨before, after, heq, -⟩
    simp at heq
  | append_singleton uses u ih =>
    have hprevious := ih fun op hop => hown op (List.mem_append_left _ hop)
    have hu : ∀ op, u ≠ .operate op := fun op heq => hown op (by simp [heq])
    rw [after_append]
    exact (hprevious.use hu).congr fun name => reloadedIn_concat_iff.symm

end Engine

/-! ## Two histories -/

/-- Two graphs have the same structure: up to their order they have the same templates, with the same files
and with the same edges in the same positions, and they give the same answers. -/
structure Graph.SameStructure (g g' : Graph) : Prop where
  names : g.names.Perm g'.names
  files : ∀ name, (g.template? name).map (·.file) = (g'.template? name).map (·.file)
  declarations : ∀ owner, g.declarations owner = g'.declarations owner
  edgeIds : ∀ owner d, g.edgeId? owner d = g'.edgeId? owner d
  watchConcurrent : g.watchConcurrent = g'.watchConcurrent
  dependents : ∀ name, g.staticView.dependentsOf name = g'.staticView.dependentsOf name
  dependencies : ∀ name, g.staticView.dependenciesOf name = g'.staticView.dependenciesOf name
  affected : ∀ name, g.staticView.affectedBy name = g'.staticView.affectedBy name

namespace Engine

variable {m : Manifest}

/-- What was declared of a template follows from the manifest, once it is known whether the template was
compiled. -/
theorem Faithful.declared_eq {again : String → Prop} {e : Engine} (h : Faithful m again e)
    (name : String) :
    (e.graph.template? name).map (fun t => (t.file, t.declarations)) =
      if e.cache.contains name then
        (m.get? name).map fun entry => (entry.file, entry.declarations name)
      else none := by
  have hcoherent := h.sound.coherent
  cases ht : e.graph.template? name with
  | none =>
    have hname : ¬ e.cache.contains name = true :=
      mt h.mem_names_iff.2 (hcoherent.template?_eq_none_iff.1 ht)
    rw [if_neg hname, Option.map_none]
  | some t =>
    have hname : e.cache.contains name = true :=
      h.cached name (hcoherent.isSome_template?_iff.1 (Option.isSome_iff_exists.2 ⟨t, ht⟩))
    obtain ⟨entry, hentry, hbuilt⟩ := h.built name t ht
    obtain ⟨-, rfl⟩ := hcoherent.template?_eq_some_iff.1 ht
    rw [if_pos hname, hentry, Option.map_some, Option.map_some, hbuilt.file, hbuilt.declarations]

/-- Engines at work on the same manifest that have compiled the same templates have built the same
structure. -/
theorem Faithful.sameStructure {again again' : String → Prop} {e e' : Engine} (h : Faithful m again e)
    (h' : Faithful m again' e') (hcompiled : ∀ name, e.cache.contains name = e'.cache.contains name) :
    e.graph.SameStructure e'.graph := by
  have hcoherent := h.sound.coherent
  have hcoherent' := h'.sound.coherent
  have hnode : ∀ name, (e.graph.template? name).map (fun t => (t.file, t.declarations)) =
      (e'.graph.template? name).map fun t => (t.file, t.declarations) := by
    intro name
    rw [h.declared_eq, h'.declared_eq, hcompiled]
  have hdeclarations : ∀ owner, e.graph.declarations owner = e'.graph.declarations owner := by
    intro owner
    have hsecond := congrArg (Option.map Prod.snd) (hnode owner)
    rw [Option.map_map, Option.map_map] at hsecond
    exact congrArg (·.getD []) hsecond
  have hlists : ∀ owner target kind,
      e.graph.Lists owner target kind ↔ e'.graph.Lists owner target kind := by
    intro owner target kind
    rw [hcoherent.lists_iff, hcoherent'.lists_iff, hdeclarations]
  refine ⟨?_, ?_, hdeclarations, ?_, h.watchConcurrent.trans h'.watchConcurrent.symm,
    fun name => (Graph.answers_eq hlists name).1, fun name => (Graph.answers_eq hlists name).2.1,
    fun name => (Graph.answers_eq hlists name).2.2⟩
  · rw [List.perm_ext_iff_of_nodup hcoherent.nodup_names hcoherent'.nodup_names]
    intro name
    rw [h.mem_names_iff, h'.mem_names_iff, hcompiled]
  · intro name
    have hfirst := congrArg (Option.map Prod.fst) (hnode name)
    rwa [Option.map_map, Option.map_map] at hfirst
  · intro owner d
    rw [Graph.edgeId?_eq_findIdx?, Graph.edgeId?_eq_findIdx?, hdeclarations]

/-- What an engine declares is a function of its manifest and of the templates that it compiled. Consider
any history of an engine that leaves the graph to the engine. The templates of the graph are those that
were compiled, each of them is one of the manifest and has its file, and its edges declare what the entry
describes, in the order of the entry and without repeats. It is marked as reloaded exactly if a reload of
it was asked for when it was compiled already. Another such history that has compiled the same templates
has built the same structure. In particular, once all templates are compiled the structure is the one that
compiling all of them at once builds. -/
theorem declared_structure_eq (m : Manifest) (uses : List Use) (hown : ∀ op, .operate op ∉ uses) :
    let e := (new m).after uses
    (∀ name, name ∈ e.graph.names ↔ e.cache.contains name = true) ∧
    (∀ t ∈ e.graph.templates, ∃ entry, m.get? t.name = some entry ∧ t.file = entry.file ∧
      t.declarations.map Declaration.attributes = (entry.edges.map EdgeSpec.attributes).eraseDups ∧
      (t.reloaded = true ↔ ReloadedIn m uses t.name)) ∧
    (∀ uses', (∀ op, .operate op ∉ uses') →
      (∀ name, e.cache.contains name = ((new m).after uses').cache.contains name) →
      e.graph.SameStructure ((new m).after uses').graph) ∧
    ((∀ name ∈ m.names, e.cache.contains name = true) →
      e.graph.SameStructure ((new m).use .compileAll).graph) := by
  intro e
  have h : Faithful m (ReloadedIn m uses) e := faithful_after m hown
  have hother : ∀ uses', (∀ op, .operate op ∉ uses') →
      (∀ name, e.cache.contains name = ((new m).after uses').cache.contains name) →
      e.graph.SameStructure ((new m).after uses').graph :=
    fun uses' hown' hcompiled => h.sameStructure (faithful_after m hown') hcompiled
  refine ⟨fun name => h.mem_names_iff, ?_, hother, fun hall => hother [.compileAll] ?_ ?_⟩
  · intro t ht
    obtain ⟨entry, hentry, hbuilt⟩ :=
      h.built t.name t (h.sound.coherent.template?_eq_some_iff.2 ⟨ht, rfl⟩)
    refine ⟨entry, hentry, hbuilt.file, ?_, hbuilt.reloaded⟩
    rw [hbuilt.declarations]
    exact Entry.attributes_declarations fun spec hspec => m.exists_plan hentry hspec
  · intro op hop
    cases List.mem_singleton.1 hop
  · -- Only templates of the manifest are ever compiled.
    intro name
    obtain ⟨after, hperform, hadvances, hcached⟩ := (sound_new m).perform_compileAll
    have hafter : (new m).after [.compileAll] = after := congrArg Prod.snd hperform
    have hmem : ∀ e' : Engine, e'.Sound → e'.manifest = m → e'.cache.contains name = true →
        name ∈ m.names := by
      intro e' hsound hmanifest hname
      obtain ⟨entry, hentry⟩ := hsound.exists_entry hname
      rw [hmanifest] at hentry
      exact (NameMap.mem_keys_iff _).2 (Option.isSome_iff_exists.2 ⟨entry, hentry⟩)
    rw [hafter, Bool.eq_iff_iff]
    constructor
    · exact fun hname => hcached name (hmem e h.sound h.manifest hname)
    · exact fun hname => hall name (hmem after hadvances.sound hadvances.manifest hname)

/-- A page with two includes that only a render can tell apart, a frame and a library. -/
def gallery : Manifest where
  raw := {
    settings := .default
    templates := .ofList [
      ("frame", ⟨some "frame.html", none, [], [⟨"macros", some "m", none, false⟩]⟩),
      ("macros", .empty),
      ("page", ⟨some "page.html", some "frame",
        [⟨["$first"], true, false⟩, ⟨["$second"], true, false⟩], []⟩)] }
  valid := by decide +kernel

/-- A render that fails half way and the reload of its page have declared the templates in another order
than compiling all of them, and the same of each template. -/
theorem gallery_sameStructure :
    let uses : List Use := [.render "page" .empty, .reload "page", .setMode .concurrent, .compile "gone"]
    ((new gallery).after uses).graph.names = ["page", "frame", "macros"] ∧
    ((new gallery).use .compileAll).graph.names = ["frame", "macros", "page"] ∧
    ((new gallery).after uses).graph.SameStructure ((new gallery).use .compileAll).graph := by
  intro uses
  have hown : ∀ op, .operate op ∉ uses := by simp [uses]
  obtain ⟨-, -, -, hall⟩ := declared_structure_eq gallery uses hown
  refine ⟨by decide +kernel, by decide +kernel, hall ?_⟩
  decide +kernel

end Engine

end TemplateDeps
