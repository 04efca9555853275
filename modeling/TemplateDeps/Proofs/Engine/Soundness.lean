import TemplateDeps.Engine.History
import TemplateDeps.Proofs.Graph.Growth

/-!
# The cache of an engine

An engine keeps compiled edges while its graph goes on changing, under its own hands and by operations
from outside. `Engine.Sound` is what keeps the two together: the graph is coherent, and every cached
template is in the manifest and declared, with the edges of its entry still compiled into the graph.

* `Advances before steps after` says how a sound engine moves on: manifest and mode stay, the graph
  grows and records `steps`, the cache loses no template. It is reflexive and transitive
  (`Advances.refl`, `Advances.trans`), so that a longer action is followed step by step.
* `Sound.perform_compile` says what compiling does. With a manifest that passed its check the only
  failure is that there is no such template (`Sound.perform_compile_missing`), and nothing happened
  then.
* `Sound.perform_compileAll` goes on to the whole manifest: all of its templates are cached then.
-/

namespace TemplateDeps

namespace Engine

/-! ## One action after another -/

section Perform

variable {α β : Type}

theorem perform_pure (e : Engine) (a : α) : e.perform (pure a) = (.ok a, e) := rfl

theorem perform_throw (e : Engine) (fault : Fault) :
    e.perform (throw fault : EngineM α) = (.error fault, e) := rfl

theorem perform_get_bind (e : Engine) (f : Engine → EngineM β) :
    e.perform (get >>= f) = e.perform (f e) := rfl

theorem perform_modify (e : Engine) (f : Engine → Engine) :
    e.perform (modify f : EngineM Unit) = (.ok (), f e) := rfl

/-- After an action that succeeded the engine goes on with the next one. -/
theorem perform_bind_ok {e after : Engine} {x : EngineM α} {a : α}
    (h : e.perform x = (.ok a, after)) (f : α → EngineM β) :
    e.perform (x >>= f) = after.perform (f a) := by
  unfold perform at h ⊢
  rw [ExceptT.run_bind, StateT.run_bind, h]
  rfl

/-- After an action that failed there is no next one. -/
theorem perform_bind_error {e after : Engine} {x : EngineM α} {fault : Fault}
    (h : e.perform x = (.error fault, after)) (f : α → EngineM β) :
    e.perform (x >>= f) = (.error fault, after) := by
  unfold perform at h ⊢
  rw [ExceptT.run_bind, StateT.run_bind, h]
  rfl

end Perform

/-! ## Sound engines -/

/-- What an engine has in its cache is what it would compile, and still in its graph. -/
structure Sound (e : Engine) : Prop where
  coherent : e.graph.Coherent
  cached : ∀ name edges, e.cache.get? name = some edges →
    ∃ entry, e.manifest.get? name = some entry ∧
      List.Forall₂ (e.graph.Compiled name) entry.edges edges
  declared : ∀ name, e.cache.contains name = true → name ∈ e.graph.names

/-- A sound engine moves on, and its graph records `steps`. -/
structure Advances (before : Engine) (steps : List Step) (after : Engine) : Prop where
  manifest : after.manifest = before.manifest
  mode : after.mode = before.mode
  graph : before.graph.Grows steps after.graph
  cache : ∀ name, before.cache.contains name = true → after.cache.contains name = true
  sound : after.Sound

namespace Advances

variable {e₁ e₂ e₃ : Engine} {steps more : List Step}

/-- A sound engine may stay as it is. -/
theorem refl (h : e₁.Sound) : Advances e₁ [] e₁ :=
  ⟨rfl, rfl, .still _, fun _ hname => hname, h⟩

/-- An engine that moves on twice records the steps of both times. -/
theorem trans (h₁ : Advances e₁ steps e₂) (h₂ : Advances e₂ more e₃) :
    Advances e₁ (steps ++ more) e₃ where
  manifest := h₂.manifest.trans h₁.manifest
  mode := h₂.mode.trans h₁.mode
  graph := h₁.graph.trans h₂.graph
  cache name hname := h₂.cache name (h₁.cache name hname)
  sound := h₂.sound

end Advances

/-- A new engine is sound. -/
theorem sound_new (m : Manifest) : (new m).Sound where
  coherent := Graph.coherent_empty
  cached name edges h := by
    rw [new, NameMap.get?_empty] at h
    cases h
  declared name h := by cases h

namespace Sound

variable {e : Engine}

/-- What is cached stays right under any operations on the graph. -/
theorem operate (h : e.Sound) (ops : List Graph.Operation) :
    { e with graph := e.graph.applyAll ops }.Sound where
  coherent := h.coherent.applyAll ops
  cached name edges hcached := by
    obtain ⟨entry, hentry, hedges⟩ := h.cached name edges hcached
    exact ⟨entry, hentry, hedges.imp fun _ _ hedge => h.coherent.compiled_applyAll ops hedge⟩
  declared name hname := h.coherent.mem_names_applyAll ops (h.declared name hname)

/-- What is cached stays right while the graph grows. -/
theorem grow (h : e.Sound) {steps : List Step} {g : Graph} (hg : e.graph.Grows steps g) :
    { e with graph := g }.Sound := by
  obtain ⟨ops, rfl⟩ := hg.exists_applyAll
  exact h.operate ops

/-- The journal has no part in it. -/
theorem note (h : e.Sound) (events : List Event) : (e.note events).Sound :=
  ⟨h.coherent, h.cached, h.declared⟩

/-- Compiled edges of the entry of a declared template may go into the cache. -/
theorem insert (h : e.Sound) {name : String} {entry : Entry}
    (hentry : e.manifest.get? name = some entry) (hname : name ∈ e.graph.names)
    {edges : List CompiledEdge}
    (hedges : List.Forall₂ (e.graph.Compiled name) entry.edges edges) :
    { e with cache := e.cache.insert name edges }.Sound where
  coherent := h.coherent
  cached other found hfound := by
    simp only [NameMap.get?_insert] at hfound
    split at hfound
    · next heq =>
      subst heq
      cases hfound
      exact ⟨entry, hentry, hedges⟩
    · exact h.cached other found hfound
  declared other hother := by
    simp only [NameMap.contains, NameMap.get?_insert] at hother
    split at hother
    · next heq => exact heq.symm ▸ hname
    · exact h.declared other hother

/-- A template in the cache has the edges of its entry there. -/
theorem exists_edges (h : e.Sound) {name : String} {entry : Entry}
    (hentry : e.manifest.get? name = some entry) (hname : e.cache.contains name = true) :
    ∃ edges, e.cache.get? name = some edges ∧
      List.Forall₂ (e.graph.Compiled name) entry.edges edges := by
  obtain ⟨edges, hedges⟩ := Option.isSome_iff_exists.1 hname
  obtain ⟨found, hfound, hcompiled⟩ := h.cached name edges hedges
  obtain rfl : found = entry := Option.some.inj (hfound.symm.trans hentry)
  exact ⟨edges, hedges, hcompiled⟩

/-- The edges of a template in the cache have their places in the graph. -/
theorem exists_placeOf? (h : e.Sound) {name : String} {entry : Entry}
    (hentry : e.manifest.get? name = some entry) (hname : e.cache.contains name = true)
    {spec : EdgeSpec} (hspec : spec ∈ entry.edges) : ∃ id, e.graph.placeOf? name spec = some id := by
  obtain ⟨edges, -, hcompiled⟩ := h.exists_edges hentry hname
  obtain ⟨i, hi, rfl⟩ := List.mem_iff_getElem.1 hspec
  exact ⟨_, (hcompiled.get hi (hcompiled.length_eq ▸ hi)).place⟩

/-- A template in the cache is one of the manifest. -/
theorem exists_entry (h : e.Sound) {name : String} (hname : e.cache.contains name = true) :
    ∃ entry, e.manifest.get? name = some entry := by
  obtain ⟨edges, hedges⟩ := Option.isSome_iff_exists.1 hname
  obtain ⟨entry, hentry, -⟩ := h.cached name edges hedges
  exact ⟨entry, hentry⟩

end Sound

/-! ## Compiling -/

variable {e : Engine} {name : String} {entry : Entry}

/-- What compiling a template of the manifest leaves: the graph is asked for what the entry describes, and
the compiled edges go into the cache. -/
theorem Sound.perform_reload_eq (h : e.Sound) (hentry : e.manifest.get? name = some entry) :
    ∃ edges events, e.perform (reload name) =
        (.ok (), { { e with graph := e.graph.applyAll (entry.operations name) }.note events with
          cache := e.cache.insert name edges }) ∧
      List.Forall₂ ((e.graph.applyAll (entry.operations name)).Compiled name) entry.edges edges := by
  have hplan : ∀ spec ∈ entry.edges, ∃ p, spec.plan name = .ok p := fun spec hspec =>
    e.manifest.exists_plan hentry hspec
  obtain ⟨edges, hcompile, hedges⟩ := h.coherent.compile_eq hplan
  refine ⟨edges, (e.graph.compile name entry).events e.graph name, ?_, hedges⟩
  rw [reload, perform_get_bind, hentry]
  simp only [hcompile, Compilation.result]
  rfl

/-- Compiling a template of the manifest does to the graph what its entry asks for. -/
theorem Sound.graph_reload (h : e.Sound) (hentry : e.manifest.get? name = some entry) :
    (e.perform (reload name)).2.graph = e.graph.applyAll (entry.operations name) := by
  obtain ⟨edges, events, hperform, -⟩ := h.perform_reload_eq hentry
  rw [hperform]
  rfl

/-- Compiling a template of the manifest succeeds, whether or not it was compiled before. -/
theorem Sound.perform_reload (h : e.Sound) (hentry : e.manifest.get? name = some entry) :
    ∃ after, e.perform (reload name) = (.ok (), after) ∧ Advances e [] after ∧
      after.cache.contains name = true := by
  obtain ⟨edges, events, hperform, hedges⟩ := h.perform_reload_eq hentry
  have hgrows : e.graph.Grows [] (e.graph.applyAll (entry.operations name)) :=
    .of_declares fun _ => Entry.declares_operations
  let noted := { e with graph := e.graph.applyAll (entry.operations name) }.note events
  have hsound : noted.Sound := (h.grow hgrows).note events
  have hdeclared : name ∈ noted.graph.names := by
    show name ∈ (e.graph.applyAll (entry.operations name)).names
    rw [h.coherent.names_applyAll_operations]
    exact mem_adjoin.2 (.inr rfl)
  -- What is cached now was compiled on the graph as it was left.
  refine ⟨{ noted with cache := e.cache.insert name edges }, hperform, ?_, ?_⟩
  · refine ⟨rfl, rfl, hgrows, fun other hother => ?_, hsound.insert hentry hdeclared hedges⟩
    simp only [NameMap.contains, NameMap.get?_insert] at hother ⊢
    split
    · rfl
    · exact hother
  · simp [NameMap.contains]

/-- There is nothing to compile for a name outside the manifest. -/
theorem perform_reload_missing (hentry : e.manifest.get? name = none) :
    e.perform (reload name) = (.error (.templateNotFound [name]), e) := by
  rw [reload, perform_get_bind, hentry]
  rfl

/-- A template in the cache is not compiled again. -/
theorem perform_compile_cached (hname : e.cache.contains name = true) :
    e.perform (compile name) = (.ok (), e) := by
  rw [compile, perform_get_bind, if_pos hname]
  rfl

/-- A template that is not in the cache is compiled. -/
theorem perform_compile_new (hname : ¬ e.cache.contains name = true) :
    e.perform (compile name) = e.perform (reload name) := by
  rw [compile, perform_get_bind, if_neg hname]

/-- Compiling a template of the manifest succeeds. It records nothing, and the template is in the cache
then. -/
theorem Sound.perform_compile (h : e.Sound) (hentry : e.manifest.get? name = some entry) :
    ∃ after, e.perform (compile name) = (.ok (), after) ∧ Advances e [] after ∧
      after.cache.contains name = true := by
  by_cases hname : e.cache.contains name = true
  · exact ⟨e, perform_compile_cached hname, .refl h, hname⟩
  · rw [perform_compile_new hname]
    exact h.perform_reload hentry

/-- A name outside the manifest is in no cache either, and cannot be compiled. -/
theorem Sound.perform_compile_missing (h : e.Sound) (hentry : e.manifest.get? name = none) :
    e.perform (compile name) = (.error (.templateNotFound [name]), e) := by
  have hname : ¬ e.cache.contains name = true := by
    intro hcached
    obtain ⟨entry, hfound⟩ := h.exists_entry hcached
    rw [hentry] at hfound
    cases hfound
  rw [perform_compile_new hname, perform_reload_missing hentry]

/-- Compiling templates of the manifest one after the other puts all of them into the cache. -/
theorem Sound.perform_forM_compile (h : e.Sound) {names : List String}
    (hnames : ∀ name ∈ names, ∃ entry, e.manifest.get? name = some entry) :
    ∃ after, e.perform (names.forM compile) = (.ok (), after) ∧ Advances e [] after ∧
      ∀ name ∈ names, after.cache.contains name = true := by
  induction names generalizing e with
  | nil => exact ⟨e, rfl, .refl h, fun _ hname => absurd hname List.not_mem_nil⟩
  | cons name rest ih =>
    obtain ⟨⟨entry, hentry⟩, hrest⟩ := List.forall_mem_cons.1 hnames
    obtain ⟨mid, hcompile, hadvances, hcached⟩ := h.perform_compile hentry
    obtain ⟨after, hperform, hfurther, hall⟩ :=
      ih hadvances.sound (by rw [hadvances.manifest]; exact hrest)
    refine ⟨after, ?_, hadvances.trans hfurther, ?_⟩
    · exact (perform_bind_ok hcompile _).trans hperform
    · exact List.forall_mem_cons.2 ⟨hfurther.cache name hcached, hall⟩

/-- Compiling everything succeeds and puts the whole manifest into the cache. -/
theorem Sound.perform_compileAll (h : e.Sound) :
    ∃ after, e.perform compileAll = (.ok (), after) ∧ Advances e [] after ∧
      ∀ name ∈ e.manifest.names, after.cache.contains name = true := by
  rw [compileAll, perform_get_bind]
  refine h.perform_forM_compile fun name hname => ?_
  exact Option.isSome_iff_exists.1 ((NameMap.mem_keys_iff _).1 hname)

end Engine

end TemplateDeps
