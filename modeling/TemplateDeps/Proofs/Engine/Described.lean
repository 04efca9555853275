import TemplateDeps.Proofs.Engine.Structure

/-!
# What the manifest says about a graph

All that an engine declares stands in its manifest: a template with the file of its entry, and edges that
the entry describes. Nothing changes about this when the graph is watched or told of resolutions from
outside, as long as nothing is declared there. `described_after` says so for every history, and
`Graph.Described` is what it comes to: some log of operations that the manifest admits leads to the graph.
The files (`Graph.Described.file_eq`) and the edges (`Graph.Described.exists_spec`) are read off this log.

In contrast to `Engine.Faithful` nothing is said about which templates were compiled or how often, so that
more histories have this property.
-/

namespace TemplateDeps

/-! ## Admitted operations -/

/-- What the operation declares stands in the manifest: a template of it has the file of its entry, and an
edge is described there. -/
def Manifest.Admits (m : Manifest) : Graph.Operation → Prop
  | .declareTemplate name file => ∃ entry, m.get? name = some entry ∧ file = entry.file
  | .declare owner d => ∃ entry, m.get? owner = some entry ∧
      ∃ spec ∈ entry.edges, spec.declaration? owner = some d
  | _ => True

/-- The manifest has no say in what declares nothing. -/
theorem Manifest.admits_of_not_declares (m : Manifest) {op : Graph.Operation} (h : op.declares = false) :
    m.Admits op := by
  cases op with
  | declareTemplate name file => cases h
  | declare owner d => cases h
  | _ => trivial

/-- What compiling an entry asks of the graph stands in the manifest. -/
theorem Manifest.admits_operations {m : Manifest} {name : String} {entry : Entry}
    (hentry : m.get? name = some entry) : ∀ op ∈ entry.operations name, m.Admits op := by
  refine List.forall_mem_cons.2 ⟨⟨entry, hentry, rfl⟩, fun op hop => ?_⟩
  obtain ⟨d, hd, rfl⟩ := List.mem_map.1 hop
  obtain ⟨spec, hspec, hdeclares⟩ := List.mem_filterMap.1 hd
  exact ⟨entry, hentry, spec, hspec, hdeclares⟩

namespace Graph

variable {m : Manifest} {g : Graph}

/-- Operations that the manifest admits lead to the graph. -/
def Described (m : Manifest) (g : Graph) : Prop :=
  ∃ log : List Operation, (∀ op ∈ log, m.Admits op) ∧ empty.applyAll log = g

namespace Described

theorem reachable (h : g.Described m) : g.Reachable := by
  obtain ⟨log, -, hlog⟩ := h
  exact ⟨log, hlog⟩

/-- Further operations that the manifest admits lead to a described graph again. -/
theorem applyAll (h : g.Described m) {ops : List Operation} (hops : ∀ op ∈ ops, m.Admits op) :
    (g.applyAll ops).Described m := by
  obtain ⟨log, hlog, rfl⟩ := h
  exact ⟨log ++ ops, List.forall_mem_append.2 ⟨hlog, hops⟩, applyAll_append _ _ _⟩

/-- A template has the file of its entry. -/
theorem file_eq (h : g.Described m) {t : Template} (ht : t ∈ g.templates) :
    ∃ entry, m.get? t.name = some entry ∧ t.file = entry.file := by
  obtain ⟨log, hlog, rfl⟩ := h
  have hname : t.name ∈ OperationLog.declared log := by
    rw [← OperationLog.names_applyAll]
    exact List.mem_map_of_mem ht
  obtain ⟨entry, hentry, hfile⟩ := hlog _ (OperationLog.mem_file hname)
  refine ⟨entry, hentry, ?_⟩
  rw [← hfile]
  exact OperationLog.file_applyAll ((coherent_empty.applyAll log).template?_eq_some_iff.2 ⟨ht, rfl⟩)

/-- An edge is one of those that the entry of its owner describes. -/
theorem exists_spec (h : g.Described m) {owner : String} {d : Declaration}
    (hd : d ∈ g.declarations owner) :
    ∃ entry, m.get? owner = some entry ∧ ∃ spec ∈ entry.edges, spec.declaration? owner = some d := by
  obtain ⟨log, hlog, rfl⟩ := h
  rw [OperationLog.declarations_applyAll] at hd
  exact hlog _ (OperationLog.mem_of_mem_edges hd)

end Described

end Graph

/-! ## Engines -/

namespace Engine

/-- The engine works on the manifest `m`, which describes its graph. -/
structure Described (m : Manifest) (e : Engine) : Prop where
  sound : e.Sound
  manifest : e.manifest = m
  graph : e.graph.Described m

/-- A new engine has nothing to describe. -/
theorem described_new (m : Manifest) : Described m (new m) where
  sound := sound_new m
  manifest := rfl
  graph := ⟨[.setWatchConcurrent m.settings.watchConcurrent], by simp [Manifest.Admits], rfl⟩

namespace Described

variable {m : Manifest} {e : Engine}

/-- The journal has no part in it. -/
theorem note (h : Described m e) (events : List Event) : Described m (e.note events) :=
  ⟨h.sound.note events, h.manifest, h.graph⟩

/-- Operations that the manifest admits may come from outside as well. -/
theorem operate (h : Described m e) {op : Graph.Operation} (hop : m.Admits op) :
    Described m { e with graph := e.graph.apply op } where
  sound := h.sound.operate [op]
  manifest := h.manifest
  graph := h.graph.applyAll (List.forall_mem_singleton.2 hop)

/-- An engine may be put into another mode. -/
theorem setMode (h : Described m e) (mode : RenderMode) : Described m { e with mode } :=
  ⟨⟨h.sound.coherent, h.sound.cached, h.sound.declared⟩, h.manifest, h.graph⟩

theorem keeps_log (event : Event) : Keeps (Described m) (log event) :=
  fun _ h => h.note [event]

/-- Recording asks for one operation at most, which declares nothing. -/
theorem keeps_record (owner : String) (id : EdgeId) (target : String) :
    Keeps (Described m) (record owner id target) := by
  intro e h
  obtain ⟨g, events, hperform, hg, -⟩ := e.perform_record owner id target
  rw [hperform]
  refine note ?_ events
  rcases hg with rfl | rfl
  · exact h
  · exact h.operate (m.admits_of_not_declares rfl)

/-- Compiling declares what stands in the manifest, be it for the first time or not. -/
theorem keeps_reload (name : String) : Keeps (Described m) (reload name) := by
  intro e h
  cases hentry : e.manifest.get? name with
  | none =>
    rw [perform_reload_missing hentry]
    exact h
  | some entry =>
    obtain ⟨after, hafter, hadvances, -⟩ := h.sound.perform_reload hentry
    have hgraph : after.graph = e.graph.applyAll (entry.operations name) := by
      rw [← h.sound.graph_reload hentry, hafter]
    rw [hafter]
    refine ⟨hadvances.sound, hadvances.manifest.trans h.manifest, ?_⟩
    rw [hgraph]
    exact h.graph.applyAll (Manifest.admits_operations (h.manifest ▸ hentry))

theorem keeps_compile (name : String) : Keeps (Described m) (compile name) :=
  (keeps_reload name).compile

/-- A use of the engine keeps it described, unless it declares something behind the back of the engine. -/
theorem use (h : Described m e) {u : Use} (hu : ∀ op, u = .operate op → op.declares = false) :
    Described m (e.use u) := by
  cases u with
  | compile name => exact keeps_compile name e h
  | reload name => exact keeps_reload name e h
  | compileAll => exact keeps_compileAll keeps_compile e h
  | render name vars =>
    exact keeps_render (fun event _ => keeps_log event) keeps_compile keeps_record name vars e h
  | setMode mode => exact h.setMode mode
  | operate op => exact h.operate (m.admits_of_not_declares (hu op rfl))

end Described

/-- Whatever an engine is used for, its manifest describes the graph, unless something was declared there
from outside. -/
theorem described_after (m : Manifest) {uses : List Use}
    (hown : ∀ op, .operate op ∈ uses → op.declares = false) : Described m ((new m).after uses) := by
  induction uses using List.reverseRecOn with
  | nil => exact described_new m
  | append_singleton uses u ih =>
    have hprevious := ih fun op hop => hown op (List.mem_append_left _ hop)
    rw [after_append]
    exact hprevious.use fun op hop => hown op (hop ▸ List.mem_append_right _ List.mem_cons_self)

end Engine

end TemplateDeps
