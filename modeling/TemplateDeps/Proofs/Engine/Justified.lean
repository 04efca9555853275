import TemplateDeps.Proofs.Engine.Declared
import TemplateDeps.Proofs.Graph.Answers
import TemplateDeps.Proofs.Graph.Positions
import TemplateDeps.Proofs.Manifest.Walks

/-!
# Recorded names are justified

A graph takes down every name that it is told, since it cannot check that of a dynamic target. An engine
tells it nothing but what a selection found. `record_justified` says so for every history of an engine
in which the graph is only watched from outside: whatever an edge has resolved to is a declared template of
the manifest, and one that the declaration of the edge admits (`Manifest.Justifies`). So a watch reports
every name that is current in some history, and an edge with literal targets only is known to the static
view by what it resolves to.

The step from one graph to the next is growth. A selection from the candidates of an edge finds what their
declaration justifies (`Manifest.justifies_of_select`), each step of a walk comes from such a selection
(`Manifest.select_of_mem_steps`), and the target of each step has been declared
(`Sound.mem_names_render`). Hence growth by the steps of a render keeps `Graph.Justified`
(`Graph.Justified.grow`).
-/

namespace TemplateDeps

/-- A candidate with a known name stands for this name. -/
theorem TargetRef.target_eq_of_evaluate {vars : Variables} {target : TargetRef} {name : String}
    (h : target.evaluate vars = .ok name) (hstatic : target.target ≠ .dynamic) :
    target.target = .named name := by
  cases target with
  | literal n =>
    cases h
    rfl
  | var v => exact absurd rfl hstatic

namespace Manifest

variable {m : Manifest}

/-- The first of the literal targets that is a template of the manifest. -/
def firstOf (m : Manifest) (targets : List Target) : Option String :=
  (targets.filterMap Target.name?).find? m.contains

/-- An edge with the given targets may have resolved to `name`: this is a template of the manifest, and it
is the first one among literal targets, or else a dynamic target may stand for it. -/
structure Justifies (m : Manifest) (targets : List Target) (name : String) : Prop where
  contains : m.contains name = true
  listed : .named name ∈ targets ∨ .dynamic ∈ targets
  first : .dynamic ∉ targets → m.firstOf targets = some name

variable {vars : Variables} {optional : Bool} {targets : List TargetRef} {name : String}

/-- The first template of two lists of targets is in the first list, if there is one in it. -/
theorem firstOf_append (us vs : List Target) :
    m.firstOf (us ++ vs) = (m.firstOf us).or (m.firstOf vs) := by
  simp [firstOf, List.find?_append]

/-- Literal candidates that stand for missing names have no template among them. -/
theorem firstOf_of_misses (h : ∀ target ∈ targets, ∃ missing, m.Misses vars target missing)
    (hstatic : ∀ target ∈ targets, target.target ≠ .dynamic) :
    m.firstOf (targets.map TargetRef.target) = none := by
  induction targets with
  | nil => rfl
  | cons target rest ih =>
    obtain ⟨⟨missing, hmisses⟩, hmissing⟩ := List.forall_mem_cons.1 h
    obtain ⟨hfirst, hrest⟩ := List.forall_mem_cons.1 hstatic
    have htarget := TargetRef.target_eq_of_evaluate hmisses.1 hfirst
    rw [List.map_cons, ← List.singleton_append, firstOf_append, ih hmissing hrest, htarget, Option.or_none]
    simp [firstOf, Target.name?, hmisses.2]

/-- Among literal candidates a selection finds the first template. -/
theorem firstOf_of_select (h : m.select vars optional targets = .ok (some name))
    (hstatic : ∀ target ∈ targets, target.target ≠ .dynamic) :
    m.firstOf (targets.map TargetRef.target) = some name := by
  rcases m.select_cases vars optional targets with
    ⟨before, target, after, rfl, hbefore, ⟨found, heval, hcontains, hend⟩ | ⟨_, -, -, hend⟩⟩ | ⟨-, hend⟩
  all_goals rw [hend] at h
  · cases h
    obtain ⟨hmissing, hdeciding⟩ := List.forall_mem_append.1 hstatic
    have htarget := TargetRef.target_eq_of_evaluate heval (hdeciding target List.mem_cons_self)
    -- All candidates before the one that decides were found missing.
    rw [List.map_append, firstOf_append, firstOf_of_misses hbefore hmissing, Option.none_or,
      List.map_cons, htarget]
    simp [firstOf, Target.name?, hcontains]
  · cases h
  · split at h <;> cases h

/-- What a selection finds is justified by the declaration of the edge. -/
theorem justifies_of_select (h : m.select vars optional targets = .ok (some name)) :
    m.Justifies (targets.map TargetRef.target) name := by
  obtain ⟨hcontains, target, htarget, heval⟩ := select_eq_ok_some h
  refine ⟨hcontains, ?_, fun hstatic => firstOf_of_select h fun t ht heq =>
    hstatic (List.mem_map.2 ⟨t, ht, heq⟩)⟩
  by_cases hdynamic : target.target = .dynamic
  · exact .inr (List.mem_map.2 ⟨target, htarget, hdynamic⟩)
  · exact .inl (List.mem_map.2 ⟨target, htarget, TargetRef.target_eq_of_evaluate heval hdynamic⟩)

/-- Every step of a walk goes where its edge leads. -/
theorem select_of_mem_steps {depth : Nat} {step : Step}
    (h : step ∈ (m.walkWithin vars depth name).steps) :
    m.select vars step.edge.optional step.edge.candidates = .ok (some step.target) := by
  induction depth generalizing name with
  | zero => cases h
  | succ depth ih =>
    rw [walkWithin] at h
    cases hentry : m.get? name with
    | none =>
      rw [hentry] at h
      cases h
    | some entry =>
      rw [hentry] at h
      obtain ⟨edge, -, hstep⟩ := Walk.exists_of_mem_steps_chain h
      obtain ⟨target, hselect, rfl | hstep⟩ := mem_steps_walkEdge_iff.1 hstep
      · exact hselect
      · exact ih hstep

end Manifest

/-! ## Justified graphs -/

namespace Graph

variable {m : Manifest} {g g' : Graph}

/-- Whatever an edge of the graph resolved to is declared, and justified by the declaration of the edge. -/
def Justified (m : Manifest) (g : Graph) : Prop :=
  ∀ owner id, ∀ r ∈ g.history owner id, r.name ∈ g.names ∧
    ∃ d, (g.declarations owner)[id]? = some d ∧ m.Justifies d.targets r.name

/-- Growth by steps that selections found keeps a graph justified, if their targets are declared. -/
theorem Justified.grow (h : Justified m g) (hg : g.Coherent) {steps : List Step}
    (hgrows : g.Grows steps g') (hdeclared : ∀ step ∈ steps, step.target ∈ g'.names)
    (hsteps : ∀ step ∈ steps,
      m.Justifies (step.edge.candidates.map TargetRef.target) step.target) : Justified m g' := by
  intro owner id r hr
  rw [hgrows.history hg, List.mem_append] at hr
  rcases hr with hold | hnew
  · obtain ⟨hname, d, hd, hjustifies⟩ := h owner id r hold
    obtain ⟨ops, rfl⟩ := hgrows.exists_applyAll
    refine ⟨hg.mem_names_applyAll ops hname, d, ?_, hjustifies⟩
    exact hg.getElem?_declarations_applyAll ops hd
  · obtain ⟨step, hstep, rfl⟩ := List.mem_map.1 hnew
    obtain ⟨hmem, hedge⟩ := List.mem_filter.1 hstep
    obtain ⟨rfl, hplace⟩ := of_decide_eq_true hedge
    obtain ⟨d, hd, hid⟩ := Option.bind_eq_some_iff.1 hplace
    refine ⟨hdeclared step hmem, d, getElem?_declarations hid, ?_⟩
    rw [EdgeSpec.targets_declaration? hd]
    exact hsteps step hmem

/-- Watching a graph from outside keeps it justified. -/
theorem Justified.watch (h : Justified m g) (hg : g.Coherent) {op : Operation}
    (hop : op = .startWatch ∨ ∃ on, op = .setWatchConcurrent on) : Justified m (g.apply op) := by
  intro owner id r hr
  have hrecord : ∃ old ∈ g.history owner id, old.name = r.name := by
    rw [hg.history_apply] at hr
    rcases hop with rfl | ⟨on, rfl⟩
    · simp only [if_true, Operation.recordOf?, List.append_nil] at hr
      obtain ⟨old, hold, rfl⟩ := List.mem_map.1 hr
      exact ⟨old, hold, rfl⟩
    · exact ⟨r, by simpa [Operation.recordOf?] using hr, rfl⟩
  obtain ⟨old, hold, hname⟩ := hrecord
  obtain ⟨hdeclared, d, hd, hjustifies⟩ := h owner id old hold
  rw [hname] at hdeclared hjustifies
  refine ⟨hg.mem_names_apply op hdeclared, d, ?_, hjustifies⟩
  exact hg.getElem?_declarations_applyAll [op] hd

end Graph

/-! ## Histories -/

namespace Engine

variable {e : Engine}

/-- A use of the engine keeps its graph justified, if it does no more to the graph from outside than
watching it. -/
theorem Sound.justified_use (h : e.Sound) {m : Manifest} (hmanifest : e.manifest = m)
    (hjustified : Graph.Justified m e.graph) {u : Use}
    (hu : ∀ op, u = .operate op → op = .startWatch ∨ ∃ on, op = .setWatchConcurrent on) :
    Graph.Justified m (e.use u).graph := by
  subst hmanifest
  rcases h.use_cases u with ⟨mode, -, huse⟩ | ⟨op, hop, huse⟩ | ⟨steps, hadvances, hsteps⟩
  · rw [huse]
    exact hjustified
  · rw [huse]
    exact hjustified.watch h.coherent (hu op hop)
  · -- Every recorded step is one of the walk.
    have hwalk : ∀ step ∈ steps, ∃ name vars, u = .render name vars ∧
        step ∈ (e.manifest.walk vars name).steps := by
      intro step hstep
      rcases hsteps with rfl | ⟨name, vars, hrender, rfl⟩
      · cases hstep
      · refine ⟨name, vars, hrender, ?_⟩
        unfold recorded at hstep
        split at hstep
        · exact hstep
        · cases hstep
    refine hjustified.grow h.coherent hadvances.graph ?_ ?_
    · intro step hstep
      obtain ⟨name, vars, rfl, hmem⟩ := hwalk step hstep
      exact h.mem_names_render hmem
    · intro step hstep
      obtain ⟨name, vars, -, hmem⟩ := hwalk step hstep
      exact Manifest.justifies_of_select (Manifest.select_of_mem_steps hmem)

/-- An engine whose graph is only watched from outside has a justified graph. -/
theorem justified_after (m : Manifest) {uses : List Use}
    (hwatch : ∀ op, .operate op ∈ uses → op = .startWatch ∨ ∃ on, op = .setWatchConcurrent on) :
    Graph.Justified m ((new m).after uses).graph := by
  induction uses using List.reverseRecOn with
  | nil =>
    intro owner id r hr
    cases hr
  | append_singleton uses u ih =>
    obtain ⟨hsound, hmanifest⟩ := sound_after m uses
    have hprevious := ih fun op hop => hwatch op (List.mem_append_left _ hop)
    rw [after_append]
    exact hsound.justified_use hmanifest hprevious fun op hop =>
      hwatch op (hop ▸ List.mem_append_right _ List.mem_cons_self)

/-- Whatever is recorded is justified. Consider any history of an engine in which nothing is done to the
graph from outside but starting a watch and choosing whether concurrent renders are tracked. A name in the
history of an edge is a declared template of the manifest, and it is a literal target of the edge or the
edge has a dynamic target. An edge with literal targets only never resolves to anything but the first of
them that the manifest has, and its template is among the dependents of that name. So the templates that are
reported as used are all those whose name is current in some history. -/
theorem record_justified (m : Manifest) (uses : List Use)
    (hwatch : ∀ op, .operate op ∈ uses → op = .startWatch ∨ ∃ on, op = .setWatchConcurrent on) :
    let g := ((new m).after uses).graph
    (∀ owner id, ∀ r ∈ g.history owner id, r.name ∈ g.names ∧ m.contains r.name = true ∧
      ∃ d, (g.declarations owner)[id]? = some d ∧
        (.named r.name ∈ d.targets ∨ .dynamic ∈ d.targets) ∧
        (.dynamic ∉ d.targets →
          m.firstOf d.targets = some r.name ∧ owner ∈ g.staticView.dependentsOf r.name)) ∧
    ∀ name, name ∈ g.used.map (·.name) ↔ ∃ owner id, ⟨name, true⟩ ∈ g.history owner id := by
  intro g
  have hcoherent : g.Coherent := (sound_after m uses).1.coherent
  have hjustified : Graph.Justified m g := justified_after m hwatch
  constructor
  · intro owner id r hr
    obtain ⟨hname, d, hd, hcontains, hlisted, hfirst⟩ := hjustified owner id r hr
    refine ⟨hname, hcontains, d, hd, hlisted, fun hstatic => ⟨hfirst hstatic, ?_⟩⟩
    rw [StaticView.mem_dependentsOf_iff, StaticView.mem_sources_staticView_iff, hcoherent.pointsAt_iff]
    exact ⟨d, List.mem_of_getElem? hd, hlisted.resolve_right hstatic⟩
  · intro name
    rw [Graph.map_name_used, List.mem_filter, hcoherent.reached_eq_true_iff, and_iff_right_iff_imp]
    rintro ⟨owner, id, hr⟩
    exact (hjustified owner id _ hr).1

/-- A page with a box that it takes from a list of two, and one that a variable chooses. -/
def boxes : Manifest where
  raw := {
    settings := .default
    templates := .ofList [
      ("page", ⟨none, none, [⟨["wide", "plain"], true, false⟩, ⟨["$box", "plain"], true, false⟩], []⟩),
      ("plain", .empty),
      ("round", .empty)] }
  valid := by decide +kernel

/-- A render that finds the box of the list and then has no value for the variable, one that has a value,
and a watch in between. The first edge has resolved to the second of its targets twice, since the manifest
does not have the first one. -/
theorem boxes_justified :
    let uses : List Use := [.render "page" .empty, .operate .startWatch,
      .render "page" (.ofList [("box", "round")])]
    let g := ((new boxes).after uses).graph
    g.history "page" 0 = [⟨"plain", false⟩, ⟨"plain", true⟩] ∧
    (∃ d, (g.declarations "page")[0]? = some d ∧ boxes.firstOf d.targets = some "plain") ∧
    "page" ∈ g.staticView.dependentsOf "plain" ∧
    "round" ∈ g.used.map (·.name) := by
  intro uses g
  have hwatch : ∀ op, .operate op ∈ uses → op = .startWatch ∨ ∃ on, op = .setWatchConcurrent on := by
    simp [uses]
  obtain ⟨hrecords, hused⟩ := record_justified boxes uses hwatch
  have hhistory : g.history "page" 0 = [⟨"plain", false⟩, ⟨"plain", true⟩] := by decide +kernel
  obtain ⟨-, -, d, hd, -, hstatic⟩ := hrecords "page" 0 ⟨"plain", true⟩ (by rw [hhistory]; simp)
  have hd' : (g.declarations "page")[0]? =
      some (.including (.named "wide") [.named "plain"] (some true) (some false)) := by
    decide +kernel
  obtain ⟨hfirst, hdependent⟩ := hstatic (by
    rw [hd'] at hd
    cases hd
    decide)
  refine ⟨hhistory, ⟨d, hd, hfirst⟩, hdependent, (hused "round").2 ⟨"page", 1, ?_⟩⟩
  decide +kernel

end Engine

end TemplateDeps
