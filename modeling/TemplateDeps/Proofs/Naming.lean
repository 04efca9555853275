import TemplateDeps.Proofs.Engine.Refinement
import TemplateDeps.Proofs.Manifest.WrittenTargets
import TemplateDeps.Proofs.Recompilation

/-!
# Names that can be written as targets

A manifest keeps the names of its templates as they are, but it reads targets: blanks around a target do not
count, and one that begins with a dollar sign is a variable. So a template may have a name that no edge can
reach by writing it down. `TargetRef.parse?_self_iff` says which names are read back as themselves:
those that are `Verbatim`, with no blank at either end and no dollar sign in front.

For these names `verbatim_target_recorded` goes the whole way from the text of a target to the record of a
render. The edge is represented by a compiled one with the name as its only target
(`Graph.Coherent.exists_represents`), the name is selected whatever the variables are
(`Manifest.select_singleton`), the walk takes the step unless an edge before it failed
(`Manifest.mem_steps_walk`), and a tracked render records every step of its walk
(`Engine.Sound.mem_history_render`).
-/

namespace TemplateDeps

/-! ## Selecting what was written -/

namespace Manifest

variable {m : Manifest} {name : String}

/-- No template of a manifest has the empty name. -/
theorem name_ne_empty (hname : m.contains name = true) : name ≠ "" := by
  rintro rfl
  obtain ⟨entry, hentry⟩ := Option.isSome_iff_exists.1 hname
  have hmem : ("", entry) ∈ m.raw.templates.entries := (NameMap.get?_eq_some_iff _).1 hentry
  have hcheck := (RawManifest.validate_eq_ok_iff.1 m.valid).2 ("", entry) hmem
  have hblank : (Text.trim "").isEmpty = false := (Entry.check_eq_ok_iff.1 hcheck).1
  exact absurd hblank (by decide)

end Manifest

namespace EdgeSpec

variable {spec : EdgeSpec}

/-- A declaration that says what an edge describes has the targets of this edge. -/
theorem targets_of_attributes {d : Declaration} (h : d.attributes = spec.attributes) :
    d.targets = spec.candidates.map TargetRef.target := by
  cases spec <;> exact congrArg (·.2.1) h

end EdgeSpec

/-- Whatever entry compiles, each of its edges is represented by a compiled one. -/
theorem Graph.Coherent.exists_represents {g : Graph} (h : g.Coherent) {owner : String} {entry : Entry}
    (hplan : ∀ spec ∈ entry.edges, ∃ p, spec.plan owner = .ok p) :
    ∃ edges, (g.compile owner entry).result = .ok edges ∧
      ∀ spec ∈ entry.edges, ∃ edge ∈ edges, (g.compile owner entry).graph.Represents owner spec edge := by
  obtain ⟨edges, hcompile, hedges⟩ := h.compile_eq_map hplan
  refine ⟨edges, by rw [hcompile]; rfl, fun spec hspec => ?_⟩
  have hmem := hedges ▸ List.mem_map_of_mem hspec
  obtain ⟨edge, hedge, hcompiled⟩ := List.mem_map.1 hmem
  refine ⟨edge, hedge, ?_⟩
  rw [hcompile]
  exact represents_of_compiled? hcompiled.symm

/-! ## Steps that are taken and recorded -/

namespace Walk

/-- A walk that goes on keeps the steps that it has taken. -/
theorem mem_steps_andThen_left {w : Walk} {step : Step} (h : step ∈ w.steps) (next : Walk) :
    step ∈ (w.andThen next).steps := by
  obtain ⟨steps, _ | fault⟩ := w
  · exact List.mem_append_left _ h
  · exact h

/-- A chain takes the steps of a member that it gets to, even if it fails later. -/
theorem mem_steps_chain {α : Type} {visit : α → Walk} {before after : List α} {a : α}
    (hbefore : ∀ b ∈ before, (visit b).fault = none) {step : Step} (hstep : step ∈ (visit a).steps) :
    step ∈ (chain visit (before ++ a :: after)).steps := by
  rw [chain_append, steps_andThen (fault_chain_eq_none_iff.2 hbefore), chain_cons]
  exact List.mem_append_right _ (mem_steps_andThen_left hstep _)

end Walk

/-- The walk from a template takes the step over an edge that leads somewhere, unless an edge before it
failed. -/
theorem Manifest.mem_steps_walk {m : Manifest} {vars : Variables} {owner : String} {entry : Entry}
    (hentry : m.get? owner = some entry) {before after : List EdgeSpec} {spec : EdgeSpec}
    (hedges : entry.edges = before ++ spec :: after)
    (hbefore : ∀ earlier ∈ before,
      (m.walkEdge vars owner (m.walkWithin vars (maxRenderDepth - 1)) earlier).fault = none)
    {target : String} (hselect : m.select vars spec.optional spec.candidates = .ok (some target)) :
    ⟨owner, spec, target⟩ ∈ (m.walk vars owner).steps := by
  have hstep : ⟨owner, spec, target⟩ ∈
      (m.walkEdge vars owner (m.walkWithin vars (maxRenderDepth - 1)) spec).steps := by
    rw [mem_steps_walkEdge_iff]
    exact ⟨target, hselect, .inl rfl⟩
  have hwalk : m.walk vars owner =
      .chain (m.walkEdge vars owner (m.walkWithin vars (maxRenderDepth - 1))) entry.edges := by
    rw [walk, maxRenderDepth, walkWithin, hentry]
  rw [hwalk, hedges]
  exact Walk.mem_steps_chain hbefore hstep

namespace Engine

/-- A tracked render records every step of its walk on the edge that the graph keeps for it. -/
theorem Sound.mem_history_render {e : Engine} (h : e.Sound) (htracks : e.graph.tracks e.mode = true)
    {vars : Variables} {name : String} {step : Step} (hstep : step ∈ (e.manifest.walk vars name).steps) :
    ∃ id, (e.use (.render name vars)).graph.placeOf? step.owner step.edge = some id ∧
      ⟨step.target, true⟩ ∈ (e.use (.render name vars)).graph.history step.owner id := by
  have hgrows := (h.follows_render vars name).advances.graph
  rw [recorded, if_pos htracks] at hgrows
  obtain ⟨id, hplace⟩ := hgrows.exists_placeOf? h.coherent hstep
  refine ⟨id, hplace, ?_⟩
  show _ ∈ (e.perform (render name vars)).2.graph.history step.owner id
  rw [hgrows.history h.coherent, List.mem_append]
  refine .inr (List.mem_map.2 ⟨step, List.mem_filter.2 ⟨hstep, ?_⟩, rfl⟩)
  exact decide_eq_true ⟨rfl, hplace⟩

/-- A target that is written exactly as the name of a template reaches this template if the name is verbatim,
and only then. Let `name` be a template of a manifest. It is read as a target with this name exactly if it
has no blank at either end and no dollar sign in front.

If so, consider an edge of the manifest whose only target is written as the name: an edge to a parent, an
include of one target or an import. Whatever graph its owner is compiled on, the compiled edge has the
name as its only target, and so does the declaration that the graph keeps for it. Every render selects the
template. And a tracked render of the owner, whatever was done with the engine before, records it on the
edge, unless an edge before this one makes the render fail. -/
theorem verbatim_target_recorded (m : Manifest) {name : String} (hname : m.contains name = true) :
    (TargetRef.parse? name = some (.literal name) ↔ Verbatim name) ∧
    (Verbatim name → ∀ owner entry, m.get? owner = some entry →
      ∀ before spec after, entry.edges = before ++ spec :: after → spec.written = [name] →
      (∀ g : Graph, g.Reachable → ∃ edges, (g.compile owner entry).result = .ok edges ∧
        ∃ edge ∈ edges, edge.targets = [.literal name] ∧
          ∃ d, ((g.compile owner entry).graph.declarations owner)[edge.id]? = some d ∧
            d.attributes = spec.attributes ∧ d.targets = [.named name]) ∧
      ∀ vars, m.select vars spec.optional spec.candidates = .ok (some name) ∧
        ((∀ earlier ∈ before,
            (m.walkEdge vars owner (m.walkWithin vars (maxRenderDepth - 1)) earlier).fault = none) →
          ∀ uses, let e := (new m).after uses
          e.graph.tracks e.mode = true →
          ∃ id d, ((e.use (.render owner vars)).graph.declarations owner)[id]? = some d ∧
            d.attributes = spec.attributes ∧
            ⟨name, true⟩ ∈ (e.use (.render owner vars)).graph.history owner id)) := by
  have hparse : TargetRef.parse? name = some (.literal name) ↔ Verbatim name := by
    rw [TargetRef.parse?_self_iff, and_iff_right (m.name_ne_empty hname)]
  refine ⟨hparse, fun hverbatim owner entry hentry before spec after hedges hwritten => ⟨?_, ?_⟩⟩
  · intro g hg
    have hspec : spec ∈ entry.edges := by
      rw [hedges]
      exact List.mem_append_right _ List.mem_cons_self
    obtain ⟨edges, hcompile, hall⟩ :=
      hg.coherent.exists_represents fun _ hplanned => m.exists_plan hentry hplanned
    obtain ⟨edge, hedge, hrepresents⟩ := hall spec hspec
    obtain ⟨d, hd, hattributes⟩ := hrepresents.stored
    have htargets : edge.targets = [.literal name] := by
      have hmap : [TargetRef.literal name].map some = edge.targets.map some := by
        rw [← hrepresents.written, hwritten, List.map_singleton, List.map_singleton, hparse.2 hverbatim]
      exact (List.map_injective_iff.2 (fun _ _ => Option.some.inj) hmap).symm
    refine ⟨edges, hcompile, edge, hedge, htargets, d, hd, hattributes, ?_⟩
    rw [EdgeSpec.targets_of_attributes hattributes,
      EdgeSpec.candidates_of_written hwritten (hparse.2 hverbatim)]
    rfl
  · intro vars
    have hselect : m.select vars spec.optional spec.candidates = .ok (some name) := by
      rw [EdgeSpec.candidates_of_written hwritten (hparse.2 hverbatim)]
      exact m.select_singleton rfl hname spec.optional
    refine ⟨hselect, fun hbefore uses => ?_⟩
    intro e htracks
    obtain ⟨hsound, hmanifest⟩ := sound_after m uses
    have hstep : ⟨owner, spec, name⟩ ∈ (e.manifest.walk vars owner).steps := by
      rw [hmanifest]
      exact m.mem_steps_walk hentry hedges hbefore hselect
    obtain ⟨id, hplace, hrecord⟩ := hsound.mem_history_render htracks hstep
    obtain ⟨d, hdeclares, hid⟩ := Option.bind_eq_some_iff.1 hplace
    exact ⟨id, d, Graph.getElem?_declarations hid, EdgeSpec.attributes_declaration? hdeclares, hrecord⟩

/-- A price list that a page cannot extend, a note that a memo cannot include, and a post with a base and a
box that are found. -/
def coined : Manifest where
  raw := {
    settings := .default
    templates := .ofList [
      (" note", .empty),
      ("$price", .empty),
      ("base", .empty),
      ("box", .empty),
      ("memo", ⟨none, none, [⟨[" note"], true, false⟩], []⟩),
      ("page", ⟨none, some "$price", [], []⟩),
      ("post", ⟨none, some "base", [⟨["box"], true, false⟩], []⟩)] }
  valid := by decide +kernel

/-- A verbatim name is reached behind an edge that leads somewhere, even by a template that was rendered
before. -/
theorem box_recorded :
    let uses : List Use := [.render "post" .empty, .operate .startWatch]
    let g := (((new coined).after uses).use (.render "post" .empty)).graph
    TargetRef.parse? "box" = some (.literal "box") ∧ ∃ id, ⟨"box", true⟩ ∈ g.history "post" id := by
  intro uses g
  have hverbatim : Verbatim "box" := by
    refine ⟨fun c hc => ?_, fun c hc => ?_⟩
    · obtain rfl : 'b' = c := Option.some.inj hc
      decide
    · obtain rfl : 'x' = c := Option.some.inj hc
      decide
  have hbefore : ∀ earlier ∈ [EdgeSpec.extending "base"],
      (coined.walkEdge .empty "post" (coined.walkWithin .empty (maxRenderDepth - 1)) earlier).fault =
        none := by
    decide +kernel
  have hbox : coined.contains "box" = true := by decide +kernel
  obtain ⟨hparse, hreached⟩ := verbatim_target_recorded coined hbox
  obtain ⟨-, hrender⟩ := hreached hverbatim "post" ⟨none, some "base", [⟨["box"], true, false⟩], []⟩
    (by decide +kernel) [.extending "base"] (.including ⟨["box"], true, false⟩) [] rfl rfl
  obtain ⟨id, -, -, -, hrecord⟩ := (hrender .empty).2 hbefore uses (by decide +kernel)
  exact ⟨hparse.2 hverbatim, id, hrecord⟩

/-- Not every name of a template can be written as a target. A dollar sign in front makes it a variable, so
that a page without a value for the variable cannot be rendered. A blank in front is dropped, and what is
left is not found. -/
theorem coined_names_missed :
    (coined.contains "$price" = true ∧ TargetRef.parse? "$price" = some (.var "price") ∧
      ((new coined).perform (render "page" .empty)).1 = .error (.unboundVariable "price")) ∧
    (coined.contains " note" = true ∧ TargetRef.parse? " note" = some (.literal "note") ∧
      ((new coined).perform (render "memo" .empty)).1 = .error (.templateNotFound ["note"])) ∧
    ¬ ∀ (m : Manifest) (name : String), m.contains name = true →
      TargetRef.parse? name = some (.literal name) := by
  have hprice : coined.contains "$price" = true := by decide +kernel
  have hvar : TargetRef.parse? "$price" = some (.var "price") := by decide +kernel
  refine ⟨⟨hprice, hvar, by decide +kernel⟩, by decide +kernel, fun hall => ?_⟩
  have hliteral := hall coined "$price" hprice
  rw [hvar] at hliteral
  cases hliteral

end Engine

end TemplateDeps
