import TemplateDeps.Proofs.Engine.Declared
import TemplateDeps.Proofs.Graph.OperationLog
import TemplateDeps.Proofs.Manifest.Nesting

/-!
# What a watched render reports

Start a watch, then render a template: what is reported as used is what this render needed. By
`mem_used_watched_iff` these are exactly the templates that edges lead to from the rendered one, as the
manifest and the variables of this render select them. What was recorded before does not show.

Three facts come together. A graph that grows after a watch was started has reached exactly the targets
of the recorded steps (`Graph.Coherent.reached_of_grows`). A render declares these targets, so that none
is missing from the report (`Sound.names_render`). And a walk without a fault takes steps to exactly the
templates that edges lead to, never back to where it started (`Manifest.exists_step_iff`,
`Manifest.not_reachesCycle`).
-/

namespace TemplateDeps

open Relation

namespace Graph

variable {g g' : Graph} {steps : List Step}

/-- After a watch was started, a graph that grew has reached exactly the targets of its steps. -/
theorem Coherent.reached_of_grows (h : g.Coherent) (hgrows : (g.apply .startWatch).Grows steps g')
    {name : String} : g'.reached name = true ↔ ∃ step ∈ steps, step.target = name := by
  have hwatch := h.apply .startWatch
  -- All older records were moved out of the watch.
  have hpast : ∀ owner id, (⟨name, true⟩ : Resolution) ∉ (g.apply .startWatch).history owner id := by
    intro owner id hmem
    rw [h.history_apply] at hmem
    simp [Operation.recordOf?, Resolution.past] at hmem
  have hrecord : ∀ owner id, ⟨name, true⟩ ∈ g'.history owner id ↔
      ∃ step ∈ steps, (step.owner = owner ∧ g'.placeOf? step.owner step.edge = some id) ∧
        step.target = name := by
    intro owner id
    rw [hgrows.history hwatch, List.mem_append, or_iff_right (hpast owner id)]
    simp [left, and_assoc]
  rw [(hgrows.coherent hwatch).reached_eq_true_iff]
  simp only [hrecord]
  constructor
  · rintro ⟨owner, id, step, hstep, -, htarget⟩
    exact ⟨step, hstep, htarget⟩
  · rintro ⟨step, hstep, htarget⟩
    obtain ⟨id, hplace⟩ := hgrows.exists_placeOf? hwatch hstep
    exact ⟨step.owner, id, step, hstep, ⟨rfl, hplace⟩, htarget⟩

end Graph

namespace Engine

/-- A successful render reports exactly what it reached. Let an engine, whatever was done with it before,
track its renders. If a watch is started and a render succeeds then, the templates reported as used are
exactly those that edges lead to from the rendered template, one edge or several. They come each once and
in the order of the graph, and the rendered template is not one of them. -/
theorem mem_used_watched_iff (m : Manifest) (uses : List Use) (name : String) (vars : Variables)
    (htracks : ((new m).after uses).graph.tracks ((new m).after uses).mode = true)
    (hok : (((new m).after (uses ++ [.operate .startWatch])).perform (render name vars)).1 = .ok ()) :
    let after := (new m).after (uses ++ [.operate .startWatch, .render name vars])
    let used := after.graph.used.map (·.name)
    (∀ t, t ∈ used ↔ TransGen (m.Leads vars) name t) ∧
    used.Sublist after.graph.names ∧ used.Nodup ∧ name ∉ used := by
  intro after used
  obtain ⟨hsound, hmanifest⟩ := sound_after m uses
  let watched : Engine := ((new m).after uses).use (.operate .startWatch)
  have hwatched : watched.Sound := (hsound.use _).1
  have hsame : watched.manifest = m := (hsound.use _).2.trans hmanifest
  have hafter : after = (watched.perform (render name vars)).2 := by
    simp only [after, after_append]
    rfl
  have hadvances : Advances watched (m.walk vars name).steps after := by
    have hfollows := (hwatched.follows_render vars name).advances
    have hmode : watched.graph.tracks watched.mode = true := htracks
    rw [recorded, if_pos hmode, hsame] at hfollows
    exact hafter ▸ hfollows
  have hfault : (m.walk vars name).fault = none := by
    rw [perform_render_after, Walk.outcome_eq_ok_iff] at hok
    exact hok
  have hcontains : watched.manifest.contains name = true := by
    rw [hsame]
    exact (Manifest.fault_walkWithin_eq_none_iff.1 hfault).1
  have hmem : ∀ t, t ∈ used ↔ TransGen (m.Leads vars) name t := by
    intro t
    refine Iff.trans ?_ (Manifest.exists_step_iff hfault)
    show t ∈ after.graph.used.map (·.name) ↔ ∃ step ∈ (m.walk vars name).steps, step.target = t
    rw [Graph.map_name_used, List.mem_filter, hsound.coherent.reached_of_grows hadvances.graph,
      and_iff_right_iff_imp]
    -- Every target of a step was declared on the way.
    rintro ⟨step, hstep, rfl⟩
    rw [hafter, hwatched.names_render vars hcontains, hsame, mem_adjoinAll]
    exact .inr (List.mem_cons_of_mem _ (List.mem_map.2 ⟨step, hstep, rfl⟩))
  have hsublist : used.Sublist after.graph.names := by
    show (after.graph.used.map (·.name)).Sublist after.graph.names
    rw [Graph.map_name_used]
    exact List.filter_sublist
  refine ⟨hmem, hsublist, hadvances.sound.coherent.nodup_names.sublist hsublist, ?_⟩
  rw [hmem]
  exact fun hcycle => Manifest.not_reachesCycle hfault ⟨name, .refl, hcycle⟩

/-- A page with a frame and a panel that a variable chooses. -/
def panels : Manifest where
  raw := {
    settings := .default
    templates := .ofList [
      ("chart", .empty),
      ("frame", .empty),
      ("list", ⟨none, none, [], [⟨"frame", some "f", none, false⟩]⟩),
      ("page", ⟨none, some "frame", [⟨["$panel"], true, false⟩], []⟩)] }
  valid := by decide +kernel

/-- A page that was rendered with one panel and then, under a watch, with another one is not reported to
use the first. -/
theorem chart_not_used :
    let vars : Variables := .ofList [("panel", "list")]
    let uses := [Use.render "page" (.ofList [("panel", "chart")])]
    ((new panels).after uses).graph.tracks ((new panels).after uses).mode = true ∧
    (((new panels).after (uses ++ [.operate .startWatch])).perform (render "page" vars)).1 = .ok () ∧
    TransGen (panels.Leads vars) "page" "list" ∧ ¬ TransGen (panels.Leads vars) "page" "chart" := by
  intro vars uses
  have htracks : ((new panels).after uses).graph.tracks ((new panels).after uses).mode = true := by
    decide +kernel
  have hok : (((new panels).after (uses ++ [.operate .startWatch])).perform
      (render "page" vars)).1 = .ok () := by
    decide +kernel
  have hused := (mem_used_watched_iff panels uses "page" vars htracks hok).1
  refine ⟨htracks, hok, (hused "list").1 ?_, fun h => ?_⟩
  · decide +kernel
  · exact absurd ((hused "chart").2 h) (by decide +kernel)

end Engine

end TemplateDeps
