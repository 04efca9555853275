import TemplateDeps.Proofs.Engine.Refinement
import TemplateDeps.Proofs.Manifest.Nesting

/-!
# The bound on nested templates

A render enters at most `maxRenderDepth` templates inside one another. `render_depth_exact` says what
this bound means: a render fails at it only where it stands at the end of a chain of that many edges, and
it succeeds as soon as there is no such chain and nothing else is wrong within reach. So the bound stops
every render that would go round a cycle, and in a manifest that is not larger than the bound it stops no
other one.

The walk of a render decides how it ends (`perform_render_after`), and what walks do at their bound is
known (`Manifest.fault_walkWithin_eq_none_iff`, `Manifest.leadsIn_of_tooDeep`).
-/

namespace TemplateDeps

namespace Engine

/-- The bound on nested templates is exact. Whatever was done with the engine before, a render succeeds
exactly when its template is in the manifest, every template that at most 63 edges lead to is passable,
and no chain of 64 edges starts at its template. It always ends, in one of four ways, and if it is nested
too deeply, then a chain of 64 edges leads to the template it complains about. Hence it never succeeds
where a cycle is within reach, and in a manifest of at most 64 templates only a cycle is too deep. -/
theorem render_depth_exact (m : Manifest) (uses : List Use) (name : String) (vars : Variables) :
    let result := (((new m).after uses).perform (render name vars)).1
    (result = .ok () ↔
      m.contains name = true ∧
      (∀ n ≤ 63, ∀ t, m.LeadsIn vars n name t → m.Passable vars t) ∧
      ¬ ∃ t, m.LeadsIn vars 64 name t) ∧
    (∀ t, result = .error (.tooDeep t) → m.LeadsIn vars 64 name t) ∧
    (result = .ok () ∨ (∃ t, result = .error (.tooDeep t)) ∨
      (∃ tried, result = .error (.templateNotFound tried)) ∨
      ∃ v, result = .error (.unboundVariable v)) ∧
    (m.ReachesCycle vars name → result ≠ .ok ()) ∧
    (m.names.length ≤ 64 → ∀ t, result = .error (.tooDeep t) → m.ReachesCycle vars name) := by
  intro result
  have hresult : result = (m.walkWithin vars 64 name).outcome := perform_render_after m uses name vars
  have htooDeep : ∀ t, result = .error (.tooDeep t) → m.LeadsIn vars 64 name t := by
    intro t ht
    rw [hresult, Walk.outcome_eq_error_iff] at ht
    exact Manifest.leadsIn_of_tooDeep ht
  refine ⟨?_, htooDeep, ?_, ?_, ?_⟩
  · rw [hresult, Walk.outcome_eq_ok_iff, Manifest.fault_walkWithin_eq_none_iff]
    simp only [Nat.lt_succ_iff]
  · rw [hresult]
    cases hfault : (m.walkWithin vars 64 name).fault with
    | none => exact .inl (Walk.outcome_eq_ok_iff.2 hfault)
    | some fault =>
      have herror := Walk.outcome_eq_error_iff.2 hfault
      rw [herror]
      rcases Manifest.fault_walkWithin_eq_some hfault with
        ⟨t, rfl⟩ | ⟨tried, rfl⟩ | ⟨v, rfl⟩
      · exact .inr (.inl ⟨t, rfl⟩)
      · exact .inr (.inr (.inl ⟨tried, rfl⟩))
      · exact .inr (.inr (.inr ⟨v, rfl⟩))
  · intro hcycle hok
    rw [hresult, Walk.outcome_eq_ok_iff] at hok
    exact Manifest.not_reachesCycle hok hcycle
  · intro hsize t ht
    have hchain := htooDeep t ht
    obtain ⟨next, hleads, -⟩ := Manifest.leadsIn_succ_iff.1 hchain
    exact hchain.reachesCycle hleads.contains_owner hsize

/-- Two templates that include each other. -/
def mirrors : Manifest where
  raw := {
    settings := .default
    templates := .ofList [
      ("left", ⟨none, none, [⟨["right"], true, false⟩], []⟩),
      ("right", ⟨none, none, [⟨["left"], true, false⟩], []⟩)] }
  valid := by decide +kernel

/-- Templates that include each other are nested too deeply, and a cycle is the reason. -/
theorem render_mirrors_tooDeep :
    (((new mirrors).after [.compileAll]).perform (render "left" .empty)).1 =
      .error (.tooDeep "left") ∧
    mirrors.names.length ≤ 64 ∧
    mirrors.LeadsIn .empty 64 "left" "left" ∧ mirrors.ReachesCycle .empty "left" := by
  have hresult : (((new mirrors).after [.compileAll]).perform (render "left" .empty)).1 =
      .error (.tooDeep "left") := by decide +kernel
  have hsize : mirrors.names.length ≤ 64 := by decide +kernel
  obtain ⟨-, hchain, -, -, hcycle⟩ := render_depth_exact mirrors [.compileAll] "left" .empty
  exact ⟨hresult, hsize, hchain "left" hresult, hcycle hsize "left" hresult⟩

end Engine

end TemplateDeps
