import TemplateDeps.Program
import TemplateDeps.Proofs.Engine.Refinement

/-!
# The check and the compiler

A manifest is read twice: once by its check, and once, template by template, by the compiler. The two are
written apart, and `validate_agrees_with_compile` says that they agree. What passes the check compiles, on
any graph, so that neither an engine nor the program can fail at it later. The other way round, a
description whose entries compile passes the check, unless the check refuses it for something that a
compiler has no reason to look at: no templates at all, a blank name, an import of no members.

In between stand the plans of edges. A compilation is stopped by an edge that cannot be planned and by
nothing else (`Graph.Coherent.exists_compile_iff`), and the checks of includes, imports and entries ask
for plans and little more (`IncludeSpec.check_eq_ok_iff`, `ImportSpec.check_eq_ok_iff`,
`Entry.check_eq_ok_iff`).
-/

namespace TemplateDeps

namespace Engine

variable {e : Engine} {name : String}

/-- A sound engine compiles every template of its manifest, for the first time or once more. -/
theorem Sound.compiles (h : e.Sound) (hname : e.manifest.contains name = true) :
    (e.perform (compile name)).1 = .ok () ∧ (e.perform (reload name)).1 = .ok () := by
  obtain ⟨entry, hentry⟩ := Option.isSome_iff_exists.1 hname
  obtain ⟨compiled, hcompile, -⟩ := h.perform_compile hentry
  obtain ⟨reloaded, hreload, -⟩ := h.perform_reload hentry
  exact ⟨congrArg Prod.fst hcompile, congrArg Prod.fst hreload⟩

end Engine

/-- The commands that only look at the declared edges come to a report on every manifest. -/
theorem Command.exists_report {c : Command} (hc : c = .list ∨ ∃ name, c = .affected name)
    (m : Manifest) : ∃ report, ((Engine.new m).perform c.action).1 = .ok report := by
  obtain ⟨after, hcompile, -⟩ := (Engine.sound_new m).perform_compileAll
  rcases hc with rfl | ⟨name, rfl⟩
  all_goals exact ⟨_, by rw [action, Engine.perform_bind_ok hcompile]; rfl⟩

/-- The check of a manifest and its compiler agree. Let `raw` be any description of templates.

If it passes the check, each of its entries compiles on every graph that operations lead to. So on a
checked manifest an engine never fails to compile a template, to compile it again, or to compile them all,
whatever was done with it before, and the commands that list templates and affected templates fail
exactly when the manifest file cannot be read or does not pass the check, for the same reason.

If it has templates, none of them with a blank name or with an import that binds an empty list of members
only, and each entry compiles on some graph that operations lead to, such as the empty one, then it passes
the check. -/
theorem validate_agrees_with_compile (raw : RawManifest) :
    (raw.validate = .ok () → ∀ name entry, (name, entry) ∈ raw.templates.entries →
      ∀ g : Graph, g.Reachable → ∃ edges, (g.compile name entry).result = .ok edges) ∧
    (∀ m : Manifest, m.raw = raw → ∀ uses, let e := (Engine.new m).after uses
      (∀ name, m.contains name = true →
        (e.perform (Engine.compile name)).1 = .ok () ∧ (e.perform (Engine.reload name)).1 = .ok ()) ∧
      (e.perform Engine.compileAll).1 = .ok ()) ∧
    (∀ c : Command, (c = .list ∨ ∃ name, c = .affected name) → ∀ content fault,
      (c.run content).1 = .error fault ↔ Manifest.ofFile content = .error fault) ∧
    (raw.templates.entries ≠ [] →
      (∀ name entry, (name, entry) ∈ raw.templates.entries →
        (Text.trim name).isEmpty = false ∧ (∀ spec ∈ entry.imports, ¬ spec.BindsNothing) ∧
        ∃ g : Graph, g.Reachable ∧ ∃ edges, (g.compile name entry).result = .ok edges) →
      raw.validate = .ok ()) := by
  refine ⟨?_, ?_, ?_, ?_⟩
  · intro hvalid name entry hentry g hg
    have hcheck := (RawManifest.validate_eq_ok_iff.1 hvalid).2 (name, entry) hentry
    exact hg.coherent.exists_compile_iff.2 (Entry.check_eq_ok_iff.1 hcheck).2.1
  · rintro m rfl uses
    obtain ⟨hsound, hmanifest⟩ := Engine.sound_after m uses
    obtain ⟨after, hcompile, -⟩ := hsound.perform_compileAll
    exact ⟨fun name hname => hsound.compiles (hmanifest.symm ▸ hname), congrArg Prod.fst hcompile⟩
  · intro c hc content fault
    unfold Command.run
    cases Manifest.ofFile content with
    | error cause => simp only [Except.error.injEq]
    | ok m =>
      obtain ⟨report, hreport⟩ := Command.exists_report hc m
      simp [hreport]
  · intro hentries hall
    refine RawManifest.validate_eq_ok_iff.2 ⟨hentries, fun (name, entry) hentry => ?_⟩
    obtain ⟨hname, hbinds, g, hg, hcompile⟩ := hall name entry hentry
    exact Entry.check_eq_ok_iff.2 ⟨hname, hg.coherent.exists_compile_iff.1 hcompile, hbinds⟩

/-- The entry of a page with edges of all three kinds. -/
def manualPage : Entry :=
  ⟨some "page.html", some "layout", [⟨["$sidebar", "plain"], true, true⟩],
    [⟨"forms", none, some ["field"], false⟩]⟩

/-- The page and the layout that it extends. -/
def manual : RawManifest where
  settings := .default
  templates := .ofList [("layout", .empty), ("page", manualPage)]

/-- That the entries compile on the empty graph shows that the description passes the check, and that
shows that they compile on every graph. -/
theorem manual_compiles :
    manual.validate = .ok () ∧
    ∀ g : Graph, g.Reachable → ∃ edges, (g.compile "page" manualPage).result = .ok edges := by
  have hentries : manual.templates.entries = [("layout", .empty), ("page", manualPage)] := by
    decide +kernel
  have hempty : ∀ e ∈ manual.templates.entries,
      ((Text.trim e.1).isEmpty = false ∧ ∀ spec ∈ e.2.imports, ¬ spec.BindsNothing) ∧
      (Graph.empty.compile e.1 e.2).fault = none := by
    rw [hentries]
    decide +kernel
  obtain ⟨hcompiles, -, -, hpasses⟩ := validate_agrees_with_compile manual
  have hvalid : manual.validate = .ok () := by
    refine hpasses (by rw [hentries]; exact List.cons_ne_nil _ _) fun name entry hentry => ?_
    obtain ⟨⟨hname, hbinds⟩, hfault⟩ := hempty (name, entry) hentry
    exact ⟨hname, hbinds, .empty, .empty, _, by rw [Compilation.result, hfault]⟩
  exact ⟨hvalid, hcompiles hvalid "page" manualPage (by rw [hentries]; decide)⟩

end TemplateDeps
