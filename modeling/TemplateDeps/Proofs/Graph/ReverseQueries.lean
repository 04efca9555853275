import TemplateDeps.Proofs.Graph.Answers

/-!
# Two ways to ask who points at a template

Who includes, imports or extends a template can be asked of the graph, one kind at a time, and who points at
it can be asked of the static view. The two were not made for each other. The static view takes every
literal target of every edge. The graph counts an import only if the template is its single target, and an
edge to a parent only if it is the only one of its template.

`Coherent.mem_dependentsOf_iff` says that these are all the differences: what the static view finds beyond the
three queries imports the template among several targets (`Graph.ImportsAmong`) or extends it among several
parents (`Graph.ExtendsAmong`). Both ways are put in terms of the declarations of the owner first
(`Coherent.mem_includersOf_iff`, `Coherent.mem_importersOf_iff`, `Coherent.mem_childrenOf_iff`,
`Coherent.pointsAt_iff`); from there on it is a question about the kind of one declaration.
-/

namespace TemplateDeps

/-- A member of a list that is no longer than one is all of it. -/
theorem eq_singleton_of_mem {α : Type} {l : List α} {a : α} (hone : l.length < 2) (h : a ∈ l) :
    l = [a] := by
  have hlength : l.length = 1 := Nat.le_antisymm (Nat.le_of_lt_succ hone) (List.length_pos_of_mem h)
  obtain ⟨b, rfl⟩ := List.length_eq_one_iff.1 hlength
  rw [List.mem_singleton.1 h]

/-- A declaration with a single target names nothing else. -/
theorem Declaration.target?_eq_some_iff {d : Declaration} {target : Target} :
    d.target? = some target ↔ d.targets = [target] := by
  unfold target?
  split
  · next single hsingle => rw [hsingle, Option.some.injEq, List.cons.injEq, and_iff_left rfl]
  · next hseveral => exact iff_of_false nofun fun heq => hseveral target heq

/-- To extend is to have a single target. -/
theorem Declaration.length_targets_of_extending {d : Declaration} (h : d.kind = .extending) :
    d.targets.length = 1 := by
  cases d with
  | extending target => rfl
  | including first others withContext ignoreMissing => cases h
  | importing first others withContext binding => cases h

/-! ## The queries of a node -/

namespace Template

variable {t : Template} {name : String}

/-- The edges of one kind have the declarations of that kind. -/
theorem map_declaration_edgesOf (t : Template) (kind : Kind) :
    (t.edgesOf kind).map (·.1.declaration) = t.declarations.filter (·.kind = kind) := by
  have hedges : (t.edgesOf kind).map (·.1) = t.edges.filter (·.declaration.kind = kind) := by
    rw [edgesOf, ← List.zipIdx_map_fst 0 t.edges, List.filter_map, List.zipIdx_map_fst]
    rfl
  calc (t.edgesOf kind).map (·.1.declaration)
      = ((t.edgesOf kind).map (·.1)).map (·.declaration) := List.map_map.symm
    _ = (t.edges.filter (·.declaration.kind = kind)).map (·.declaration) := by rw [hedges]
    _ = t.declarations.filter (·.kind = kind) := by rw [declarations, List.filter_map]; rfl

/-- A test of the edges of one kind looks at the declarations of that kind. -/
theorem any_edgesOf_iff (t : Template) (kind : Kind) (test : Declaration → Bool) :
    (t.edgesOf kind).any (fun edge => test edge.1.declaration) = true ↔
      ∃ d ∈ t.declarations, d.kind = kind ∧ test d = true := by
  have hany : (t.edgesOf kind).any (fun edge => test edge.1.declaration) =
      (t.declarations.filter (·.kind = kind)).any test := by
    rw [← map_declaration_edgesOf, List.any_map]
    rfl
  simp [hany]

theorem includes_eq_true_iff : t.includes name = true ↔
    ∃ d ∈ t.declarations, d.kind = .including ∧ .named name ∈ d.targets := by
  refine (t.any_edgesOf_iff .including (·.names name)).trans ?_
  simp only [Declaration.names_eq_true_iff]

theorem imports_eq_true_iff : t.imports name = true ↔
    ∃ d ∈ t.declarations, d.kind = .importing ∧ d.targets = [.named name] := by
  refine (t.any_edgesOf_iff .importing (·.target? = some (.named name))).trans ?_
  simp only [decide_eq_true_eq, Declaration.target?_eq_some_iff]

theorem extends?_eq_true_iff : t.extends? name = true ↔
    ∃ d, t.declarations.filter (·.kind = .extending) = [d] ∧ d.targets = [.named name] := by
  rw [← map_declaration_edgesOf, extends?, parent?]
  rcases t.edgesOf .extending with _ | ⟨⟨edge, id⟩, _ | ⟨second, rest⟩⟩
  · simp
  · simp [Declaration.target?_eq_some_iff]
  · simp

end Template

/-! ## The queries of a graph -/

namespace Graph

variable {g : Graph} {owner name : String}

/-- The templates that a test picks out, where the test looks at declarations only and picks out no template
without any. -/
theorem Coherent.mem_filter_iff (h : g.Coherent) (test : Template → Bool)
    (Test : List Declaration → Prop) (htest : ∀ t, test t = true ↔ Test t.declarations)
    (hnone : ¬ Test []) :
    owner ∈ (g.templates.filter test).map (·.name) ↔ Test (g.declarations owner) := by
  have hfound : owner ∈ (g.templates.filter test).map (·.name) ↔
      ∃ t, g.template? owner = some t ∧ Test t.declarations := by
    simp only [List.mem_map, List.mem_filter, h.template?_eq_some_iff, htest]
    exact exists_congr fun t => and_right_comm
  rw [hfound, declarations]
  cases g.template? owner with
  | none => simp [hnone]
  | some t => simp

/-- The includers of a template list it in an include. -/
theorem Coherent.mem_includersOf_iff (h : g.Coherent) :
    owner ∈ (g.includersOf name).map (·.name) ↔
      ∃ d ∈ g.declarations owner, d.kind = .including ∧ .named name ∈ d.targets :=
  h.mem_filter_iff (·.includes name) (fun ds => ∃ d ∈ ds, d.kind = .including ∧ .named name ∈ d.targets)
    (fun _ => Template.includes_eq_true_iff) (by simp)

/-- The importers of a template have it as the single target of an import. -/
theorem Coherent.mem_importersOf_iff (h : g.Coherent) :
    owner ∈ (g.importersOf name).map (·.name) ↔
      ∃ d ∈ g.declarations owner, d.kind = .importing ∧ d.targets = [.named name] :=
  h.mem_filter_iff (·.imports name) (fun ds => ∃ d ∈ ds, d.kind = .importing ∧ d.targets = [.named name])
    (fun _ => Template.imports_eq_true_iff) (by simp)

/-- The children of a template extend it and nothing else. -/
theorem Coherent.mem_childrenOf_iff (h : g.Coherent) :
    owner ∈ (g.childrenOf name).map (·.name) ↔
      ∃ d, (g.declarations owner).filter (·.kind = .extending) = [d] ∧ d.targets = [.named name] :=
  h.mem_filter_iff (·.extends? name)
    (fun ds => ∃ d, ds.filter (·.kind = .extending) = [d] ∧ d.targets = [.named name])
    (fun _ => Template.extends?_eq_true_iff) (by simp)

/-- An import of `owner` has several targets, and `name` is among them. -/
def ImportsAmong (g : Graph) (owner name : String) : Prop :=
  ∃ d ∈ g.declarations owner, d.kind = .importing ∧ 2 ≤ d.targets.length ∧ .named name ∈ d.targets

/-- The template `owner` extends several parents, and `name` is among them. -/
def ExtendsAmong (g : Graph) (owner name : String) : Prop :=
  2 ≤ ((g.declarations owner).filter (·.kind = .extending)).length ∧
    ∃ d ∈ g.declarations owner, d.kind = .extending ∧ .named name ∈ d.targets

/-- Who points at a template includes it, imports it or extends it, as the queries of the graph say, or is
passed over by these queries because it has several targets for an import or several parents. -/
theorem Coherent.mem_dependentsOf_iff (h : g.Coherent) :
    owner ∈ g.staticView.dependentsOf name ↔
      owner ∈ (g.includersOf name).map (·.name) ∨ owner ∈ (g.importersOf name).map (·.name) ∨
      owner ∈ (g.childrenOf name).map (·.name) ∨ g.ImportsAmong owner name ∨
      g.ExtendsAmong owner name := by
  rw [StaticView.mem_dependentsOf_iff, StaticView.mem_sources_staticView_iff, h.pointsAt_iff,
    h.mem_includersOf_iff, h.mem_importersOf_iff, h.mem_childrenOf_iff]
  constructor
  · rintro ⟨d, hd, htarget⟩
    match hkind : d.kind with
    | .including => exact .inl ⟨d, hd, hkind, htarget⟩
    | .importing =>
      rcases Nat.lt_or_ge d.targets.length 2 with hone | hseveral
      · exact .inr (.inl ⟨d, hd, hkind, eq_singleton_of_mem hone htarget⟩)
      · exact .inr (.inr (.inr (.inl ⟨d, hd, hkind, hseveral, htarget⟩)))
    | .extending =>
      have hparent : d ∈ (g.declarations owner).filter (·.kind = .extending) :=
        List.mem_filter.2 ⟨hd, decide_eq_true hkind⟩
      have hsingle : d.targets = [.named name] :=
        eq_singleton_of_mem (by rw [Declaration.length_targets_of_extending hkind]; decide) htarget
      rcases Nat.lt_or_ge ((g.declarations owner).filter (·.kind = .extending)).length 2 with
        hone | hseveral
      · exact .inr (.inr (.inl ⟨d, eq_singleton_of_mem hone hparent, hsingle⟩))
      · exact .inr (.inr (.inr (.inr ⟨hseveral, d, hd, hkind, htarget⟩)))
  · rintro (⟨d, hd, -, htarget⟩ | ⟨d, hd, -, hsingle⟩ | ⟨d, honly, hsingle⟩ | ⟨d, hd, -, -, htarget⟩ |
      ⟨-, d, hd, -, htarget⟩)
    · exact ⟨d, hd, htarget⟩
    · exact ⟨d, hd, by rw [hsingle]; exact List.mem_singleton_self _⟩
    · have hd : d ∈ (g.declarations owner).filter (·.kind = .extending) := by
        rw [honly]
        exact List.mem_singleton_self d
      exact ⟨d, (List.mem_filter.1 hd).1, by rw [hsingle]; exact List.mem_singleton_self _⟩
    · exact ⟨d, hd, htarget⟩
    · exact ⟨d, hd, htarget⟩

end Graph

end TemplateDeps
