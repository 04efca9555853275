import TemplateDeps.Graph.StaticView

/-!
# The arcs of a static view

The static view of a graph is built by three nested loops, over the templates, their edges and the
targets of an edge, and each literal target puts one kind of edge into one arc. `StaticView.Holds` says
that a view has an arc between two names with a kind of edge behind it. Each loop adds to this what its
part of the graph declares, so that in the end the view holds exactly what some edge of the graph
lists (`holds_staticView_iff`).

The look-ups by target follow: `mem_sources_iff` and `mem_dependentsOf_iff` say that they give the
owners of the arcs into a name. A name that is no node has none.
-/

namespace TemplateDeps

namespace Graph

/-- A template named `owner` has an edge of the given kind that lists `target` literally. -/
def Lists (g : Graph) (owner target : String) (kind : Kind) : Prop :=
  ∃ t ∈ g.templates, t.name = owner ∧
    ∃ e ∈ t.edges, e.declaration.kind = kind ∧ .named target ∈ e.declaration.targets

/-- A template named `owner` has an edge that lists `target` literally. -/
def PointsAt (g : Graph) (owner target : String) : Prop :=
  ∃ t ∈ g.templates, t.name = owner ∧ ∃ e ∈ t.edges, .named target ∈ e.declaration.targets

/-- A template points at what it lists with some kind of edge. -/
theorem pointsAt_iff_lists {g : Graph} {owner target : String} :
    g.PointsAt owner target ↔ ∃ kind, g.Lists owner target kind := by
  constructor
  · rintro ⟨t, ht, hname, e, he, hlists⟩
    exact ⟨e.declaration.kind, t, ht, hname, e, he, rfl, hlists⟩
  · rintro ⟨kind, t, ht, hname, e, he, -, hlists⟩
    exact ⟨t, ht, hname, e, he, hlists⟩

end Graph

/-! ## One arc -/

namespace Arc

/-- Some arc of the list leads from `owner` to `target` and has an edge of the given kind behind it. -/
def Between (arcs : List Arc) (owner target : String) (kind : Kind) : Prop :=
  ∃ a ∈ arcs, a.joins owner target = true ∧ kind ∈ a.kinds

/-- The arc between two names is the first of the list or one of the others. -/
theorem between_cons_iff {a : Arc} {rest : List Arc} {o n : String} {k : Kind} :
    Between (a :: rest) o n k ↔ (a.owner = o ∧ a.target = n ∧ k ∈ a.kinds) ∨ Between rest o n k := by
  simp [Between, and_assoc]

/-- One kind is added to those of an arc. -/
theorem mem_kinds_addKind {a : Arc} {kind k : Kind} :
    k ∈ (a.addKind kind).kinds ↔ k ∈ a.kinds ∨ kind = k := by
  unfold addKind
  split
  · next hold =>
    have hmem : kind ∈ a.kinds := by simpa using hold
    constructor
    · exact .inl
    · rintro (hk | rfl)
      · exact hk
      · exact hmem
  · simp [kinds, or_assoc, eq_comm]

/-- Putting in an edge adds its kind between its ends and nothing else. -/
theorem between_put_iff {arcs : List Arc} {owner target o n : String} {kind k : Kind} :
    Between (put owner target kind arcs) o n k ↔
      Between arcs o n k ∨ (owner = o ∧ target = n ∧ kind = k) := by
  induction arcs with
  | nil =>
    rw [put, between_cons_iff, or_comm]
    simp only [kinds, List.mem_singleton, eq_comm (a := k)]
  | cons a rest ih =>
    rw [put]
    split
    · next hjoins =>
      -- The arc is there and gets one more kind.
      obtain ⟨rfl, rfl⟩ := joins_eq_true_iff.1 hjoins
      rw [between_cons_iff, between_cons_iff, owner_addKind, target_addKind, mem_kinds_addKind]
      constructor
      · rintro (⟨ho, hn, hk | hk⟩ | hrest)
        · exact .inl (.inl ⟨ho, hn, hk⟩)
        · exact .inr ⟨ho, hn, hk⟩
        · exact .inl (.inr hrest)
      · rintro ((⟨ho, hn, hk⟩ | hrest) | ⟨ho, hn, hk⟩)
        · exact .inl ⟨ho, hn, .inl hk⟩
        · exact .inr hrest
        · exact .inl ⟨ho, hn, .inr hk⟩
    · rw [between_cons_iff, between_cons_iff, ih, or_assoc]

end Arc

/-! ## The loops -/

namespace StaticView

variable {o n : String} {k : Kind}

/-- The view has an arc from `owner` to `target` with an edge of the given kind behind it. -/
def Holds (v : StaticView) (owner target : String) (kind : Kind) : Prop :=
  Arc.Between v.arcs owner target kind

/-- A loop adds what its rounds add. -/
theorem holds_foldl_iff {α : Type} {f : StaticView → α → StaticView} {Adds : α → Prop}
    (hf : ∀ v a, (f v a).Holds o n k ↔ v.Holds o n k ∨ Adds a) (l : List α) (v : StaticView) :
    (l.foldl f v).Holds o n k ↔ v.Holds o n k ∨ ∃ a ∈ l, Adds a := by
  induction l generalizing v with
  | nil => simp
  | cons a rest ih =>
    rw [List.foldl_cons, ih, hf, or_assoc]
    simp

/-- A target adds an arc if it is literal. -/
theorem holds_addTarget_iff (owner : String) (kind : Kind) (v : StaticView) (target : Target) :
    (v.addTarget owner kind target).Holds o n k ↔
      v.Holds o n k ∨ (owner = o ∧ target = .named n ∧ kind = k) := by
  cases target with
  | named name =>
    rw [Target.named.injEq]
    exact Arc.between_put_iff
  | dynamic => simp [addTarget, Target.name?]

/-- An edge adds its kind to the arcs to its literal targets. -/
theorem holds_addEdge_iff (owner : String) (v : StaticView) (e : Edge) :
    (v.addEdge owner e).Holds o n k ↔
      v.Holds o n k ∨ (owner = o ∧ e.declaration.kind = k ∧ .named n ∈ e.declaration.targets) := by
  rw [addEdge, holds_foldl_iff (holds_addTarget_iff owner e.declaration.kind)]
  refine or_congr_right ?_
  constructor
  · rintro ⟨target, hmem, ho, rfl, hk⟩
    exact ⟨ho, hk, hmem⟩
  · rintro ⟨ho, hk, hmem⟩
    exact ⟨_, hmem, ho, rfl, hk⟩

/-- A template adds what its edges list. -/
theorem holds_addTemplate_iff (v : StaticView) (t : Template) :
    (v.addTemplate t).Holds o n k ↔
      v.Holds o n k ∨ (t.name = o ∧
        ∃ e ∈ t.edges, e.declaration.kind = k ∧ .named n ∈ e.declaration.targets) := by
  rw [addTemplate, holds_foldl_iff (holds_addEdge_iff t.name)]
  refine or_congr_right ?_
  constructor
  · rintro ⟨e, he, ho, hlists⟩
    exact ⟨ho, e, he, hlists⟩
  · rintro ⟨ho, e, he, hlists⟩
    exact ⟨e, he, ho, hlists⟩

/-- The view of a graph holds what the edges of the graph list. -/
theorem holds_staticView_iff {g : Graph} : g.staticView.Holds o n k ↔ g.Lists o n k := by
  rw [Graph.staticView, holds_foldl_iff holds_addTemplate_iff]
  simp [Holds, Arc.Between, empty, Graph.Lists]

/-! ## Who points at a name -/

/-- The sources of a name are the owners of the arcs into it. -/
theorem mem_sources_iff {v : StaticView} {owner name : String} :
    owner ∈ v.sources name ↔ ∃ kind, v.Holds owner name kind := by
  simp only [sources, List.mem_map, List.mem_filter, decide_eq_true_eq, Holds, Arc.Between,
    Arc.joins_eq_true_iff]
  constructor
  · rintro ⟨a, ⟨ha, htarget⟩, howner⟩
    exact ⟨a.first, a, ha, ⟨howner, htarget⟩, List.mem_cons_self⟩
  · rintro ⟨kind, a, ha, ⟨howner, htarget⟩, -⟩
    exact ⟨a, ⟨ha, htarget⟩, howner⟩

/-- The dependents of a name are its sources: no arc leads into a name that is no node. -/
theorem mem_dependentsOf_iff {v : StaticView} {owner name : String} :
    owner ∈ v.dependentsOf name ↔ owner ∈ v.sources name := by
  unfold dependentsOf
  split
  · exact List.mem_mergeSort
  · next hnode =>
    constructor
    · exact fun hnil => absurd hnil List.not_mem_nil
    · intro hmem
      obtain ⟨a, ha, -⟩ := List.mem_map.1 hmem
      obtain ⟨harc, htarget⟩ := List.mem_filter.1 ha
      have hends := v.closed a harc
      simp_all

/-- In the view of a graph, the sources of a name are the templates that point at it. -/
theorem mem_sources_staticView_iff {g : Graph} {owner name : String} :
    owner ∈ g.staticView.sources name ↔ g.PointsAt owner name := by
  rw [mem_sources_iff, Graph.pointsAt_iff_lists]
  exact exists_congr fun _ => holds_staticView_iff

end StaticView

end TemplateDeps
