import TemplateDeps.Proofs.Graph.Affected
import TemplateDeps.Proofs.Graph.Views
import Mathlib.Data.List.Sort

/-!
# The answers of a static view

A static view answers three questions about a name: which templates point at it, what it points at, and
which templates go stale with it. Each answer is a strictly increasing list, since between two names there
is at most one arc and the arc has each kind once (`pairwise_dependentsOf`, `pairwise_dependenciesOf`,
`affectedBy_staticView`). A strictly increasing list is determined by its members, and these are read off
what the edges of the graph list. So neither the order of the templates nor that of their edges matters:
graphs whose edges list the same give the same answers (`Graph.answers_eq`).

The first two questions are asked in opposite directions, and `Graph.dependencies_dual` says that the answers
go together: what a template points at is listed with every kind of edge that leads there, and it is pointed
at by the templates that list it.
-/

namespace TemplateDeps

open Relation

/-- Sorting a list without repeats makes it increase strictly. -/
theorem pairwise_mergeSort_of_nodup {α : Type} {le : α → α → Bool} {lt : α → α → Prop}
    (htrans : ∀ a b c, le a b = true → le b c = true → le a c = true)
    (htotal : ∀ a b, (le a b || le b a) = true) (hlt : ∀ a b, le a b = true → a ≠ b → lt a b)
    {l : List α} (h : l.Nodup) : (l.mergeSort le).Pairwise lt := by
  have hsorted := List.pairwise_mergeSort htrans htotal l
  have hdistinct : (l.mergeSort le).Pairwise (· ≠ ·) := (List.mergeSort_perm l le).nodup_iff.2 h
  exact hsorted.imp₂ hlt hdistinct

/-- What holds of the empty view and is kept when a name or an edge is added holds of the view of every
graph. -/
theorem Graph.staticView_induction {motive : StaticView → Prop} (empty : motive .empty)
    (addNode : ∀ v name, motive v → motive (v.addNode name))
    (addArc : ∀ v owner target kind, motive v → motive (v.addArc owner target kind)) (g : Graph) :
    motive g.staticView := by
  have htarget : ∀ (owner : String) (kind : Kind) (v : StaticView) (target : Target), motive v →
      motive (v.addTarget owner kind target) := by
    intro owner kind v target hv
    cases target with
    | named name => exact addArc v owner name kind hv
    | dynamic => exact hv
  -- The loops over the targets, the edges and the templates are one inside the other.
  refine List.foldlRecOn g.templates StaticView.addTemplate empty fun v hv t _ => ?_
  refine List.foldlRecOn t.edges (StaticView.addEdge t.name) (addNode v t.name hv) fun w hw e _ => ?_
  exact List.foldlRecOn e.declaration.targets _ hw fun u hu target _ => htarget _ _ u target hu

/-! ## Kinds behind an arc -/

/-- One more kind is no repeat. -/
theorem Arc.nodup_kinds_addKind {a : Arc} (h : a.kinds.Nodup) (kind : Kind) :
    (a.addKind kind).kinds.Nodup := by
  unfold addKind
  split
  · exact h
  · next hnew =>
    have hnew : kind ∉ a.kinds := by simpa using hnew
    show (a.kinds ++ [kind]).Nodup
    rw [List.nodup_append]
    refine ⟨h, List.nodup_singleton kind, fun k hk k' hk' heq => ?_⟩
    rw [List.mem_singleton] at hk'
    exact hnew (hk' ▸ heq ▸ hk)

/-- Putting in an edge keeps the kinds behind each arc apart. -/
theorem Arc.nodup_kinds_put {arcs : List Arc} (h : ∀ a ∈ arcs, a.kinds.Nodup) (owner target : String)
    (kind : Kind) : ∀ a ∈ put owner target kind arcs, a.kinds.Nodup := by
  induction arcs with
  | nil =>
    intro a ha
    obtain rfl := List.mem_singleton.1 ha
    exact List.nodup_singleton kind
  | cons b rest ih =>
    obtain ⟨hb, hrest⟩ := List.forall_mem_cons.1 h
    rw [put]
    split
    · exact List.forall_mem_cons.2 ⟨nodup_kinds_addKind hb kind, hrest⟩
    · exact List.forall_mem_cons.2 ⟨hb, ih hrest⟩

/-- In the view of a graph each arc has a kind of edge only once. -/
theorem Graph.nodup_kinds (g : Graph) {a : Arc} (ha : a ∈ g.staticView.arcs) : a.kinds.Nodup := by
  have hall : ∀ a ∈ g.staticView.arcs, a.kinds.Nodup :=
    g.staticView_induction (motive := fun v => ∀ a ∈ v.arcs, a.kinds.Nodup)
      (fun _ ha => absurd ha List.not_mem_nil) (fun _ _ hv => hv)
      fun _ owner target kind hv => Arc.nodup_kinds_put hv owner target kind
  exact hall a ha

namespace StaticView

variable {v : StaticView} {g : Graph} {name : String}

/-! ## The order of the answers -/

/-- No template points at a name twice. -/
theorem nodup_sources : (v.sources name).Nodup := by
  rw [sources, List.nodup_iff_pairwise_ne, List.pairwise_map, List.pairwise_filter]
  refine v.apart.imp fun hapart ha hb howner => hapart ⟨howner, ?_⟩
  rw [of_decide_eq_true ha, of_decide_eq_true hb]

/-- The templates that point at a name are listed in increasing order, each once. -/
theorem pairwise_dependentsOf (v : StaticView) (name : String) :
    (v.dependentsOf name).Pairwise (· < ·) := by
  unfold dependentsOf
  split
  · refine pairwise_mergeSort_of_nodup ?_ ?_ ?_ nodup_sources
    · intro a b c hab hbc
      exact decide_eq_true (String.le_trans (of_decide_eq_true hab) (of_decide_eq_true hbc))
    · intro a b
      rw [Bool.or_eq_true, decide_eq_true_eq, decide_eq_true_eq]
      exact String.le_total a b
    · intro a b hab hne
      exact (Std.le_iff_lt_or_eq.1 (of_decide_eq_true hab)).resolve_right hne
  · exact .nil

/-- The order of dependencies, by name and then by kind. -/
def Precedes (a b : String × Kind) : Prop :=
  a.1 < b.1 ∨ a.1 = b.1 ∧ a.2.rank < b.2.rank

instance : Std.Irrefl Precedes where
  irrefl _ h := h.elim (String.lt_irrefl _) fun h => Nat.lt_irrefl _ h.2

instance : Std.Antisymm Precedes where
  antisymm a b hab hba := by
    unfold Precedes at hab hba
    rcases hab with hab | ⟨hname, hab⟩
    · rcases hba with hba | ⟨hname, -⟩
      · exact absurd (String.lt_trans hab hba) (String.lt_irrefl _)
      · exact absurd (hname ▸ hab) (String.lt_irrefl _)
    · rcases hba with hba | ⟨-, hba⟩
      · exact absurd (hname ▸ hba) (String.lt_irrefl _)
      · exact absurd (Nat.lt_trans hab hba) (Nat.lt_irrefl _)

/-- Listed before another dependency is what precedes it, or is the same. -/
theorem listedBefore_eq_true_iff {a b : String × Kind} :
    listedBefore a b = true ↔ Precedes a b ∨ a = b := by
  have hrank : a.2.rank = b.2.rank ↔ a.2 = b.2 := by
    cases a.2 <;> cases b.2 <;> simp [Kind.rank]
  simp only [listedBefore, Precedes, Bool.or_eq_true, Bool.and_eq_true, decide_eq_true_eq,
    Nat.le_iff_lt_or_eq, hrank, Prod.ext_iff]
  tauto

/-- The order of dependencies is transitive. -/
theorem listedBefore_trans {a b c : String × Kind} (hab : listedBefore a b = true)
    (hbc : listedBefore b c = true) : listedBefore a c = true := by
  simp only [listedBefore, Bool.or_eq_true, Bool.and_eq_true, decide_eq_true_eq] at hab hbc ⊢
  rcases hab with hab | ⟨hab, hrank⟩
  · rcases hbc with hbc | ⟨hbc, -⟩
    · exact .inl (String.lt_trans hab hbc)
    · exact .inl (hbc ▸ hab)
  · rcases hbc with hbc | ⟨hbc, hrank'⟩
    · exact .inl (hab ▸ hbc)
    · exact .inr ⟨hab.trans hbc, Nat.le_trans hrank hrank'⟩

/-- Of two dependencies one is listed before the other. -/
theorem listedBefore_total (a b : String × Kind) : (listedBefore a b || listedBefore b a) = true := by
  simp only [listedBefore, Bool.or_eq_true, Bool.and_eq_true, decide_eq_true_eq]
  by_cases hname : a.1 = b.1
  · rcases Nat.le_total a.2.rank b.2.rank with hrank | hrank
    · exact .inl (.inr ⟨hname, hrank⟩)
    · exact .inr (.inr ⟨hname.symm, hrank⟩)
  · rcases String.le_total a.1 b.1 with hle | hle
    · exact .inl (.inl ((Std.le_iff_lt_or_eq.1 hle).resolve_right hname))
    · exact .inr (.inl ((Std.le_iff_lt_or_eq.1 hle).resolve_right (Ne.symm hname)))

/-- What a template points at is listed by name and kind, each once. -/
theorem pairwise_dependenciesOf (g : Graph) (name : String) :
    (g.staticView.dependenciesOf name).Pairwise Precedes := by
  unfold dependenciesOf
  split
  · refine pairwise_mergeSort_of_nodup ?_ ?_ ?_ ?_
    · exact fun _ _ _ => listedBefore_trans
    · exact listedBefore_total
    · exact fun _ _ hab hne => (listedBefore_eq_true_iff.1 hab).resolve_right hne
    · rw [List.nodup_flatMap]
      constructor
      · intro a ha
        have hkinds : a.kinds.Nodup := g.nodup_kinds (List.mem_filter.1 ha).1
        exact List.Nodup.map (fun _ _ h => (Prod.mk.inj h).2) hkinds
      · rw [List.pairwise_filter]
        refine g.staticView.apart.imp fun hapart ha hb p hp hp' => ?_
        -- What is listed for both arcs would make them one.
        obtain ⟨_, -, rfl⟩ := List.mem_map.1 hp
        obtain ⟨_, -, heq⟩ := List.mem_map.1 hp'
        refine hapart ⟨?_, (Prod.mk.inj heq).1.symm⟩
        rw [of_decide_eq_true ha, of_decide_eq_true hb]
  · exact .nil

/-! ## What the answers contain -/

/-- A view lists as dependencies of a name the ends of the arcs from it, with the kinds of edges behind
them. -/
theorem mem_dependenciesOf_iff {target : String} {kind : Kind} :
    (target, kind) ∈ v.dependenciesOf name ↔ v.Holds name target kind := by
  simp only [Holds, Arc.Between, Arc.joins_eq_true_iff]
  unfold dependenciesOf
  split
  · simp only [List.mem_mergeSort, List.mem_flatMap, List.mem_filter, List.mem_map, Prod.mk.injEq,
      decide_eq_true_eq]
    constructor
    · rintro ⟨a, ⟨ha, howner⟩, k, hk, htarget, rfl⟩
      exact ⟨a, ha, ⟨howner, htarget⟩, hk⟩
    · rintro ⟨a, ha, ⟨howner, htarget⟩, hk⟩
      exact ⟨a, ⟨ha, howner⟩, kind, hk, htarget, rfl⟩
  · next hnode =>
    constructor
    · exact fun hnil => absurd hnil List.not_mem_nil
    · rintro ⟨a, ha, ⟨rfl, -⟩, -⟩
      exact absurd (v.closed a ha).1 (by simpa using hnode)

end StaticView

/-! ## Graphs that list the same -/

namespace Graph

/-- A template lists the literal targets of its declarations. -/
theorem Coherent.lists_iff {g : Graph} (h : g.Coherent) {owner target : String} {kind : Kind} :
    g.Lists owner target kind ↔
      ∃ d ∈ g.declarations owner, d.kind = kind ∧ .named target ∈ d.targets := by
  constructor
  · rintro ⟨t, ht, hname, e, he, hlists⟩
    refine ⟨e.declaration, ?_, hlists⟩
    rw [declarations, h.template?_eq_some_iff.2 ⟨ht, hname⟩]
    exact List.mem_map.2 ⟨e, he, rfl⟩
  · rintro ⟨d, hd, hlists⟩
    cases ht : g.template? owner with
    | none => simp [declarations, ht] at hd
    | some t =>
      rw [declarations, ht, Option.map_some, Option.getD_some, Template.declarations] at hd
      obtain ⟨e, he, rfl⟩ := List.mem_map.1 hd
      obtain ⟨hmem, hname⟩ := h.template?_eq_some_iff.1 ht
      exact ⟨t, hmem, hname, e, he, hlists⟩

/-- A template points at the literal targets of its declarations. -/
theorem Coherent.pointsAt_iff {g : Graph} (h : g.Coherent) {owner target : String} :
    g.PointsAt owner target ↔ ∃ d ∈ g.declarations owner, .named target ∈ d.targets := by
  simp only [pointsAt_iff_lists, h.lists_iff]
  constructor
  · rintro ⟨-, d, hd, -, htarget⟩
    exact ⟨d, hd, htarget⟩
  · rintro ⟨d, hd, htarget⟩
    exact ⟨d.kind, d, hd, rfl, htarget⟩

/-- The answers do not depend on the order in which templates and edges were declared: graphs whose edges
list the same targets give the same ones. -/
theorem answers_eq {g g' : Graph}
    (h : ∀ owner target kind, g.Lists owner target kind ↔ g'.Lists owner target kind) (name : String) :
    g.staticView.dependentsOf name = g'.staticView.dependentsOf name ∧
    g.staticView.dependenciesOf name = g'.staticView.dependenciesOf name ∧
    g.staticView.affectedBy name = g'.staticView.affectedBy name := by
  have hpoints : g.PointsAt = g'.PointsAt := by
    funext owner target
    rw [eq_iff_iff, pointsAt_iff_lists, pointsAt_iff_lists]
    exact exists_congr fun kind => h owner target kind
  refine ⟨?_, ?_, ?_⟩
  · refine (StaticView.pairwise_dependentsOf _ name).eq_of_mem_iff
      (StaticView.pairwise_dependentsOf _ name) fun owner => ?_
    rw [StaticView.mem_dependentsOf_iff, StaticView.mem_sources_staticView_iff, hpoints,
      StaticView.mem_dependentsOf_iff, StaticView.mem_sources_staticView_iff]
  · refine (StaticView.pairwise_dependenciesOf g name).eq_of_mem_iff
      (StaticView.pairwise_dependenciesOf g' name) fun ⟨target, kind⟩ => ?_
    rw [StaticView.mem_dependenciesOf_iff, StaticView.mem_dependenciesOf_iff,
      StaticView.holds_staticView_iff, StaticView.holds_staticView_iff]
    exact h name target kind
  · refine (pairwise_sortedNames _).eq_of_mem_iff (pairwise_sortedNames _) fun t => ?_
    show t ∈ g.staticView.affectedBy name ↔ t ∈ g'.staticView.affectedBy name
    rw [mem_affectedBy_iff, mem_affectedBy_iff]
    constructor
    · rintro ⟨-, hne, hchain⟩
      rw [hpoints] at hchain
      exact ⟨mem_names_of_chain hchain, hne, hchain⟩
    · rintro ⟨-, hne, hchain⟩
      rw [← hpoints] at hchain
      exact ⟨mem_names_of_chain hchain, hne, hchain⟩

/-! ## Both directions -/

/-- The view of a graph keeps every kind of edge, and answers alike in both directions. The dependencies of
`t` are the names that its edges list as literal targets, each with all kinds of these edges. They increase
strictly in the order of the encoded names and, for one name, of the kinds, and so do the dependents of `n` in
that of the names; hence there are no repeats. The dependents of `n` are the templates that have `n` among
their dependencies, by whatever kind of edge. -/
theorem dependencies_dual (g : Graph) (t n : String) :
    let v := g.staticView
    (∀ kind, (n, kind) ∈ v.dependenciesOf t ↔
      ∃ owner ∈ g.templates, owner.name = t ∧
        ∃ e ∈ owner.edges, e.declaration.kind = kind ∧ .named n ∈ e.declaration.targets) ∧
    (v.dependenciesOf t).Pairwise (fun a b =>
      Text.bytes a.1 < Text.bytes b.1 ∨ a.1 = b.1 ∧ a.2.rank < b.2.rank) ∧
    (v.dependenciesOf t).Nodup ∧
    (v.dependentsOf n).Pairwise (fun a b => Text.bytes a < Text.bytes b) ∧
    (v.dependentsOf n).Nodup ∧
    (t ∈ v.dependentsOf n ↔ ∃ kind, (n, kind) ∈ v.dependenciesOf t) := by
  intro v
  have hlists : ∀ kind, (n, kind) ∈ v.dependenciesOf t ↔ g.Lists t n kind := fun kind =>
    StaticView.mem_dependenciesOf_iff.trans StaticView.holds_staticView_iff
  have hdependencies := StaticView.pairwise_dependenciesOf g t
  have hdependents := v.pairwise_dependentsOf n
  refine ⟨hlists, ?_, hdependencies.nodup, ?_, hdependents.nodup, ?_⟩
  · exact hdependencies.imp fun hprecedes => hprecedes.imp_left Text.lt_iff_bytes_lt.1
  · exact hdependents.imp Text.lt_iff_bytes_lt.1
  · rw [StaticView.mem_dependentsOf_iff, StaticView.mem_sources_staticView_iff, pointsAt_iff_lists]
    exact exists_congr fun kind => (hlists kind).symm

end Graph

end TemplateDeps
