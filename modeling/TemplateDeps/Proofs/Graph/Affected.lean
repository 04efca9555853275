import TemplateDeps.Proofs.Graph.Arcs
import TemplateDeps.Proofs.Text.ByteOrder
import Mathlib.Logic.Relation

/-!
# The templates affected by a change

`StaticView.affectedBy` searches against the arcs from a name, with a stack of names to go on from and
a list of the names visited so far. The search is exact: what it visits are the names from which a
chain of arcs leads to the stack, besides those visited before.

* Soundness (`reaches_of_mem_visit`): nothing is visited but what leads to the stack.
* Completeness rests on two invariants. Every visited or stacked name is in the result
  (`mem_visit_of_mem`), and the result is closed under going against an arc (`visit_closed`), provided
  that the owners of the arcs into a visited name are visited or on the stack. A chain into a closed
  list starts in it.

`mem_affectedBy_iff` puts this together with what the view of a graph holds, and
`affectedBy_staticView` adds the order of the answer.
-/

namespace TemplateDeps

open Relation

namespace StaticView

variable {v : StaticView}

/-- An arc of the view leads from `owner` to `target`. -/
def Joins (v : StaticView) (owner target : String) : Prop :=
  owner ∈ v.sources target

/-- Whatever the search visits was visited before or leads to the stack. -/
theorem reaches_of_mem_visit {stack visited : List String} {name : String}
    (h : name ∈ v.visit stack visited) :
    name ∈ visited ∨ ∃ s ∈ stack, ReflTransGen v.Joins name s := by
  induction stack, visited using visit.induct v with
  | case1 visited => exact .inl (by simpa [visit] using h)
  | case2 current stack visited hold ih =>
    rw [visit, if_pos hold] at h
    rcases ih h with hvisited | ⟨s, hs, hreach⟩
    · exact .inl hvisited
    · exact .inr ⟨s, List.mem_cons_of_mem _ hs, hreach⟩
  | case3 current stack visited hnew ih =>
    rw [visit, if_neg hnew] at h
    -- What leads to a source of `current` leads to `current` over one more arc.
    rcases ih h with hvisited | ⟨s, hs, hreach⟩
    · rcases List.mem_cons.1 hvisited with rfl | hvisited
      · exact .inr ⟨name, List.mem_cons_self, .refl⟩
      · exact .inl hvisited
    · rcases List.mem_append.1 hs with hsource | hs
      · exact .inr ⟨current, List.mem_cons_self, hreach.tail hsource⟩
      · exact .inr ⟨s, List.mem_cons_of_mem _ hs, hreach⟩

/-- The search keeps what it visited and visits the whole stack. -/
theorem mem_visit_of_mem {stack visited : List String} {name : String}
    (h : name ∈ visited ∨ name ∈ stack) : name ∈ v.visit stack visited := by
  induction stack, visited using visit.induct v with
  | case1 visited => simpa [visit] using h
  | case2 current stack visited hold ih =>
    rw [visit, if_pos hold]
    refine ih ?_
    rcases h with hvisited | hstack
    · exact .inl hvisited
    · rcases List.mem_cons.1 hstack with rfl | hstack
      · exact .inl (by simpa using hold)
      · exact .inr hstack
  | case3 current stack visited hnew ih =>
    rw [visit, if_neg hnew]
    refine ih ?_
    rcases h with hvisited | hstack
    · exact .inl (List.mem_cons_of_mem _ hvisited)
    · rcases List.mem_cons.1 hstack with rfl | hstack
      · exact .inl List.mem_cons_self
      · exact .inr (List.mem_append_right _ hstack)

/-- Every source of a visited name is visited or waits on the stack. -/
def Pending (v : StaticView) (stack visited : List String) : Prop :=
  ∀ target ∈ visited, ∀ owner ∈ v.sources target, owner ∈ visited ∨ owner ∈ stack

/-- The search ends with a list that contains every source of its members. -/
theorem visit_closed {stack visited : List String} (h : v.Pending stack visited)
    {owner target : String} (hjoins : v.Joins owner target) (htarget : target ∈ v.visit stack visited) :
    owner ∈ v.visit stack visited := by
  induction stack, visited using visit.induct v with
  | case1 visited =>
    -- Nothing waits on the empty stack.
    rw [visit] at htarget ⊢
    exact (h target htarget owner hjoins).resolve_right List.not_mem_nil
  | case2 current stack visited hold ih =>
    rw [visit, if_pos hold] at htarget ⊢
    refine ih ?_ htarget
    intro t ht o ho
    rcases h t ht o ho with hvisited | hstack
    · exact .inl hvisited
    · rcases List.mem_cons.1 hstack with rfl | hstack
      · exact .inl (by simpa using hold)
      · exact .inr hstack
  | case3 current stack visited hnew ih =>
    rw [visit, if_neg hnew] at htarget ⊢
    refine ih ?_ htarget
    intro t ht o ho
    rcases List.mem_cons.1 ht with rfl | ht
    · -- The sources of `current` were just put on the stack.
      exact .inr (List.mem_append_left _ ho)
    · rcases h t ht o ho with hvisited | hstack
      · exact .inl (List.mem_cons_of_mem _ hvisited)
      · rcases List.mem_cons.1 hstack with rfl | hstack
        · exact .inl List.mem_cons_self
        · exact .inr (List.mem_append_right _ hstack)

/-- From the sources of a name the search visits all that leads to the name. -/
theorem mem_visit_sources_iff {stack : List String} {name owner : String}
    (hstack : ∀ s, s ∈ stack ↔ v.Joins s name) :
    owner ∈ v.visit stack [] ↔ TransGen v.Joins owner name := by
  constructor
  · intro h
    rcases reaches_of_mem_visit h with hnil | ⟨s, hs, hreach⟩
    · exact absurd hnil List.not_mem_nil
    · exact TransGen.tail' hreach ((hstack s).1 hs)
  · intro h
    induction h using TransGen.head_induction_on with
    | single hjoins => exact mem_visit_of_mem (.inr ((hstack _).2 hjoins))
    | head hjoins _ ih => exact visit_closed (fun t ht => absurd ht List.not_mem_nil) hjoins ih

end StaticView

namespace Graph

/-- A template from which a chain of edges starts is declared. -/
theorem mem_names_of_chain {g : Graph} {name t : String} (h : TransGen g.PointsAt t name) :
    t ∈ g.names := by
  obtain ⟨_, ⟨u, hu, hname, -⟩, -⟩ := TransGen.head'_iff.1 h
  exact List.mem_map.2 ⟨u, hu, hname⟩

/-- Affected are the templates, other than the name itself, from which a chain of at least one edge with
literal targets leads to the name. -/
theorem mem_affectedBy_iff {g : Graph} {name t : String} :
    t ∈ g.staticView.affectedBy name ↔ t ∈ g.names ∧ t ≠ name ∧ TransGen g.PointsAt t name := by
  have hjoins : g.staticView.Joins = g.PointsAt := by
    funext owner target
    exact propext StaticView.mem_sources_staticView_iff
  have hvisit : t ∈ g.staticView.visit (g.staticView.dependentsOf name) [] ↔
      TransGen g.PointsAt t name := by
    rw [← hjoins]
    exact StaticView.mem_visit_sources_iff fun s => StaticView.mem_dependentsOf_iff
  rw [StaticView.affectedBy, mem_sortedNames, List.mem_filter, hvisit, decide_eq_true_eq]
  constructor
  · rintro ⟨hchain, hne⟩
    exact ⟨mem_names_of_chain hchain, hne, hchain⟩
  · rintro ⟨-, hne, hchain⟩
    exact ⟨hchain, hne⟩

/-- The affected templates are those from which a chain of at least one edge with literal targets leads
to the name, without the name itself. They are listed in increasing order of their bytes, each once. -/
theorem affectedBy_staticView (g : Graph) (name : String) :
    (g.staticView.affectedBy name).Pairwise (fun a b => Text.bytes a < Text.bytes b) ∧
    ∀ t, t ∈ g.staticView.affectedBy name ↔
      t ∈ g.names ∧ t ≠ name ∧ TransGen g.PointsAt t name := by
  refine ⟨?_, fun _ => mem_affectedBy_iff⟩
  exact (pairwise_sortedNames _).imp fun h => Text.lt_iff_bytes_lt.1 h

end Graph

end TemplateDeps
