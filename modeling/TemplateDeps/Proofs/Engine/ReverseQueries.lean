import TemplateDeps.Proofs.Engine.Described
import TemplateDeps.Proofs.Graph.ReverseQueries

/-!
# Who points at a template of an engine

Two paths lead from a name to the templates that point at it: three queries of the graph, one for each kind
of edge, and the static view. `dependentsOf_agrees` says where they part. In a graph of any origin they do so
at an import with several targets and at a template with several parents. A manifest cannot describe
either: an import has one target there (`EdgeSpec.length_targets_of_importing`), and an entry has one
parent at most (`Entry.eq_extending_of_mem`). So in the graph of an engine the paths agree
(`Graph.Described.not_importsAmong`, `Graph.Described.not_extendsAmong`).
-/

namespace TemplateDeps

/-- A list without repeats all of whose members are equal has no second one. -/
theorem length_lt_two_of_nodup {α : Type} {l : List α} (hnodup : l.Nodup)
    (hsame : ∀ a ∈ l, ∀ b ∈ l, a = b) : l.length < 2 := by
  match l with
  | [] => exact Nat.zero_lt_two
  | [_] => exact Nat.one_lt_two
  | a :: b :: rest =>
    obtain ⟨hfirst, -⟩ := List.nodup_cons.1 hnodup
    have hequal : a = b := hsame a List.mem_cons_self b (List.mem_cons_of_mem a List.mem_cons_self)
    exact absurd (hequal ▸ List.mem_cons_self) hfirst

/-! ## What an entry can describe -/

namespace EdgeSpec

variable {owner : String} {spec : EdgeSpec} {d : Declaration}

/-- An edge is declared to be of the kind in which it is described. -/
theorem kind_declaration? (h : spec.declaration? owner = some d) : d.kind = spec.attributes.1 :=
  congrArg (·.1) (attributes_declaration? h)

/-- An import is described with one target, and declared with no more. -/
theorem length_targets_of_importing (h : spec.declaration? owner = some d) (hkind : d.kind = .importing) :
    d.targets.length < 2 := by
  rw [kind_declaration? h] at hkind
  rw [targets_declaration? h, List.length_map, candidates]
  cases spec with
  | importing library => exact Nat.lt_succ_of_le (List.length_filterMap_le _ _)
  | extending raw => cases hkind
  | including fragment => cases hkind

end EdgeSpec

/-- An edge that extends is the one to the parent of the entry. -/
theorem Entry.eq_extending_of_mem {entry : Entry} {spec : EdgeSpec} (hspec : spec ∈ entry.edges)
    (hkind : spec.attributes.1 = .extending) : ∃ raw, entry.parent = some raw ∧ spec = .extending raw := by
  simp only [edges, List.mem_append, List.mem_map, Option.mem_toList] at hspec
  rcases hspec with (⟨raw, hparent, rfl⟩ | ⟨fragment, -, rfl⟩) | ⟨library, -, rfl⟩
  · exact ⟨raw, hparent, rfl⟩
  · cases hkind
  · cases hkind

namespace Graph.Described

variable {m : Manifest} {g : Graph}

/-- In a described graph no import has several targets. -/
theorem not_importsAmong (h : g.Described m) (owner name : String) : ¬ g.ImportsAmong owner name := by
  rintro ⟨d, hd, hkind, hseveral, -⟩
  obtain ⟨entry, -, spec, -, hdeclares⟩ := h.exists_spec hd
  exact absurd (EdgeSpec.length_targets_of_importing hdeclares hkind) (Nat.not_lt.2 hseveral)

/-- In a described graph no template has several parents. -/
theorem not_extendsAmong (h : g.Described m) (owner name : String) : ¬ g.ExtendsAmong owner name := by
  rintro ⟨hseveral, -⟩
  refine absurd (length_lt_two_of_nodup ?_ ?_) (Nat.not_lt.2 hseveral)
  · exact (h.reachable.nodup_declarations owner).filter _
  · -- Both declarations are that of the edge to the parent of one and the same entry.
    have hparent : ∀ d ∈ (g.declarations owner).filter (·.kind = .extending),
        ∃ entry raw, m.get? owner = some entry ∧ entry.parent = some raw ∧
          (EdgeSpec.extending raw).declaration? owner = some d := by
      intro d hd
      obtain ⟨hmem, hkind⟩ := List.mem_filter.1 hd
      obtain ⟨entry, hentry, spec, hspec, hdeclares⟩ := h.exists_spec hmem
      have hextends := (EdgeSpec.kind_declaration? hdeclares).symm.trans (of_decide_eq_true hkind)
      obtain ⟨raw, hraw, rfl⟩ := Entry.eq_extending_of_mem hspec hextends
      exact ⟨entry, raw, hentry, hraw, hdeclares⟩
    intro d hd d' hd'
    obtain ⟨entry, raw, hentry, hraw, hdeclares⟩ := hparent d hd
    obtain ⟨entry', raw', hentry', hraw', hdeclares'⟩ := hparent d' hd'
    obtain rfl : entry = entry' := Option.some.inj (hentry.symm.trans hentry')
    obtain rfl : raw = raw' := Option.some.inj (hraw.symm.trans hraw')
    exact Option.some.inj (hdeclares.symm.trans hdeclares')

end Graph.Described

/-! ## The paths compared -/

namespace Engine

/-- The static view and the queries of the graph agree on who points at a template, up to edges that the
queries pass over. Whatever operations led to a graph, a template is among the dependents of a name exactly
if it includes, imports or extends it as the queries say, or imports it among several targets, or extends it
and has several parents. If an engine works on the graph, and nothing is declared there from outside, then
the last two do not occur: the dependents are the answers to the three queries in the order of their bytes,
each of them once. -/
theorem dependentsOf_agrees :
    (∀ (log : List Graph.Operation) (owner name : String),
      let g := Graph.empty.applyAll log
      owner ∈ g.staticView.dependentsOf name ↔
        owner ∈ (g.includersOf name).map (·.name) ∨ owner ∈ (g.importersOf name).map (·.name) ∨
        owner ∈ (g.childrenOf name).map (·.name) ∨ g.ImportsAmong owner name ∨
        g.ExtendsAmong owner name) ∧
    ∀ (m : Manifest) (uses : List Use), (∀ op, .operate op ∈ uses → op.declares = false) →
      ∀ name,
      let g := ((new m).after uses).graph
      (∀ owner, ¬ g.ImportsAmong owner name ∧ ¬ g.ExtendsAmong owner name) ∧
      (g.staticView.dependentsOf name).Pairwise (fun a b => Text.bytes a < Text.bytes b) ∧
      ∀ owner, owner ∈ g.staticView.dependentsOf name ↔
        owner ∈ (g.includersOf name ++ g.importersOf name ++ g.childrenOf name).map (·.name) := by
  constructor
  · intro log owner name g
    exact (Graph.coherent_empty.applyAll log).mem_dependentsOf_iff
  · intro m uses hown name g
    have hdescribed : g.Described m := (described_after m hown).graph
    have hexceptions : ∀ owner, ¬ g.ImportsAmong owner name ∧ ¬ g.ExtendsAmong owner name :=
      fun owner => ⟨hdescribed.not_importsAmong owner name, hdescribed.not_extendsAmong owner name⟩
    refine ⟨hexceptions, ?_, fun owner => ?_⟩
    · exact (g.staticView.pairwise_dependentsOf name).imp fun h => Text.lt_iff_bytes_lt.1 h
    · obtain ⟨himports, hextends⟩ := hexceptions owner
      rw [hdescribed.reachable.coherent.mem_dependentsOf_iff, List.map_append, List.map_append,
        List.mem_append, List.mem_append, or_assoc]
      simp only [himports, hextends, or_false]

/-- A template that was given two parents is a dependent of either of them and a child of neither. In the
graph of an engine this cannot happen, so that a page is the child of its frame. -/
theorem gallery_dependents :
    let log : List Graph.Operation := [.declareTemplate "page" none,
      .declare "page" (.extending (.named "frame")), .declare "page" (.extending (.named "skin"))]
    let twofold := Graph.empty.applyAll log
    let uses : List Use := [.render "page" .empty, .operate .startWatch, .reload "page"]
    let g := ((new gallery).after uses).graph
    "page" ∈ twofold.staticView.dependentsOf "frame" ∧ twofold.childrenOf "frame" = [] ∧
    g.staticView.dependentsOf "frame" = ["page"] ∧
    "page" ∈ (g.includersOf "frame" ++ g.importersOf "frame" ++ g.childrenOf "frame").map (·.name) := by
  intro log twofold uses g
  obtain ⟨hany, hengine⟩ := dependentsOf_agrees
  have hextends : twofold.ExtendsAmong "page" "frame" :=
    ⟨by decide +kernel, .extending (.named "frame"), by decide +kernel, rfl, List.mem_singleton_self _⟩
  have hdependents : g.staticView.dependentsOf "frame" = ["page"] := by decide +kernel
  have hown : ∀ op, .operate op ∈ uses → op.declares = false := by
    simp [uses, Graph.Operation.declares]
  obtain ⟨-, -, hmem⟩ := hengine gallery uses hown "frame"
  refine ⟨(hany log "page" "frame").2 (.inr (.inr (.inr (.inr hextends)))), by decide +kernel,
    hdependents, (hmem "page").1 ?_⟩
  rw [hdependents]
  exact List.mem_singleton_self "page"

end Engine

end TemplateDeps
