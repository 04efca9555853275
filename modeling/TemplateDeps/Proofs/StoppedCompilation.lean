import TemplateDeps.Proofs.Graph.Growth
import TemplateDeps.Proofs.Manifest.WrittenTargets

/-!
# Compilations that stop

A compilation that comes to a malformed edge stops there, with the edges before it declared.
`Graph.compile_stops_at_first_flaw` says that this is all that happens: it fails exactly if some edge of the
entry is malformed, it reports what is wrong with the first such edge, and it leaves the graph that compiling
the entry without this edge and those behind it leaves.

* `EdgeSpec.flaw?` says what is wrong with an edge, read off the entry without its compiler;
  `EdgeSpec.plan_of_flaw` says that the compiler reports just that, and
  `EdgeSpec.exists_plan_iff` that it has nothing else to report.
* `Entry.upTo n` is an entry with its first `n` edges, in the order in which they are declared
  (`Entry.edges_upTo`).
* `Graph.Coherent.compile_eq_of_flaw` compares the compilations of an entry and of its sound beginning. The
  latter is not stopped, so that it is known what it does to the graph: it declares, and nothing is added to
  any history.
-/

namespace TemplateDeps

/-! ## What is wrong with an edge -/

/-- What is wrong with an edge of the template `owner`. A written target must name something, and this is
looked at first. Besides, an include must list a target, and an import must bind either the library or
members of it. -/
def EdgeSpec.flaw? (owner : String) : EdgeSpec → Option Fault
  | extending raw => if NamesNothing raw then some (.manifest (.emptyCompiledTarget owner)) else none
  | including spec =>
    if ∃ raw ∈ spec.targets, NamesNothing raw then some (.manifest (.emptyCompiledTarget owner))
    else if spec.targets = [] then some (.declaration (.noTarget .including))
    else none
  | importing spec =>
    if NamesNothing spec.target then some (.manifest (.emptyCompiledTarget owner))
    else if spec.boundAs.isSome = spec.members.isSome then
      some (.manifest (.ambiguousBinding owner spec.target))
    else none

section Reading

variable (owner : String) {raw : String} {raws : List String}

/-- A target that names nothing cannot be read. -/
theorem readTarget_of_namesNothing (h : NamesNothing raw) :
    readTarget owner raw = .error (.manifest (.emptyCompiledTarget owner)) := by
  rw [readTarget, TargetRef.parse?_eq_none_iff.2 h]

/-- Every other target can be read. -/
theorem exists_readTarget (h : ¬ NamesNothing raw) : ∃ target, readTarget owner raw = .ok target := by
  rw [← TargetRef.parse?_eq_none_iff, ← Ne, Option.ne_none_iff_exists'] at h
  obtain ⟨target, htarget⟩ := h
  exact ⟨target, readTarget_eq_ok_iff.2 htarget⟩

/-- A list with a target that names nothing cannot be read. -/
theorem mapM_readTarget_of_namesNothing (h : ∃ raw ∈ raws, NamesNothing raw) :
    raws.mapM (readTarget owner) = .error (.manifest (.emptyCompiledTarget owner)) := by
  induction raws with
  | nil => simp at h
  | cons first rest ih =>
    rw [List.mapM_cons]
    by_cases hfirst : NamesNothing first
    · rw [readTarget_of_namesNothing owner hfirst]
      rfl
    · obtain ⟨target, htarget⟩ := exists_readTarget owner hfirst
      have hrest : ∃ raw ∈ rest, NamesNothing raw :=
        ((List.exists_mem_cons_iff _ _ _).1 h).resolve_left hfirst
      rw [htarget, ih hrest]
      rfl

/-- Every other list can be read. -/
theorem exists_mapM_readTarget (h : ¬ ∃ raw ∈ raws, NamesNothing raw) :
    ∃ targets, raws.mapM (readTarget owner) = .ok targets := by
  induction raws with
  | nil => exact ⟨[], rfl⟩
  | cons first rest ih =>
    rw [List.exists_mem_cons_iff, not_or] at h
    obtain ⟨target, htarget⟩ := exists_readTarget owner h.1
    obtain ⟨targets, htargets⟩ := ih h.2
    refine ⟨target :: targets, ?_⟩
    rw [List.mapM_cons, htarget, htargets]
    rfl

/-- An import that binds both or nothing is ambiguous. -/
theorem ImportSpec.binding_of_ambiguous (spec : ImportSpec)
    (h : spec.boundAs.isSome = spec.members.isSome) :
    spec.binding owner = .error (.manifest (.ambiguousBinding owner spec.target)) := by
  unfold binding
  cases hname : spec.boundAs <;> cases hnames : spec.members <;> simp_all

/-- Every other import binds something. -/
theorem ImportSpec.exists_binding (spec : ImportSpec)
    (h : ¬ spec.boundAs.isSome = spec.members.isSome) : ∃ binding, spec.binding owner = .ok binding := by
  unfold binding
  cases hname : spec.boundAs <;> cases hnames : spec.members <;> simp_all

end Reading

namespace EdgeSpec

variable {owner : String} {spec : EdgeSpec} {fault : Fault}

/-- An edge with a flaw cannot be planned, and the flaw is what is reported. -/
theorem plan_of_flaw (h : spec.flaw? owner = some fault) : spec.plan owner = .error fault := by
  cases spec with
  | extending raw =>
    rw [flaw?] at h
    split at h
    · next hnothing =>
      cases h
      rw [plan, readTarget_of_namesNothing owner hnothing]
      rfl
    · cases h
  | including spec =>
    rw [flaw?] at h
    split at h
    · next hnothing =>
      cases h
      rw [plan, mapM_readTarget_of_namesNothing owner hnothing]
      rfl
    · split at h
      · next hempty =>
        cases h
        rw [plan, hempty]
        rfl
      · cases h
  | importing spec =>
    rw [flaw?] at h
    split at h
    · next hnothing =>
      cases h
      rw [plan, readTarget_of_namesNothing owner hnothing]
      rfl
    · next hnames =>
      split at h
      · next hsame =>
        cases h
        obtain ⟨target, hread⟩ := exists_readTarget owner hnames
        rw [plan, hread, spec.binding_of_ambiguous owner hsame]
        rfl
      · cases h

/-- An edge without a flaw can be planned. -/
theorem exists_plan_of_flaw (h : spec.flaw? owner = none) : ∃ p, spec.plan owner = .ok p := by
  cases spec with
  | extending raw =>
    rw [flaw?] at h
    split at h
    · cases h
    · next hnames =>
      obtain ⟨target, hread⟩ := exists_readTarget owner hnames
      rw [plan, hread]
      exact ⟨_, rfl⟩
  | including spec =>
    rw [flaw?] at h
    split at h
    · cases h
    · next hnames =>
      obtain ⟨targets, hread⟩ := exists_mapM_readTarget owner hnames
      split at h
      · cases h
      · next hne =>
        have hparsed := mapM_readTarget_eq_ok_iff.1 hread
        rw [plan, hread]
        cases targets with
        | nil => exact absurd (List.map_eq_nil_iff.1 hparsed) hne
        | cons first others => exact ⟨_, rfl⟩
  | importing spec =>
    rw [flaw?] at h
    split at h
    · cases h
    · next hnames =>
      obtain ⟨target, hread⟩ := exists_readTarget owner hnames
      split at h
      · cases h
      · next hne =>
        obtain ⟨binding, hbinding⟩ := spec.exists_binding owner hne
        rw [plan, hread, hbinding]
        exact ⟨_, rfl⟩

/-- The edges that can be planned are those without a flaw. -/
theorem exists_plan_iff : (∃ p, spec.plan owner = .ok p) ↔ spec.flaw? owner = none := by
  refine ⟨?_, exists_plan_of_flaw⟩
  rintro ⟨p, hplan⟩
  refine Option.eq_none_iff_forall_ne_some.2 fun fault hflaw => ?_
  rw [plan_of_flaw hflaw] at hplan
  cases hplan

end EdgeSpec

/-! ## The beginning of an entry -/

/-- The entry with its first `n` edges. -/
def Entry.upTo (entry : Entry) (n : Nat) : Entry where
  file := entry.file
  parent := (entry.parent.toList.take n).head?
  includes := entry.includes.take (n - entry.parent.toList.length)
  imports := entry.imports.take (n - entry.parent.toList.length - entry.includes.length)

/-- The edges are declared in the order in which they are counted. -/
theorem Entry.edges_upTo (entry : Entry) (n : Nat) : (entry.upTo n).edges = entry.edges.take n := by
  have hparent : (entry.parent.toList.take n).head?.toList = entry.parent.toList.take n := by
    cases entry.parent with
    | none => simp
    | some raw => cases n <;> simp
  rw [edges, edges, List.take_append, List.take_append, upTo, hparent, List.map_take, List.map_take,
    List.map_take, List.length_append, List.length_map, List.length_map, Nat.sub_add_eq]

namespace Graph

variable {g : Graph} {name : String} {entry : Entry}

/-- Compiling an entry whose edges have no flaws succeeds, and declares what the entry describes. -/
theorem Coherent.compile_of_flawless (h : g.Coherent)
    (hedges : ∀ spec ∈ entry.edges, spec.flaw? name = none) :
    ∃ edges, g.compile name entry = ⟨g.applyAll (entry.operations name), edges, none⟩ := by
  obtain ⟨edges, hcompile, -⟩ := h.compile_eq fun spec hspec =>
    EdgeSpec.exists_plan_of_flaw (hedges spec hspec)
  exact ⟨edges, hcompile⟩

/-- A compilation is stopped at the first flaw, where that of the edges before it ends. -/
theorem Coherent.compile_eq_of_flaw (h : g.Coherent) {before after : List EdgeSpec} {spec : EdgeSpec}
    {fault : Fault} (hedges : entry.edges = before ++ spec :: after)
    (hbefore : ∀ s ∈ before, s.flaw? name = none) (hflaw : spec.flaw? name = some fault) :
    ∃ edges, g.compile name (entry.upTo before.length) =
        ⟨g.applyAll ((entry.upTo before.length).operations name), edges, none⟩ ∧
      g.compile name entry =
        ⟨g.applyAll ((entry.upTo before.length).operations name), edges, some fault⟩ := by
  have hcut : (entry.upTo before.length).edges = before := by
    rw [entry.edges_upTo, hedges, List.take_left]
  obtain ⟨edges, hcompile⟩ := h.compile_of_flawless (hcut.symm ▸ hbefore)
  refine ⟨edges, hcompile, ?_⟩
  -- Both compilations begin with the declaration of the same template and with the same edges.
  have hstart : before.foldl (Compilation.add name) ⟨g.declareTemplate name entry.file, [], none⟩ =
      ⟨g.applyAll ((entry.upTo before.length).operations name), edges, none⟩ := by
    rw [← hcompile, compile, hcut]
    rfl
  rw [compile, hedges, List.foldl_append, hstart, List.foldl_cons, Compilation.add,
    EdgeSpec.plan_of_flaw hflaw]
  exact Compilation.foldl_add_fault name after _ edges fault

/-- A compilation fails exactly if some edge has a flaw. -/
theorem Coherent.exists_compile_error_iff (h : g.Coherent) :
    (∃ fault, (g.compile name entry).result = .error fault) ↔
      ∃ spec ∈ entry.edges, ∃ fault, spec.flaw? name = some fault := by
  have hok : (∃ edges, (g.compile name entry).result = .ok edges) ↔
      ∀ spec ∈ entry.edges, spec.flaw? name = none := by
    simp only [h.exists_compile_iff, EdgeSpec.exists_plan_iff]
  cases hresult : (g.compile name entry).result with
  | ok edges =>
    have hnone := hok.1 ⟨edges, hresult⟩
    refine iff_of_false (by simp) ?_
    rintro ⟨spec, hspec, fault, hflaw⟩
    rw [hnone spec hspec] at hflaw
    cases hflaw
  | error fault =>
    refine iff_of_true ⟨fault, rfl⟩ ?_
    by_contra hnone
    obtain ⟨edges, hedges⟩ := hok.2 fun spec hspec =>
      Option.eq_none_iff_forall_ne_some.2 fun cause hcause => hnone ⟨spec, hspec, cause, hcause⟩
    rw [hresult] at hedges
    cases hedges

/-- A compilation that fails leaves exactly what is in front of the fault. In a reachable graph the
compilation of an entry fails if and only if some edge of the entry has a flaw, and it reports the flaw of the
first such edge. The graph it leaves is that of compiling the entry up to this edge, which succeeds. So the
template is declared and gets the declarations of the edges up to there and no others; no other template
changes, and no history of any edge does. -/
theorem compile_stops_at_first_flaw (hg : g.Reachable) (name : String) (entry : Entry) :
    ((∃ fault, (g.compile name entry).result = .error fault) ↔
      ∃ spec ∈ entry.edges, ∃ fault, spec.flaw? name = some fault) ∧
    ∀ before spec after fault, entry.edges = before ++ spec :: after →
      (∀ s ∈ before, s.flaw? name = none) → spec.flaw? name = some fault →
      let cut := entry.upTo before.length
      let stopped := (g.compile name entry).graph
      (g.compile name entry).result = .error fault ∧
      (cut.file = entry.file ∧ cut.edges = before) ∧
      (∃ edges, (g.compile name cut).result = .ok edges) ∧
      stopped = (g.compile name cut).graph ∧
      stopped.names = adjoin g.names name ∧
      stopped.declarations name =
        adjoinAll (g.declarations name) (before.filterMap (EdgeSpec.declaration? name)) ∧
      (∀ other, other ≠ name → stopped.template? other = g.template? other) ∧
      ∀ owner id, stopped.history owner id = g.history owner id := by
  have hcoherent := hg.coherent
  refine ⟨hcoherent.exists_compile_error_iff, ?_⟩
  intro before spec after fault hedges hbefore hflaw cut stopped
  have hcut : cut.edges = before := by
    rw [entry.edges_upTo, hedges, List.take_left]
  obtain ⟨edges, hcompile, hstopped⟩ := hcoherent.compile_eq_of_flaw hedges hbefore hflaw
  have hgraph : stopped = g.applyAll (cut.operations name) := congrArg Compilation.graph hstopped
  rw [hcompile, hstopped, hgraph]
  refine ⟨rfl, ⟨rfl, hcut⟩, ⟨edges, rfl⟩, rfl, hcoherent.names_applyAll_operations name cut, ?_, ?_, ?_⟩
  · rw [hcoherent.declarations_applyAll_operations, hcut]
  · intro other hother
    rw [hcoherent.template?_applyAll_operations, if_neg (Ne.symm hother)]
  · intro owner id
    have hgrows : g.Grows [] (g.applyAll (cut.operations name)) :=
      .of_declares fun _ hop => Entry.declares_operations hop
    rw [hgrows.history hcoherent, left, List.filter_nil, List.map_nil, List.append_nil]

/-- A page in the making: two of its includes and its import are not what they should be. -/
def draft : Entry where
  file := some "draft.html"
  parent := some "base"
  includes := [⟨["note"], true, false⟩, ⟨["$theme", " $ "], true, true⟩, ⟨[], true, false⟩]
  imports := [⟨"forms", some "f", some ["field"], false⟩]

/-- The draft of a page that is known already adds the include of the note, and stops behind it. -/
theorem compile_draft_stopped :
    let ops := [Operation.declareTemplate "page" (some "page.html"),
      .declare "page" (.extending (.named "base")), .record "page" 0 "base", .startWatch]
    let stopped := ((empty.applyAll ops).compile "page" draft).graph
    ((empty.applyAll ops).compile "page" draft).result =
      .error (.manifest (.emptyCompiledTarget "page")) ∧
    stopped = ((empty.applyAll ops).compile "page"
      ⟨some "draft.html", some "base", [⟨["note"], true, false⟩], []⟩).graph ∧
    stopped.declarations "page" =
      [.extending (.named "base"), .including (.named "note") [] (some true) (some false)] ∧
    stopped.history "page" 0 = [⟨"base", false⟩] := by
  intro ops stopped
  have hg : (empty.applyAll ops).Reachable := ⟨ops, rfl⟩
  let before := [EdgeSpec.extending "base", .including ⟨["note"], true, false⟩]
  have hbefore : ∀ s ∈ before, s.flaw? "page" = none := by decide +kernel
  have hflaw : (EdgeSpec.including ⟨["$theme", " $ "], true, true⟩).flaw? "page" =
      some (.manifest (.emptyCompiledTarget "page")) := by
    decide +kernel
  obtain ⟨hresult, -, -, hgraph, -, hdeclarations, -, hhistory⟩ :=
    (compile_stops_at_first_flaw hg "page" draft).2 before _ _ _ rfl hbefore hflaw
  have hadded : adjoinAll ((empty.applyAll ops).declarations "page")
      (before.filterMap (EdgeSpec.declaration? "page")) =
        [.extending (.named "base"), .including (.named "note") [] (some true) (some false)] := by
    decide +kernel
  have hkept : (empty.applyAll ops).history "page" 0 = [⟨"base", false⟩] := by decide +kernel
  exact ⟨hresult, hgraph, hdeclarations.trans hadded, (hhistory "page" 0).trans hkept⟩

end Graph

end TemplateDeps
