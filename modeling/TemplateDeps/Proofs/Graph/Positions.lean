import TemplateDeps.Proofs.Graph.OperationLog
import Mathlib.Logic.Function.Defs

/-!
# Positions are handles

A compiler declares an edge once and holds on to the position it was given. This is safe because nothing
in a graph ever moves. `edge_positions_stable` says so for every run from the empty graph: the position of
an edge is its rank among the distinct declarations of its template, it belongs to this declaration for
good, and what else a run does to names, edges, records and files is to add to them.

* Positions are injective because at each of them stands one declaration (`getElem?_declarations`), and
  stable because declarations are only put at the end (`Coherent.declarations_prefix_applyAll`).
  `Coherent.declare_applyAll` compares two positions that were handed out at different times.
* `Resolution.after` is a record as later operations leave it; `Coherent.history_prefix_applyAll` says that
  a history keeps all of its records, each as it is then.
* `Declaration.attributes` is all that can be read off a declaration. Declarations are equal when they
  agree in it, whatever their edges resolved to.
-/

namespace TemplateDeps

/-! ## Declarations as what can be read off them -/

namespace Declaration

/-- All that can be read off a declaration: its kind, its targets, whether it passes the context,
whether it tolerates a missing target, and the module or the members it binds. -/
def attributes (d : Declaration) :
    Kind × List Target × Option Bool × Option Bool × Option String × Option (List String) :=
  (d.kind, d.targets, d.context?, d.ignoreMissing?, d.boundAs?, d.members?)

/-- A binding is known from the module and the members that are bound. -/
theorem binding?_eq_of {a b : Declaration} (hwhole : a.boundAs? = b.boundAs?)
    (hmembers : a.members? = b.members?) : a.binding? = b.binding? := by
  unfold boundAs? at hwhole
  unfold members? at hmembers
  generalize a.binding? = x at hwhole hmembers ⊢
  generalize b.binding? = y at hwhole hmembers ⊢
  rcases x with _ | _ | _ <;> rcases y with _ | _ | _ <;> simp_all

/-- Declarations that differ in nothing that can be read off them are equal. -/
theorem attributes_injective : Function.Injective attributes := by
  intro a b h
  simp only [attributes, Prod.mk.injEq] at h
  obtain ⟨hkind, htargets, hcontext, hignore, hwhole, hmembers⟩ := h
  have hbinding := binding?_eq_of hwhole hmembers
  cases a <;> cases b <;> simp_all [kind, targets, context?, ignoreMissing?, binding?]

end Declaration

/-! ## What a run keeps -/

/-- A record as operations leave it: starting a watch moves it out of the current one. -/
def Resolution.after (r : Resolution) (ops : List Graph.Operation) : Resolution :=
  ⟨r.name, r.current && !ops.contains .startWatch⟩

/-- One operation at a time. -/
theorem Resolution.after_singleton (r : Resolution) (op : Graph.Operation) :
    r.after [op] = if op = .startWatch then r.past else r := by
  by_cases hwatch : op = .startWatch
  · simp [hwatch, after, past]
  · simp [hwatch, Ne.symm hwatch, after]

theorem Resolution.after_cons (r : Resolution) (op : Graph.Operation) (ops : List Graph.Operation) :
    r.after (op :: ops) = (r.after [op]).after ops := by
  simp [after, Bool.and_assoc]

namespace Graph

variable {g : Graph}

/-- Names stay at their places. -/
theorem Coherent.names_prefix_applyAll (h : g.Coherent) (ops : List Operation) :
    g.names <+: (g.applyAll ops).names := by
  induction ops generalizing g with
  | nil => exact List.prefix_rfl
  | cons op ops ih =>
    refine List.IsPrefix.trans ?_ (ih (h.apply op))
    rw [h.names_apply]
    cases op with
    | declareTemplate name file => exact prefix_adjoin g.names name
    | _ => exact List.prefix_rfl

/-- Declarations stay at their places. -/
theorem Coherent.declarations_prefix_applyAll (h : g.Coherent) (ops : List Operation) (owner : String) :
    g.declarations owner <+: (g.applyAll ops).declarations owner := by
  induction ops generalizing g with
  | nil => exact List.prefix_rfl
  | cons op ops ih => exact (h.declarations_prefix op owner).trans (ih (h.apply op))

/-- At a position stands the same declaration later on. -/
theorem Coherent.getElem?_declarations_applyAll (h : g.Coherent) (ops : List Operation) {owner : String}
    {id : EdgeId} {d : Declaration} (hd : (g.declarations owner)[id]? = some d) :
    ((g.applyAll ops).declarations owner)[id]? = some d := by
  obtain ⟨new, hnew⟩ := h.declarations_prefix_applyAll ops owner
  rw [← hnew, List.getElem?_append_left (List.getElem?_eq_some_iff.1 hd).1, hd]

/-- A history keeps its records in their places, and only starting a watch changes any of them. -/
theorem Coherent.history_prefix_applyAll (h : g.Coherent) (ops : List Operation) (owner : String)
    (id : EdgeId) :
    (g.history owner id).map (·.after ops) <+: (g.applyAll ops).history owner id := by
  induction ops generalizing g with
  | nil => simp [Resolution.after]
  | cons op ops ih =>
    have hstep : (g.history owner id).map (·.after [op]) <+: (g.apply op).history owner id := by
      rw [h.history_apply]
      refine List.IsPrefix.trans ?_ (List.prefix_append _ _)
      simp only [Resolution.after_singleton]
      split
      · exact List.prefix_rfl
      · simp only [List.map_id', List.prefix_rfl]
    have hafter : (g.history owner id).map (·.after (op :: ops)) =
        ((g.history owner id).map (·.after [op])).map (·.after ops) := by
      rw [List.map_map]
      exact List.map_congr_left fun r _ => r.after_cons op ops
    rw [hafter]
    exact (hstep.map _).trans (ih (h.apply op))

/-- A node is marked as reloaded when it is declared while it is there. -/
theorem Operation.reloaded_onNode {op : Operation} {name : String} {t u : Template}
    (h : op.onNode name (some t) = some u) :
    u.reloaded = (t.reloaded || op.declaredName? = some name) := by
  cases op with
  | declareTemplate declared file =>
    by_cases hname : declared = name
    · simp only [onNode, hname, if_true, Option.elim_some, Option.some.injEq] at h
      simp [← h, Template.markReloaded, declaredName?, hname]
    · simp only [onNode, hname, if_false, Option.some.injEq] at h
      simp [← h, declaredName?, hname]
  | declare owner d =>
    by_cases hname : owner = name
    · simp only [onNode, hname, if_true, Option.map_some, Option.some.injEq] at h
      simp [← h, declaredName?]
    · simp only [onNode, hname, if_false, Option.some.injEq] at h
      simp [← h, declaredName?]
  | record owner id reached =>
    by_cases hname : owner = name
    · simp only [onNode, hname, if_true, Option.map_some, Option.some.injEq] at h
      simp [← h, declaredName?, Template.record]
    · simp only [onNode, hname, if_false, Option.some.injEq] at h
      simp [← h, declaredName?]
  | startWatch =>
    cases h
    simp [declaredName?, Template.startWatch]
  | setWatchConcurrent on =>
    cases h
    simp [declaredName?]

/-- A node stays, with its file and its mark. -/
theorem Coherent.exists_template?_applyAll (h : g.Coherent) (ops : List Operation) {name : String}
    {t : Template} (ht : g.template? name = some t) :
    ∃ u, (g.applyAll ops).template? name = some u ∧ u.file = t.file ∧
      (t.reloaded = true → u.reloaded = true) := by
  induction ops generalizing g t with
  | nil => exact ⟨t, ht, rfl, id⟩
  | cons op ops ih =>
    obtain ⟨next, hnext, -, hfile⟩ := op.onNode_some name t
    have happly : (g.apply op).template? name = some next := by
      rw [h.template?_apply, ht, hnext]
    obtain ⟨u, hu, hsame, hmark⟩ := ih (h.apply op) happly
    refine ⟨u, hu, hsame.trans hfile, fun hreloaded => hmark ?_⟩
    rw [Operation.reloaded_onNode hnext, hreloaded, Bool.true_or]

/-! ## Positions -/

/-- Declaring succeeds on a known template, and gives the position that the edge has from then on. -/
theorem Coherent.declare_eq_ok_iff (h : g.Coherent) {owner : String} {d : Declaration} {id : EdgeId}
    {next : Graph} :
    g.declare owner d = .ok (id, next) ↔
      owner ∈ g.names ∧ next = g.apply (.declare owner d) ∧ next.edgeId? owner d = some id := by
  constructor
  · intro hdeclare
    have howner : owner ∈ g.names := by
      rw [← h.isSome_template?_iff, Option.isSome_iff_ne_none]
      intro hnone
      rw [declare_eq, hnone] at hdeclare
      cases hdeclare
    obtain ⟨place, hplace, hid⟩ := h.declare_eq_ok howner d
    rw [hplace] at hdeclare
    cases hdeclare
    exact ⟨howner, rfl, hid⟩
  · rintro ⟨howner, rfl, hid⟩
    obtain ⟨place, hplace, hsame⟩ := h.declare_eq_ok howner d
    rw [hsame] at hid
    cases hid
    exact hplace

/-- Where a declaration stands already, it gets its old position; a new one gets the next position. -/
theorem Coherent.position_of_declare (h : g.Coherent) {owner : String} {d : Declaration} {id : EdgeId}
    {next : Graph} (hdeclare : g.declare owner d = .ok (id, next)) :
    (d ∈ g.declarations owner → (g.declarations owner)[id]? = some d) ∧
    (d ∉ g.declarations owner → id = (g.declarations owner).length) := by
  obtain ⟨howner, rfl, hid⟩ := h.declare_eq_ok_iff.1 hdeclare
  have hat := getElem?_declarations hid
  have hdeclarations : (g.apply (.declare owner d)).declarations owner =
      adjoin (g.declarations owner) d := by
    rw [h.declarations_apply]
    simp [Operation.edgeOf?, howner]
  rw [hdeclarations] at hat
  constructor
  · intro hmem
    rwa [adjoin_of_mem hmem] at hat
  · intro hnew
    rw [adjoin, if_neg hnew] at hat
    -- Before the end stand other declarations.
    rcases Nat.lt_or_ge id (g.declarations owner).length with hlt | hge
    · rw [List.getElem?_append_left hlt] at hat
      exact absurd (List.mem_of_getElem? hat) hnew
    · have hbound := (List.getElem?_eq_some_iff.1 hat).1
      rw [List.length_append, List.length_singleton] at hbound
      exact Nat.le_antisymm (Nat.le_of_lt_succ hbound) hge

/-- A declaration keeps its position under later operations, and no other one gets it. -/
theorem Coherent.declare_applyAll (h : g.Coherent) {owner : String} {d : Declaration} {id : EdgeId}
    (hid : g.edgeId? owner d = some id) (howner : owner ∈ g.names) (later : List Operation)
    (d' : Declaration) :
    ∃ id' next, (g.applyAll later).declare owner d' = .ok (id', next) ∧ (id' = id ↔ d' = d) := by
  have hlater := h.applyAll later
  obtain ⟨id', hdeclare, hid'⟩ := hlater.declare_eq_ok (h.mem_names_applyAll later howner) d'
  refine ⟨id', _, hdeclare, ?_⟩
  -- Both declarations have their positions in the same graph now.
  have hkept := hlater.edgeId?_apply (.declare owner d') (h.edgeId?_applyAll later hid)
  constructor
  · rintro rfl
    exact Option.some.inj ((getElem?_declarations hid').symm.trans (getElem?_declarations hkept))
  · rintro rfl
    exact Option.some.inj (hid'.symm.trans hkept)

namespace OperationLog

/-- How often a template was declared. -/
def timesDeclared (log : List Operation) (name : String) : Nat :=
  (log.filterMap Operation.declaredName?).count name

/-- The declarations of a template are distinct. -/
theorem nodup_edges (log : List Operation) (owner : String) : (edges log owner).Nodup := by
  induction log using List.reverseRecOn with
  | nil => exact List.nodup_nil
  | append_singleton log op ih =>
    rw [edges_concat]
    split
    · split
      · exact nodup_adjoin ih _
      · exact ih
    · exact ih

/-- One more operation declares the template once more, or not. -/
theorem timesDeclared_concat (log : List Operation) (op : Operation) (name : String) :
    timesDeclared (log ++ [op]) name =
      timesDeclared log name + if op.declaredName? = some name then 1 else 0 := by
  unfold timesDeclared
  rw [List.filterMap_append, List.count_append]
  cases hname : op.declaredName? with
  | none => simp [hname]
  | some declared => simp [hname, List.count_singleton]

/-- A template is declared when it was declared at least once. -/
theorem timesDeclared_pos_iff {log : List Operation} {name : String} :
    0 < timesDeclared log name ↔ name ∈ declared log := by
  rw [timesDeclared, List.count_pos_iff, declared, List.mem_eraseDups]

/-- A template is marked as reloaded when it was declared more than once. -/
theorem reloaded_applyAll {log : List Operation} {name : String} {t : Template}
    (ht : (empty.applyAll log).template? name = some t) :
    t.reloaded = true ↔ 2 ≤ timesDeclared log name := by
  induction log using List.reverseRecOn generalizing t with
  | nil => cases ht
  | append_singleton log op ih =>
    have hcoherent : (empty.applyAll log).Coherent := coherent_empty.applyAll log
    rw [applyAll_append, applyAll_cons, applyAll_nil, hcoherent.template?_apply] at ht
    rw [timesDeclared_concat]
    cases hold : (empty.applyAll log).template? name with
    | none =>
      -- The template is declared for the first time.
      have hname : ¬ 0 < timesDeclared log name := by
        rw [timesDeclared_pos_iff, ← names_applyAll]
        exact hcoherent.template?_eq_none_iff.1 hold
      rw [hold] at ht
      cases op with
      | declareTemplate declared file =>
        simp only [Operation.onNode, Option.elim_none] at ht
        split at ht
        · cases ht
          simp only [Template.fresh, Bool.false_eq_true, false_iff]
          split <;> omega
        · cases ht
      | _ => simp [Operation.onNode] at ht
    | some old =>
      have hname : 0 < timesDeclared log name := by
        rw [timesDeclared_pos_iff, ← names_applyAll, ← hcoherent.isSome_template?_iff, hold]
        rfl
      rw [hold] at ht
      rw [Operation.reloaded_onNode ht, Bool.or_eq_true, ih hold, decide_eq_true_eq]
      split
      · next hdeclares =>
        simp only [hdeclares, or_true, true_iff]
        omega
      · next hother => simp [hother]

end OperationLog

/-! ## Reachable graphs -/

/-- In a graph that operations lead to, the declarations of a template are distinct. -/
theorem Reachable.nodup_declarations (h : g.Reachable) (owner : String) :
    (g.declarations owner).Nodup := by
  obtain ⟨log, rfl⟩ := h
  rw [OperationLog.declarations_applyAll]
  exact OperationLog.nodup_edges log owner

/-- A declaration stands at one position only. -/
theorem Reachable.edgeId?_of_getElem? (h : g.Reachable) {owner : String} {d : Declaration} {id : EdgeId}
    (hat : (g.declarations owner)[id]? = some d) : g.edgeId? owner d = some id := by
  cases hid : g.edgeId? owner d with
  | none => exact absurd (List.mem_of_getElem? hat) (edgeId?_eq_none_iff.1 hid)
  | some place =>
    have hlt := (List.getElem?_eq_some_iff.1 hat).1
    have hsame := hat.trans (getElem?_declarations hid).symm
    rw [(List.getElem?_inj hlt (h.nodup_declarations owner)).1 hsame]

/-! ## Runs -/

/-- Edges keep their positions. In a graph that starts empty, let declaring `d` for `owner` succeed with
the position `id`. Then `id` is the rank of `d` among the distinct declarations that the owner received
until then, or their number if `d` is new. After any further operations the edge at `id` still has the
declaration `d`, and declaring any edge for the owner gives `id` exactly if it agrees with `d` in all that
can be read off declarations.

Beyond that a run only adds: names and declarations at the ends of their lists, records at the ends of
their histories. A record changes only in that it stops being current, which happens when a watch is
started. A template keeps the file it was declared with, and it is marked as reloaded, for good, once it
was declared twice. -/
theorem edge_positions_stable (log : List Operation) :
    let g := empty.applyAll log
    (∀ owner d id next, g.declare owner d = .ok (id, next) →
      g.declarations owner = OperationLog.edges log owner ∧ (OperationLog.edges log owner).Nodup ∧
      (d ∈ OperationLog.edges log owner → (OperationLog.edges log owner)[id]? = some d) ∧
      (d ∉ OperationLog.edges log owner → id = (OperationLog.edges log owner).length) ∧
      ∀ later,
        ((next.applyAll later).declarations owner)[id]? = some d ∧
        ∀ d', ∃ id' next', (next.applyAll later).declare owner d' = .ok (id', next') ∧
          (id' = id ↔ d'.attributes = d.attributes)) ∧
    (∀ later, let g' := g.applyAll later
      g.names <+: g'.names ∧
      (∀ owner, g.declarations owner <+: g'.declarations owner) ∧
      (∀ owner id, (g.history owner id).map (·.after later) <+: g'.history owner id) ∧
      ∀ name t, g.template? name = some t →
        (t.reloaded = true ↔ 2 ≤ OperationLog.timesDeclared log name) ∧
        ∃ u, g'.template? name = some u ∧ u.file = t.file ∧
          (t.reloaded = true → u.reloaded = true)) := by
  intro g
  have hcoherent : g.Coherent := coherent_empty.applyAll log
  constructor
  · intro owner d id next hdeclare
    have hedges : g.declarations owner = OperationLog.edges log owner :=
      OperationLog.declarations_applyAll log owner
    obtain ⟨hold, hnew⟩ := hcoherent.position_of_declare hdeclare
    rw [hedges] at hold hnew
    obtain ⟨howner, rfl, hid⟩ := hcoherent.declare_eq_ok_iff.1 hdeclare
    have hnext := hcoherent.apply (.declare owner d)
    refine ⟨hedges, OperationLog.nodup_edges log owner, hold, hnew, fun later => ⟨?_, fun d' => ?_⟩⟩
    · exact getElem?_declarations (hnext.edgeId?_applyAll later hid)
    · obtain ⟨id', next', hagain, hiff⟩ :=
        hnext.declare_applyAll hid (hcoherent.mem_names_apply _ howner) later d'
      exact ⟨id', next', hagain, hiff.trans Declaration.attributes_injective.eq_iff.symm⟩
  · intro later g'
    refine ⟨hcoherent.names_prefix_applyAll later, hcoherent.declarations_prefix_applyAll later,
      hcoherent.history_prefix_applyAll later, fun name t ht => ⟨?_, ?_⟩⟩
    · exact OperationLog.reloaded_applyAll ht
    · exact hcoherent.exists_template?_applyAll later ht

/-- An edge declared for the second time gets its old position. What is declared later, here the same
candidates in another order, gets another one. -/
theorem declare_again_eq :
    let first : Declaration := .including (.named "side") [.named "foot"] (some true) (some false)
    let other : Declaration := .including (.named "foot") [.named "side"] (some true) (some false)
    let log := [.declareTemplate "page" none, .declare "page" first, .record "page" 0 "side"]
    let g := empty.applyAll log
    g.declare "page" first = .ok (0, g) ∧
    ∃ id next, (g.applyAll [.startWatch]).declare "page" other = .ok (id, next) ∧ id ≠ 0 := by
  intro first other log g
  have hdeclare : g.declare "page" first = .ok (0, g) := by decide +kernel
  obtain ⟨-, -, -, -, hlater⟩ := (edge_positions_stable log).1 "page" first 0 g hdeclare
  obtain ⟨id, next, hother, hiff⟩ := (hlater [.startWatch]).2 other
  have hdiffer : other.attributes ≠ first.attributes := Declaration.attributes_injective.ne (by decide)
  exact ⟨hdeclare, id, next, hother, mt hiff.1 hdiffer⟩

end Graph

end TemplateDeps
