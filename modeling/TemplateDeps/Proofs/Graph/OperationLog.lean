import TemplateDeps.Proofs.Graph.Views
import Mathlib.Data.List.Induction

/-!
# A graph as the outcome of its log

A graph that starts empty is determined by the list of operations that were asked of it, the *log*.
This module reads off the log what the graph must hold, without running it:

* `declared` are the names of the declared templates, each at the place of its first declaration;
* `edges` are the distinct declarations that a template received after it was declared itself;
* `records` are the resolutions noted for an edge that was there at that time, each marked as current
  unless a watch was started later in the log.

`applyAll_refines_log` says that running the log gives exactly this, and that the templates and files
used in the current watch follow from it. The proof goes through the log from its end: for each of the
three there is an equation for one more operation (`declared_concat`, `edges_concat`,
`records_concat`), and it has the shape of the equation for the graph after one more operation.
-/

namespace TemplateDeps

namespace Graph

/-- The template that an operation declares. -/
def Operation.declaredName? : Operation → Option String
  | .declareTemplate name _ => some name
  | _ => none

/-- The file that an operation gives to the template `name`, if it declares that template. -/
def Operation.fileOf? (name : String) : Operation → Option (Option FilePath)
  | .declareTemplate declared file => if declared = name then some file else none
  | _ => none

namespace OperationLog

/-! ## Reading a log -/

/-- The declared templates, each at the place of its first declaration. -/
def declared (log : List Operation) : List String :=
  (log.filterMap Operation.declaredName?).eraseDups

/-- The file of a template: the one it was given when it was declared first. -/
def file (log : List Operation) (name : String) : Option FilePath :=
  (log.findSome? (Operation.fileOf? name)).getD none

/-- What `pick` reads off the places of a log, each with what came before and after it. -/
def collect {α : Type} (log : List Operation)
    (pick : (before : List Operation) → Operation → (after : List Operation) → Option α) : List α :=
  (List.range log.length).filterMap fun place =>
    (log[place]?).bind fun op => pick (log.take place) op (log.drop (place + 1))

/-- The distinct declarations of edges that `owner` received, in the order of the first of each. What
comes before the owner was declared itself does not count. -/
def edges (log : List Operation) (owner : String) : List Declaration :=
  (collect log fun before op _ =>
    if owner ∈ declared before then op.edgeOf? owner else none).eraseDups

/-- The resolutions noted for edge `id` of `owner`. A place of the log counts if the edge was there
before it, and its record is current if no watch is started after it. -/
def records (log : List Operation) (owner : String) (id : EdgeId) : List Resolution :=
  collect log fun before op after =>
    (op.recordOf? owner id).bind fun name =>
      if id < (edges before owner).length then some ⟨name, !after.contains .startWatch⟩ else none

/-! ## One more operation -/

theorem declared_concat (log : List Operation) (op : Operation) :
    declared (log ++ [op]) = op.onNames (declared log) := by
  unfold declared
  rw [List.filterMap_append]
  cases op with
  | declareTemplate name file => exact eraseDups_concat _ name
  | _ => rw [List.filterMap_cons_none rfl, List.filterMap_nil, List.append_nil]; rfl

/-- A name is declared when some operation declares it. -/
theorem mem_declared {log : List Operation} {name : String} :
    name ∈ declared log ↔ ∃ op ∈ log, op.declaredName? = some name := by
  simp [declared]

/-- The first declaration of a template fixes its file. -/
theorem file_concat (log : List Operation) (op : Operation) {name : String}
    (hname : name ∈ declared log) : file (log ++ [op]) name = file log name := by
  obtain ⟨known, hmem, hdeclares⟩ := mem_declared.1 hname
  have hsome : (log.findSome? (Operation.fileOf? name)).isSome = true := by
    rw [List.findSome?_isSome_iff]
    refine ⟨known, hmem, ?_⟩
    cases known <;> simp_all [Operation.declaredName?, Operation.fileOf?]
  obtain ⟨f, hf⟩ := Option.isSome_iff_exists.1 hsome
  simp [file, List.findSome?_append, hf]

/-- A template that was not declared before has the file of its declaration. -/
theorem file_declareTemplate {log : List Operation} {name : String} (f : Option FilePath)
    (hname : name ∉ declared log) : file (log ++ [.declareTemplate name f]) name = f := by
  have hnone : log.findSome? (Operation.fileOf? name) = none := by
    rw [List.findSome?_eq_none_iff]
    intro op hop
    have hdeclares : op.declaredName? ≠ some name := fun h => hname (mem_declared.2 ⟨op, hop, h⟩)
    cases op <;> simp_all [Operation.declaredName?, Operation.fileOf?]
  simp [file, List.findSome?_append, hnone, Operation.fileOf?]

/-- A declared template has the file of an operation that declares it. -/
theorem mem_file {log : List Operation} {name : String} (hname : name ∈ declared log) :
    .declareTemplate name (file log name) ∈ log := by
  induction log using List.reverseRecOn with
  | nil => cases hname
  | append_singleton log op ih =>
    by_cases hold : name ∈ declared log
    · rw [file_concat log op hold]
      exact List.mem_append_left _ (ih hold)
    · -- The last operation is the first one to declare the template.
      obtain ⟨first, hmem, hdeclares⟩ := mem_declared.1 hname
      rcases List.mem_append.1 hmem with hmem | hlast
      · exact absurd (mem_declared.2 ⟨first, hmem, hdeclares⟩) hold
      · obtain rfl := List.mem_singleton.1 hlast
        cases first with
        | declareTemplate other f =>
          cases hdeclares
          rw [file_declareTemplate f hold]
          exact hmem
        | _ => cases hdeclares

/-- What the edges of a template declare was asked for in the log. -/
theorem mem_of_mem_edges {log : List Operation} {owner : String} {d : Declaration}
    (hd : d ∈ edges log owner) : .declare owner d ∈ log := by
  obtain ⟨place, -, hplace⟩ := List.mem_filterMap.1 (List.mem_eraseDups.1 hd)
  obtain ⟨op, hop, hpick⟩ := Option.bind_eq_some_iff.1 hplace
  have hedge : op.edgeOf? owner = some d := (Option.ite_none_right_eq_some.1 hpick).2
  have hdeclare : op = .declare owner d := by
    cases op <;> simp_all [Operation.edgeOf?]
  exact hdeclare ▸ List.mem_of_getElem? hop

/-- One more operation comes after every earlier place, and adds what is read off its own. -/
theorem collect_concat {α : Type} (log : List Operation) (op : Operation)
    (pick : List Operation → Operation → List Operation → Option α) :
    collect (log ++ [op]) pick =
      collect log (fun before o after => pick before o (after ++ [op])) ++ (pick log op []).toList := by
  unfold collect
  rw [List.length_append, List.length_singleton, List.range_succ, List.filterMap_append]
  congr 1
  · refine List.filterMap_congr fun place hplace => ?_
    have hlt : place < log.length := List.mem_range.1 hplace
    rw [List.getElem?_append_left hlt, List.take_append_of_le_length (by omega),
      List.drop_append_of_le_length (by omega)]
  · cases hpick : pick log op [] <;> simp [hpick]

theorem edges_concat (log : List Operation) (op : Operation) (owner : String) :
    edges (log ++ [op]) owner =
      match op.edgeOf? owner with
      | some d =>
        if owner ∈ declared log then adjoin (edges log owner) d else edges log owner
      | none => edges log owner := by
  rw [edges, collect_concat]
  cases hedge : op.edgeOf? owner with
  | none => simp [edges]
  | some d =>
    by_cases howner : owner ∈ declared log
    · simp only [howner, if_true, Option.toList_some]
      exact eraseDups_concat _ d
    · simp [howner, edges]

theorem records_concat (log : List Operation) (op : Operation) (owner : String) (id : EdgeId) :
    records (log ++ [op]) owner id =
      (if op = .startWatch then (records log owner id).map Resolution.past
        else records log owner id) ++
        match op.recordOf? owner id with
        | some name => if id < (edges log owner).length then [⟨name, true⟩] else []
        | none => [] := by
  rw [records, collect_concat]
  congr 1
  · -- To the earlier places the operation is one more that comes after them.
    by_cases hwatch : op = .startWatch
    · subst hwatch
      rw [if_pos rfl, records, collect, collect, List.map_filterMap]
      refine List.filterMap_congr fun place _ => ?_
      cases log[place]? with
      | none => rfl
      | some o =>
        cases hrecord : o.recordOf? owner id with
        | none => simp [hrecord]
        | some name =>
          by_cases hid : id < (edges (log.take place) owner).length <;>
            simp [hrecord, hid, Resolution.past]
    · rw [if_neg hwatch, records, collect, collect]
      refine List.filterMap_congr fun place _ => ?_
      simp [Ne.symm hwatch]
  · cases op.recordOf? owner id with
    | none => rfl
    | some name => by_cases hid : id < (edges log owner).length <;> simp [hid]

/-! ## Running a log -/

/-- The graph after one more operation. -/
private theorem applyAll_concat (g : Graph) (log : List Operation) (op : Operation) :
    g.applyAll (log ++ [op]) = (g.applyAll log).apply op :=
  applyAll_append g log [op]

/-- The graph that a log leads to is coherent. -/
private theorem coherent_applyAll (log : List Operation) : (empty.applyAll log).Coherent :=
  coherent_empty.applyAll log

/-- The names of the graph are those that the log declares. -/
theorem names_applyAll (log : List Operation) : (empty.applyAll log).names = declared log := by
  induction log using List.reverseRecOn with
  | nil => rfl
  | append_singleton log op ih =>
    rw [applyAll_concat, (coherent_applyAll log).names_apply, ih, declared_concat]

/-- The declarations of a template are those that the log gives it. -/
theorem declarations_applyAll (log : List Operation) (owner : String) :
    (empty.applyAll log).declarations owner = edges log owner := by
  induction log using List.reverseRecOn with
  | nil => rfl
  | append_singleton log op ih =>
    rw [applyAll_concat, (coherent_applyAll log).declarations_apply, ih, names_applyAll]
    exact (edges_concat log op owner).symm

/-- The records of an edge are those that the log gives it. -/
theorem history_applyAll (log : List Operation) (owner : String) (id : EdgeId) :
    (empty.applyAll log).history owner id = records log owner id := by
  induction log using List.reverseRecOn with
  | nil => rfl
  | append_singleton log op ih =>
    rw [applyAll_concat, (coherent_applyAll log).history_apply, ih, declarations_applyAll]
    exact (records_concat log op owner id).symm

/-- A template has the file of its first declaration. -/
theorem file_applyAll {log : List Operation} {name : String} {t : Template}
    (ht : (empty.applyAll log).template? name = some t) : t.file = file log name := by
  induction log using List.reverseRecOn generalizing t with
  | nil => cases ht
  | append_singleton log op ih =>
    have hcoherent := coherent_applyAll log
    rw [applyAll_concat, hcoherent.template?_apply] at ht
    cases hold : (empty.applyAll log).template? name with
    | none =>
      -- Only a declaration of this template brings in a node.
      have hname : name ∉ declared log := names_applyAll log ▸ hcoherent.template?_eq_none_iff.1 hold
      rw [hold] at ht
      cases op with
      | declareTemplate declared f =>
        simp only [Operation.onNode, Option.elim_none] at ht
        split at ht
        · next heq =>
          subst heq
          cases ht
          exact (file_declareTemplate f hname).symm
        · cases ht
      | _ => simp [Operation.onNode] at ht
    | some old =>
      -- The node keeps its file, as the log keeps the first declaration.
      have hname : name ∈ declared log := by
        rw [← names_applyAll, ← hcoherent.isSome_template?_iff, hold]
        rfl
      obtain ⟨new, hnew, -, hfile⟩ := op.onNode_some name old
      rw [hold, hnew] at ht
      cases ht
      rw [hfile, file_concat log op hname, ih hold]

end OperationLog

/-! ## What was used -/

variable {g : Graph}

/-- An edge reached a name when it has a current record of it. -/
theorem Coherent.reached_eq_true_iff (h : g.Coherent) {name : String} :
    g.reached name = true ↔ ∃ owner id, ⟨name, true⟩ ∈ g.history owner id := by
  have hedge : ∀ e : Edge, e.reached name = true ↔ ⟨name, true⟩ ∈ e.history := by
    intro e
    rw [Edge.reached_eq_true_iff, Edge.currentNames]
    simp only [List.mem_map, List.mem_filter]
    constructor
    · rintro ⟨⟨n, c⟩, ⟨hr, hc⟩, rfl⟩
      obtain rfl : c = true := hc
      exact hr
    · intro hr
      exact ⟨_, ⟨hr, rfl⟩, rfl⟩
  simp only [reached, Template.reached, List.any_eq_true, hedge]
  constructor
  · rintro ⟨t, ht, e, he, hr⟩
    obtain ⟨id, hid⟩ := List.getElem?_of_mem he
    refine ⟨t.name, id, ?_⟩
    simpa [history, h.template?_eq_some_iff.2 ⟨ht, rfl⟩, Template.history, hid] using hr
  · rintro ⟨owner, id, hr⟩
    unfold history Template.history at hr
    cases ht : g.template? owner with
    | none => simp [ht] at hr
    | some t =>
      cases he : t.edges[id]? with
      | none => simp [ht, he] at hr
      | some e =>
        refine ⟨t, (h.template?_eq_some_iff.1 ht).1, e, List.mem_of_getElem? he, ?_⟩
        simpa [ht, he] using hr

/-- The names of the used templates, in the order of the graph. -/
theorem map_name_used (g : Graph) : g.used.map (·.name) = g.names.filter g.reached := by
  rw [used, names, List.filter_map]
  rfl

/-- Right after a watch was started nothing was used. -/
theorem Coherent.used_startWatch (h : g.Coherent) : (g.apply .startWatch).used = [] := by
  rw [used, List.filter_eq_nil_iff]
  intro t _ hreached
  obtain ⟨owner, id, hr⟩ := (h.apply .startWatch).reached_eq_true_iff.1 hreached
  rw [h.history_apply] at hr
  simp [Operation.recordOf?, Resolution.past] at hr

/-- Operations keep what an edge resolved to, in order. -/
theorem Coherent.resolved_prefix (h : g.Coherent) (ops : List Operation) (owner : String) (id : EdgeId) :
    (g.history owner id).map (·.name) <+: ((g.applyAll ops).history owner id).map (·.name) := by
  induction ops generalizing g with
  | nil => exact List.prefix_rfl
  | cons op ops ih =>
    refine List.IsPrefix.trans ?_ (ih (h.apply op))
    rw [h.history_apply, List.map_append]
    split
    · rw [List.map_map]
      exact List.prefix_append _ _
    · exact List.prefix_append _ _

open Classical in
/-- A graph is the outcome of its log. Its templates are those that were declared, in the order of
their first declarations and without repeats, with the edges they received; the history of an edge is
what was noted for it while it was there, in order and with repeats, and a record is current if no
watch was started after it. The used templates are the declared ones whose name is in a current record
of any edge, and the used files are theirs. Hence no later operation takes a name out of a history, and
nothing is used right after a watch was started. -/
theorem applyAll_refines_log (log : List Operation) :
    let g := empty.applyAll log
    g.names = OperationLog.declared log ∧ g.names.Nodup ∧
    (∀ owner, g.declarations owner = OperationLog.edges log owner) ∧
    (∀ owner id, g.history owner id = OperationLog.records log owner id) ∧
    g.used.map (·.name) = (OperationLog.declared log).filter (fun name =>
      ∃ owner id, ⟨name, true⟩ ∈ OperationLog.records log owner id) ∧
    g.usedFiles = (g.used.map (·.name)).filterMap (OperationLog.file log) ∧
    (∀ later owner id,
      (g.history owner id).map (·.name) <+: ((g.applyAll later).history owner id).map (·.name)) ∧
    (g.apply .startWatch).used = [] := by
  intro g
  have hcoherent : g.Coherent := coherent_empty.applyAll log
  refine ⟨OperationLog.names_applyAll log, hcoherent.nodup_names,
    OperationLog.declarations_applyAll log, OperationLog.history_applyAll log, ?_, ?_,
    hcoherent.resolved_prefix, hcoherent.used_startWatch⟩
  · rw [map_name_used, OperationLog.names_applyAll]
    refine List.filter_congr fun name _ => ?_
    rw [Bool.eq_iff_iff, hcoherent.reached_eq_true_iff, decide_eq_true_eq]
    simp only [g, OperationLog.history_applyAll]
  · rw [usedFiles, List.filterMap_map]
    refine List.filterMap_congr fun t ht => ?_
    have hmem : t ∈ g.templates := (List.mem_filter.1 ht).1
    exact OperationLog.file_applyAll (hcoherent.template?_eq_some_iff.2 ⟨hmem, rfl⟩)

end Graph

end TemplateDeps
