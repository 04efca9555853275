import TemplateDeps.Proofs.Graph.Coherence

/-!
# What a graph holds of one template

Two views of a graph are enough to speak of edges and of what they resolved to. `declarations` lists
the declarations of a template, so that the position of an edge is its position in this list, and
`history` lists the records of one edge. Neither knows of nodes: a name that was never declared has no
declarations, and an edge that is not there has no records.

`declarations_apply` and `history_apply` say what an operation does to the views. Declarations are only
put at the end, hence a position that was handed out is kept (`edgeId?_applyAll`). Records are put at
the end or marked as past.
-/

namespace TemplateDeps

/-- The record, moved out of the current watch. -/
def Resolution.past (r : Resolution) : Resolution :=
  { r with current := false }

@[simp] theorem Edge.history_startWatch (e : Edge) :
    e.startWatch.history = e.history.map Resolution.past := by
  simp [history, startWatch, Resolution.past]

/-- Nothing is found exactly if it is not there. -/
private theorem findIdx?_eq_none_iff_not_mem {l : List Declaration} {d : Declaration} :
    l.findIdx? (fun e => decide (e = d)) = none ↔ d ∉ l := by
  rw [List.findIdx?_eq_none_iff]
  simp only [decide_eq_false_iff_not]
  exact ⟨fun h hmem => h d hmem rfl, fun h e he heq => h (heq ▸ he)⟩

/-! ## The views of a node -/

namespace Template

/-- The declarations of the edges. -/
def declarations (t : Template) : List Declaration :=
  t.edges.map (·.declaration)

/-- The records of edge `id`, in the order in which they were made. -/
def history (t : Template) (id : EdgeId) : List Resolution :=
  ((t.edges[id]?).map Edge.history).getD []

/-- The position of an edge is that of its declaration. -/
theorem edgeId?_eq_findIdx? (t : Template) (d : Declaration) :
    t.edgeId? d = t.declarations.findIdx? (fun e => decide (e = d)) := by
  rw [edgeId?, declarations, List.findIdx?_map]
  rfl

/-- An edge has a position when its declaration is in the list. -/
theorem edgeId?_eq_none_iff {t : Template} {d : Declaration} :
    t.edgeId? d = none ↔ d ∉ t.declarations := by
  rw [edgeId?_eq_findIdx?, findIdx?_eq_none_iff_not_mem]

/-- Declaring an edge gives the position that it has from then on. -/
theorem edgeId?_declare (t : Template) (d : Declaration) :
    (t.declare d).2.edgeId? d = some (t.declare d).1 := by
  unfold declare
  cases hfind : t.edgeId? d with
  | some id => exact hfind
  | none =>
    unfold edgeId? at hfind ⊢
    simp [List.findIdx?_append, hfind, Edge.ofDeclaration]

/-- Declaring an edge adds it at the end, unless its declaration is there. -/
theorem edges_declare (t : Template) (d : Declaration) :
    (t.declare d).2.edges =
      if d ∈ t.declarations then t.edges else t.edges ++ [Edge.ofDeclaration d] := by
  unfold declare
  cases hfind : t.edgeId? d with
  | none => rw [if_neg (edgeId?_eq_none_iff.1 hfind)]
  | some i =>
    rw [if_pos]
    exact Classical.not_not.1 fun hnot => by simp [edgeId?_eq_none_iff.2 hnot] at hfind

@[simp] theorem declarations_declare (t : Template) (d : Declaration) :
    (t.declare d).2.declarations = adjoin t.declarations d := by
  rw [declarations, edges_declare, adjoin]
  split <;> simp [declarations, Edge.ofDeclaration]

@[simp] theorem declarations_record (t : Template) (id : EdgeId) (name : String) :
    (t.record id name).declarations = t.declarations := by
  apply List.ext_getElem?
  intro i
  simp only [declarations, record, List.getElem?_map, List.getElem?_modify]
  split <;> simp [Function.comp_def]

@[simp] theorem declarations_startWatch (t : Template) :
    t.startWatch.declarations = t.declarations := by
  simp [declarations, startWatch, Function.comp_def]

@[simp] theorem declarations_fresh (name : String) (file : Option FilePath) :
    (fresh name file).declarations = [] := rfl

@[simp] theorem declarations_markReloaded (t : Template) :
    t.markReloaded.declarations = t.declarations := rfl

/-- An edge that is not there has no records. -/
theorem history_eq_nil {t : Template} {id : EdgeId} (hid : t.declarations.length ≤ id) :
    t.history id = [] := by
  rw [declarations, List.length_map] at hid
  simp [history, List.getElem?_eq_none hid]

/-- A declared edge starts without records. -/
@[simp] theorem history_declare (t : Template) (d : Declaration) (id : EdgeId) :
    (t.declare d).2.history id = t.history id := by
  rw [history, edges_declare]
  split
  · rfl
  · by_cases hid : id < t.edges.length
    · simp [history, List.getElem?_append_left hid]
    · -- Behind the old edges there is at most the new one.
      have hle : t.edges.length ≤ id := Nat.le_of_not_lt hid
      rw [history_eq_nil (by simpa [declarations] using hle), List.getElem?_append_right hle,
        List.getElem?_singleton]
      split <;> simp [Edge.ofDeclaration, Edge.history]

@[simp] theorem history_startWatch (t : Template) (id : EdgeId) :
    t.startWatch.history id = (t.history id).map Resolution.past := by
  simp only [history, startWatch, List.getElem?_map]
  cases t.edges[id]? <;> simp

@[simp] theorem history_fresh (name : String) (file : Option FilePath) (id : EdgeId) :
    (fresh name file).history id = [] := rfl

@[simp] theorem history_markReloaded (t : Template) (id : EdgeId) :
    t.markReloaded.history id = t.history id := rfl

/-- A record is put at the end of the history of its edge, if the edge is there. -/
theorem history_record (t : Template) (i id : EdgeId) (name : String) :
    (t.record i name).history id =
      t.history id ++ if i = id ∧ id < t.declarations.length then [⟨name, true⟩] else [] := by
  simp only [history, record, List.getElem?_modify, declarations, List.length_map]
  by_cases hid : id < t.edges.length
  · by_cases hi : i = id <;> simp [hi, hid]
  · simp [hid]

end Template

/-! ## The views of a graph -/

namespace Graph

variable {g : Graph}

/-- The declarations of a template, in the order of their positions. -/
def declarations (g : Graph) (owner : String) : List Declaration :=
  ((g.template? owner).map Template.declarations).getD []

/-- The records of an edge, in the order in which they were made. -/
def history (g : Graph) (owner : String) (id : EdgeId) : List Resolution :=
  ((g.template? owner).map (·.history id)).getD []

/-- The position of the edge of `owner` with declaration `d`. -/
def edgeId? (g : Graph) (owner : String) (d : Declaration) : Option EdgeId :=
  (g.template? owner).bind (·.edgeId? d)

/-- The declaration that an operation asks to add to those of `owner`. -/
def Operation.edgeOf? (owner : String) : Operation → Option Declaration
  | .declare o d => if o = owner then some d else none
  | _ => none

/-- The name that an operation asks to record for edge `id` of `owner`. -/
def Operation.recordOf? (owner : String) (id : EdgeId) : Operation → Option String
  | .record o i name => if o = owner ∧ i = id then some name else none
  | _ => none

/-- An edge that is not there has no records. -/
theorem history_eq_nil {owner : String} {id : EdgeId} (hid : (g.declarations owner).length ≤ id) :
    g.history owner id = [] := by
  unfold history
  cases howner : g.template? owner with
  | none => rfl
  | some t =>
    simp only [declarations, howner, Option.map_some, Option.getD_some] at hid
    simpa using Template.history_eq_nil hid

/-- Only declaring an edge of a known template adds to its declarations. -/
theorem Coherent.declarations_apply (h : g.Coherent) (op : Operation) (owner : String) :
    (g.apply op).declarations owner =
      match op.edgeOf? owner with
      | some d =>
        if owner ∈ g.names then adjoin (g.declarations owner) d else g.declarations owner
      | none => g.declarations owner := by
  have hknown : (g.template? owner).isSome = true ↔ owner ∈ g.names := h.isSome_template?_iff
  unfold declarations
  rw [h.template?_apply]
  cases op with
  | declareTemplate name file =>
    by_cases hname : name = owner
    · subst hname
      cases g.template? name <;> simp [Operation.onNode, Operation.edgeOf?]
    · simp [Operation.onNode, Operation.edgeOf?, hname]
  | declare o d =>
    by_cases howner : o = owner
    · subst howner
      cases htemplate : g.template? o with
      | none =>
        have hmem : o ∉ g.names := h.template?_eq_none_iff.1 htemplate
        simp [Operation.onNode, Operation.edgeOf?, hmem]
      | some t =>
        have hmem : o ∈ g.names := by
          rw [← hknown, htemplate]
          rfl
        simp [Operation.onNode, Operation.edgeOf?, hmem]
    · simp [Operation.onNode, Operation.edgeOf?, howner]
  | record o id name =>
    by_cases howner : o = owner
    · cases g.template? owner <;> simp [Operation.onNode, Operation.edgeOf?, howner]
    · simp [Operation.onNode, Operation.edgeOf?, howner]
  | startWatch =>
    cases g.template? owner <;> simp [Operation.onNode, Operation.edgeOf?]
  | setWatchConcurrent on => rfl

/-- A record of an edge that is there is put at the end of its history, and starting a watch moves
every record out of the current one. -/
theorem Coherent.history_apply (h : g.Coherent) (op : Operation) (owner : String) (id : EdgeId) :
    (g.apply op).history owner id =
      (if op = .startWatch then (g.history owner id).map Resolution.past else g.history owner id) ++
        match op.recordOf? owner id with
        | some name => if id < (g.declarations owner).length then [⟨name, true⟩] else []
        | none => [] := by
  unfold history declarations
  rw [h.template?_apply]
  cases op with
  | declareTemplate name file =>
    by_cases hname : name = owner
    · subst hname
      cases g.template? name <;> simp [Operation.onNode, Operation.recordOf?]
    · simp [Operation.onNode, Operation.recordOf?, hname]
  | declare o d =>
    by_cases howner : o = owner
    · cases g.template? owner <;> simp [Operation.onNode, Operation.recordOf?, howner]
    · simp [Operation.onNode, Operation.recordOf?, howner]
  | record o i name =>
    by_cases howner : o = owner
    · subst howner
      cases g.template? o with
      | none => by_cases hi : i = id <;> simp [Operation.onNode, Operation.recordOf?, hi]
      | some t =>
        by_cases hi : i = id <;> simp [Operation.onNode, Operation.recordOf?, Template.history_record, hi]
    · simp [Operation.onNode, Operation.recordOf?, howner]
  | startWatch =>
    cases g.template? owner <;> simp [Operation.onNode, Operation.recordOf?]
  | setWatchConcurrent on => simp [Operation.onNode, Operation.recordOf?]

/-! ## Positions of edges -/

/-- The position of an edge is that of its declaration. -/
theorem edgeId?_eq_findIdx? (g : Graph) (owner : String) (d : Declaration) :
    g.edgeId? owner d = (g.declarations owner).findIdx? (fun e => decide (e = d)) := by
  unfold edgeId? declarations
  cases g.template? owner with
  | none => rfl
  | some t => exact t.edgeId?_eq_findIdx? d

/-- An edge has a position when its declaration is among those of its template. -/
theorem edgeId?_eq_none_iff {owner : String} {d : Declaration} :
    g.edgeId? owner d = none ↔ d ∉ g.declarations owner := by
  rw [edgeId?_eq_findIdx?, findIdx?_eq_none_iff_not_mem]

/-- At the position of an edge stands its declaration. -/
theorem getElem?_declarations {owner : String} {d : Declaration} {id : EdgeId}
    (hid : g.edgeId? owner d = some id) : (g.declarations owner)[id]? = some d := by
  rw [edgeId?_eq_findIdx?, List.findIdx?_eq_some_iff_getElem] at hid
  obtain ⟨hlt, heq, -⟩ := hid
  rw [List.getElem?_eq_getElem hlt, of_decide_eq_true heq]

/-- Declarations stay at their places. -/
theorem Coherent.declarations_prefix (h : g.Coherent) (op : Operation) (owner : String) :
    g.declarations owner <+: (g.apply op).declarations owner := by
  rw [h.declarations_apply]
  split
  · split
    · exact prefix_adjoin _ _
    · exact List.prefix_rfl
  · exact List.prefix_rfl

/-- A position that was handed out is kept. -/
theorem Coherent.edgeId?_apply (h : g.Coherent) (op : Operation) {owner : String} {d : Declaration}
    {id : EdgeId} (hid : g.edgeId? owner d = some id) : (g.apply op).edgeId? owner d = some id := by
  rw [edgeId?_eq_findIdx?] at hid ⊢
  exact (h.declarations_prefix op owner).findIdx?_eq_some hid

/-- A position that was handed out is never taken back. -/
theorem Coherent.edgeId?_applyAll (h : g.Coherent) (ops : List Operation) {owner : String}
    {d : Declaration} {id : EdgeId} (hid : g.edgeId? owner d = some id) :
    (g.applyAll ops).edgeId? owner d = some id := by
  induction ops generalizing g with
  | nil => exact hid
  | cons op ops ih => exact ih (h.apply op) (h.edgeId?_apply op hid)

/-- A template that was declared stays declared. -/
theorem Coherent.mem_names_apply (h : g.Coherent) (op : Operation) {name : String}
    (hname : name ∈ g.names) : name ∈ (g.apply op).names := by
  rw [h.names_apply]
  cases op with
  | declareTemplate declared file => exact mem_adjoin.2 (.inl hname)
  | _ => exact hname

/-- A template that was declared stays declared for good. -/
theorem Coherent.mem_names_applyAll (h : g.Coherent) (ops : List Operation) {name : String}
    (hname : name ∈ g.names) : name ∈ (g.applyAll ops).names := by
  induction ops generalizing g with
  | nil => exact hname
  | cons op ops ih => exact ih (h.apply op) (h.mem_names_apply op hname)

/-- Declaring an edge of a known template gives the position that the edge has from then on. -/
theorem Coherent.declare_eq_ok (h : g.Coherent) {owner : String} (howner : owner ∈ g.names)
    (d : Declaration) :
    ∃ id, g.declare owner d = .ok (id, g.apply (.declare owner d)) ∧
      (g.apply (.declare owner d)).edgeId? owner d = some id := by
  obtain ⟨t, ht⟩ := Option.isSome_iff_exists.1 (h.isSome_template?_iff.2 howner)
  refine ⟨(t.declare d).1, ?_, ?_⟩
  · rw [Graph.apply, declare_eq, ht]
  · rw [edgeId?, h.template?_apply, ht, Operation.onNode, if_pos rfl]
    exact t.edgeId?_declare d

/-- An edge that has a position can be recorded. -/
theorem record_eq_ok {owner : String} {d : Declaration} {id : EdgeId}
    (hid : g.edgeId? owner d = some id) (name : String) :
    g.record owner id name = .ok (g.apply (.record owner id name)) := by
  have hlt := (List.getElem?_eq_some_iff.1 (getElem?_declarations hid)).1
  rw [Graph.apply, record_eq]
  unfold declarations Template.declarations at hlt
  cases ht : g.template? owner with
  | none => rfl
  | some t =>
    rw [ht, Option.map_some, Option.getD_some, List.length_map] at hlt
    simp [hlt]

end Graph

end TemplateDeps
