import TemplateDeps.Graph.Operation
import Mathlib.Data.List.Basic
import Mathlib.Data.List.Induction

/-!
# Arena and index of a graph

A graph keeps its templates in a list and their positions in an index. `Graph.Coherent` says that the
index leads every name to the template of that name and to nothing else; it holds of every graph that
operations lead to (`Reachable.coherent`).

In a coherent graph the nodes live side by side: what an operation makes of the node of a name depends
on that node alone. `Operation.onNode` is that effect, `Operation.onNames` the effect on the list of
names, and `template?_apply` and `names_apply` say that together they are all that an operation does.
To get there, `modifyTemplate` is a change of one node and `extend` puts a node at the end. The
equations `apply_declareTemplate`, `apply_declare` and `apply_record` say once which of the two an
operation is, and `declare_eq` and `record_eq` when it is refused. Later proofs open no operation.
-/

namespace TemplateDeps

/-! ## Lists that grow at the end -/

section Adjoin

variable {α : Type} [DecidableEq α]

/-- The list with `a` at its end, unless `a` is in it already. -/
def adjoin (l : List α) (a : α) : List α :=
  if a ∈ l then l else l ++ [a]

/-- Nothing but `a` is added. -/
@[simp] theorem mem_adjoin {l : List α} {a b : α} : b ∈ adjoin l a ↔ b ∈ l ∨ b = a := by
  unfold adjoin
  split
  · next hmem =>
    constructor
    · exact .inl
    · rintro (hb | rfl)
      · exact hb
      · exact hmem
  · simp

/-- What is there already is not added. -/
theorem adjoin_of_mem {l : List α} {a : α} (h : a ∈ l) : adjoin l a = l :=
  if_pos h

/-- What was there stays in its place. -/
theorem prefix_adjoin (l : List α) (a : α) : l <+: adjoin l a := by
  unfold adjoin
  split
  · exact List.prefix_rfl
  · exact List.prefix_append l [a]

/-- Adjoining makes no repeats. -/
theorem nodup_adjoin {l : List α} (h : l.Nodup) (a : α) : (adjoin l a).Nodup := by
  unfold adjoin
  split
  · exact h
  · next hmem => simpa [List.nodup_append, h] using fun b hb (heq : b = a) => hmem (heq ▸ hb)

/-- Dropping repeats member by member is adjoining. -/
theorem eraseDups_concat (l : List α) (a : α) : (l ++ [a]).eraseDups = adjoin l.eraseDups a := by
  rw [List.eraseDups_append, adjoin]
  by_cases hmem : a ∈ l
  · simp [hmem, List.removeAll]
  · simp [hmem, List.removeAll, List.eraseDups_cons]

/-- The list with the members of another one put at its end in their order, each of them once. -/
def adjoinAll (l more : List α) : List α :=
  more.foldl adjoin l

@[simp] theorem adjoinAll_nil (l : List α) : adjoinAll l [] = l := rfl

@[simp] theorem adjoinAll_cons (l : List α) (a : α) (more : List α) :
    adjoinAll l (a :: more) = adjoinAll (adjoin l a) more := rfl

/-- Lists can be put at the end one after the other. -/
theorem adjoinAll_append (l us vs : List α) :
    adjoinAll l (us ++ vs) = adjoinAll (adjoinAll l us) vs :=
  List.foldl_append

/-- Put at the end of nothing, a list loses its repeats. -/
theorem adjoinAll_nil_left (l : List α) : adjoinAll [] l = l.eraseDups := by
  induction l using List.reverseRecOn with
  | nil => rfl
  | append_singleton l a ih =>
    rw [adjoinAll_append, ih, eraseDups_concat]
    rfl

/-- Dropping repeats does not look at what the members are. -/
theorem map_eraseDups {β : Type} [BEq β] [LawfulBEq β] {f : α → β} (hf : Function.Injective f)
    (l : List α) : l.eraseDups.map f = (l.map f).eraseDups := by
  induction l using List.reverseRecOn with
  | nil => rfl
  | append_singleton l a ih =>
    rw [List.map_append, List.eraseDups_append, List.eraseDups_append, List.map_append, ih]
    congr 1
    have hmem : f a ∈ l.map f ↔ a ∈ l := List.mem_map_of_injective hf
    by_cases ha : a ∈ l
    · simp [ha, hmem.2 ha, List.removeAll]
    · simp [ha, mt hmem.1 ha, List.removeAll, List.eraseDups_cons]

/-- Nothing but the members of the other list is added. -/
@[simp] theorem mem_adjoinAll {l more : List α} {b : α} : b ∈ adjoinAll l more ↔ b ∈ l ∨ b ∈ more := by
  induction more generalizing l with
  | nil => simp
  | cons a more ih => rw [adjoinAll_cons, ih, mem_adjoin, List.mem_cons, or_assoc]

end Adjoin

/-! ## Coherent graphs -/

/-- Declaring an edge keeps the name of its owner. -/
@[simp] theorem Template.name_declare (t : Template) (d : Declaration) :
    (t.declare d).2.name = t.name := by
  unfold declare
  split <;> rfl

/-- Declaring an edge keeps the file of its owner. -/
@[simp] theorem Template.file_declare (t : Template) (d : Declaration) :
    (t.declare d).2.file = t.file := by
  unfold declare
  split <;> rfl

/-- Declaring an edge keeps the mark of its owner. -/
@[simp] theorem Template.reloaded_declare (t : Template) (d : Declaration) :
    (t.declare d).2.reloaded = t.reloaded := by
  unfold declare
  split <;> rfl

namespace Graph

variable {g : Graph}

/-- The index holds the position of each template under its name, and nothing else. -/
def Coherent (g : Graph) : Prop :=
  ∀ name i, g.index.get? name = some i ↔ ∃ t, g.templates[i]? = some t ∧ t.name = name

/-- Only the names of the nodes matter for this. -/
theorem coherent_iff :
    g.Coherent ↔ ∀ name i, g.index.get? name = some i ↔ g.names[i]? = some name := by
  simp [Coherent, names]

/-- The graph with the node of `owner` changed by `f`. -/
def modifyTemplate (g : Graph) (owner : String) (f : Template → Template) : Graph :=
  match g.index.get? owner with
  | some i => { g with templates := g.templates.modify i f }
  | none => g

/-- A template stands at one position only. -/
theorem Coherent.position_unique (h : g.Coherent) {i j : Nat} {t u : Template}
    (hi : g.templates[i]? = some t) (hj : g.templates[j]? = some u) (hname : t.name = u.name) :
    i = j := by
  have hi' : g.index.get? u.name = some i := (h _ _).2 ⟨t, hi, hname⟩
  have hj' : g.index.get? u.name = some j := (h _ _).2 ⟨u, hj, rfl⟩
  exact Option.some.inj (hi'.symm.trans hj')

/-- A look-up finds exactly the templates of the list. -/
theorem Coherent.template?_eq_some_iff (h : g.Coherent) {name : String} {t : Template} :
    g.template? name = some t ↔ t ∈ g.templates ∧ t.name = name := by
  simp only [template?, Option.bind_eq_bind, Option.bind_eq_some_iff]
  constructor
  · rintro ⟨i, hindex, hi⟩
    obtain ⟨u, hu, hname⟩ := (h _ _).1 hindex
    obtain rfl : t = u := Option.some.inj (hi.symm.trans hu)
    exact ⟨List.mem_of_getElem? hi, hname⟩
  · rintro ⟨hmem, hname⟩
    obtain ⟨i, hi⟩ := List.getElem?_of_mem hmem
    exact ⟨i, (h _ _).2 ⟨t, hi, hname⟩, hi⟩

/-- The names that a look-up knows are those of the list. -/
theorem Coherent.isSome_template?_iff (h : g.Coherent) {name : String} :
    (g.template? name).isSome = true ↔ name ∈ g.names := by
  simp only [Option.isSome_iff_exists, h.template?_eq_some_iff, names, List.mem_map]

/-- An unknown name is not in the list. -/
theorem Coherent.template?_eq_none_iff (h : g.Coherent) {name : String} :
    g.template? name = none ↔ name ∉ g.names := by
  rw [← h.isSome_template?_iff, Option.isSome_iff_ne_none, not_not]

/-- In a coherent graph the index knows the names that look-ups know. -/
theorem Coherent.index_eq_none_iff (h : g.Coherent) {name : String} :
    g.index.get? name = none ↔ g.template? name = none := by
  constructor
  · intro hnone
    simp [template?, hnone]
  · intro hnone
    rw [Option.eq_none_iff_forall_ne_some]
    intro i hi
    obtain ⟨t, ht, -⟩ := (h _ _).1 hi
    simp [template?, hi, ht] at hnone

/-- No two templates have the same name. -/
theorem Coherent.nodup_names (h : g.Coherent) : g.names.Nodup := by
  rw [names, List.nodup_iff_pairwise_ne, List.pairwise_map, List.pairwise_iff_getElem]
  intro i j hi hj hlt hname
  exact absurd (h.position_unique (List.getElem?_eq_getElem hi) (List.getElem?_eq_getElem hj) hname)
    (Nat.ne_of_lt hlt)

/-! ## What an operation does -/

/-- The graph with a new node at the end. -/
def extend (g : Graph) (name : String) (file : Option FilePath) : Graph :=
  { g with
    templates := g.templates ++ [Template.fresh name file]
    index := g.index.insert name g.templates.length }

/-- Setting a position to what `f` makes of it changes the position by `f`. -/
theorem set_eq_modify {α : Type} {l : List α} {i : Nat} {a : α} (f : α → α)
    (h : l[i]? = some a) : l.set i (f a) = l.modify i f := by
  apply List.ext_getElem?
  intro j
  rw [List.getElem?_set, List.getElem?_modify]
  by_cases hj : i = j
  · subst hj
    obtain ⟨hlt, rfl⟩ := List.getElem?_eq_some_iff.1 h
    simp [hlt]
  · simp [hj]

/-- Declaring an edge changes the node of its owner and is refused when there is none. -/
theorem declare_eq (g : Graph) (owner : String) (d : Declaration) :
    g.declare owner d =
      match g.template? owner with
      | some t => .ok ((t.declare d).1, g.modifyTemplate owner fun t => (t.declare d).2)
      | none => .error (.unknownTemplate owner) := by
  unfold declare modifyTemplate template?
  cases hindex : g.index.get? owner with
  | none => rfl
  | some i =>
    cases ht : g.templates[i]? with
    | none => simp [ht]
    | some t => simp [ht, ← set_eq_modify (fun t => (t.declare d).2) ht]

/-- Noting a resolution changes the node of the owner, is refused when the owner has no such edge, and
does nothing when there is no owner. -/
theorem record_eq (g : Graph) (owner : String) (id : EdgeId) (name : String) :
    g.record owner id name =
      match g.template? owner with
      | some t =>
        if id < t.edges.length then .ok (g.modifyTemplate owner (·.record id name))
        else .error (.unknownEdge owner id)
      | none => .ok g := by
  unfold record modifyTemplate template?
  cases hindex : g.index.get? owner with
  | none => rfl
  | some i => cases ht : g.templates[i]? <;> simp [ht]

/-- A change that leaves the node as it is, or finds none, leaves the graph as it is. -/
theorem modifyTemplate_eq_self {owner : String} {f : Template → Template}
    (hf : ∀ t, g.template? owner = some t → f t = t) : g.modifyTemplate owner f = g := by
  unfold modifyTemplate
  cases hindex : g.index.get? owner with
  | none => rfl
  | some i =>
    have hsame : g.templates.modify i f = g.templates := by
      apply List.ext_getElem?
      intro j
      rw [List.getElem?_modify]
      by_cases hj : i = j
      · subst hj
        cases ht : g.templates[i]? with
        | none => rfl
        | some t => simp [hf t (by simp [template?, hindex, ht])]
      · simp [hj]
    simp [hsame]

/-- Declaring a template marks the node that is there, or puts a new one at the end. -/
theorem apply_declareTemplate (g : Graph) (name : String) (file : Option FilePath) :
    g.apply (.declareTemplate name file) =
      if (g.index.get? name).isSome then g.modifyTemplate name Template.markReloaded
      else g.extend name file := by
  show g.declareTemplate name file = _
  unfold declareTemplate modifyTemplate extend
  cases g.index.get? name <;> rfl

/-- Declaring an edge changes the node of its owner. -/
theorem apply_declare (g : Graph) (owner : String) (d : Declaration) :
    g.apply (.declare owner d) = g.modifyTemplate owner fun t => (t.declare d).2 := by
  rw [apply, declare_eq]
  cases ht : g.template? owner with
  | some t => rfl
  | none =>
    refine (modifyTemplate_eq_self fun t hsome => ?_).symm
    rw [ht] at hsome
    cases hsome

/-- Noting a resolution changes the node of the owner. -/
theorem apply_record (g : Graph) (owner : String) (id : EdgeId) (name : String) :
    g.apply (.record owner id name) = g.modifyTemplate owner (·.record id name) := by
  rw [apply, record_eq]
  cases ht : g.template? owner with
  | none =>
    refine (modifyTemplate_eq_self fun t hsome => ?_).symm
    rw [ht] at hsome
    cases hsome
  | some t =>
    by_cases hid : id < t.edges.length
    · simp only [hid, if_true]
    · simp only [hid, if_false]
      -- The change finds the node, but no edge in it.
      refine (modifyTemplate_eq_self fun u hsome => ?_).symm
      obtain rfl : t = u := Option.some.inj (ht.symm.trans hsome)
      rw [Template.record, List.modify_eq_self (Nat.le_of_not_lt hid)]

/-! ## After a change of one node -/

section ModifyTemplate

variable {f : Template → Template}

/-- A change that keeps the name keeps the list of names. -/
theorem names_modifyTemplate (g : Graph) (owner : String) (hf : ∀ t, (f t).name = t.name) :
    (g.modifyTemplate owner f).names = g.names := by
  unfold modifyTemplate
  cases g.index.get? owner with
  | none => rfl
  | some i =>
    apply List.ext_getElem?
    intro j
    simp only [names, List.getElem?_map, List.getElem?_modify]
    split <;> simp [Function.comp_def, hf]

/-- A change that keeps the name keeps arena and index together. -/
theorem Coherent.modifyTemplate (h : g.Coherent) (owner : String) (hf : ∀ t, (f t).name = t.name) :
    (g.modifyTemplate owner f).Coherent := by
  have hindex : (g.modifyTemplate owner f).index = g.index := by
    unfold Graph.modifyTemplate
    split <;> rfl
  rw [coherent_iff, names_modifyTemplate g owner hf, hindex]
  exact coherent_iff.1 h

/-- Only the node of the owner is changed. -/
theorem Coherent.template?_modifyTemplate (h : g.Coherent) (owner name : String) :
    (g.modifyTemplate owner f).template? name =
      if owner = name then (g.template? name).map f else g.template? name := by
  unfold Graph.modifyTemplate
  cases howner : g.index.get? owner with
  | none =>
    by_cases hname : owner = name
    · subst hname
      simp [template?, howner]
    · simp [hname]
  | some i =>
    cases hindex : g.index.get? name with
    | none => simp [template?, hindex]
    | some j =>
      obtain ⟨t, ht, htname⟩ := (h owner i).1 howner
      obtain ⟨u, hu, huname⟩ := (h name j).1 hindex
      by_cases hname : owner = name
      · subst hname
        obtain rfl : i = j := Option.some.inj (howner.symm.trans hindex)
        simp [template?, hindex, List.getElem?_modify]
      · have hij : i ≠ j := by
          rintro rfl
          rw [ht] at hu
          exact hname (htname ▸ huname ▸ congrArg Template.name (Option.some.inj hu))
        simp [template?, hindex, List.getElem?_modify, hname, hij]

end ModifyTemplate

/-! ## After a first declaration -/

section Extend

variable {name : String}

/-- The new name comes last. -/
theorem names_extend (g : Graph) (name : String) (file : Option FilePath) :
    (g.extend name file).names = g.names ++ [name] := by
  simp [Graph.extend, names, Template.fresh]

/-- A new node keeps arena and index together. -/
theorem Coherent.extend (h : g.Coherent) (hnew : g.index.get? name = none) (file : Option FilePath) :
    (g.extend name file).Coherent := by
  rw [coherent_iff] at h ⊢
  intro n i
  have hindex : (g.extend name file).index.get? n =
      if n = name then some g.names.length else g.index.get? n := by
    simp [Graph.extend, NameMap.get?_insert, names]
  rw [hindex, names_extend]
  by_cases hlt : i < g.names.length
  · -- Here stands what stood here before, which is not the new name.
    rw [List.getElem?_append_left hlt, ← h n i]
    by_cases hn : n = name
    · subst hn
      rw [if_pos rfl, hnew]
      simp only [Option.some.injEq, reduceCtorEq, iff_false]
      omega
    · rw [if_neg hn]
  · rw [List.getElem?_append_right (by omega), List.getElem?_singleton]
    by_cases hn : n = name
    · subst hn
      rw [if_pos rfl, Option.some.injEq]
      split
      · simp only [iff_true]
        omega
      · simp only [reduceCtorEq, iff_false]
        omega
    · rw [if_neg hn, h n i, List.getElem?_eq_none (by omega)]
      split <;> simp [Ne.symm hn]

/-- The new node is found under its name, and the others are as they were. -/
theorem Coherent.template?_extend (h : g.Coherent) (hnew : g.index.get? name = none)
    (file : Option FilePath) (n : String) :
    (g.extend name file).template? n = if name = n then some (.fresh name file) else g.template? n := by
  -- No old node has the new name, since the index would know it.
  have hold : ∀ t ∈ g.templates, t.name ≠ name := by
    intro t ht hname
    have hfound := h.template?_eq_some_iff.2 ⟨ht, hname⟩
    simp [h.index_eq_none_iff.1 hnew] at hfound
  apply Option.ext
  intro t
  have hmem : t ∈ (g.extend name file).templates ↔ t ∈ g.templates ∨ t = .fresh name file := by
    simp [Graph.extend]
  rw [(h.extend hnew file).template?_eq_some_iff, hmem]
  split
  · next hname =>
    subst hname
    constructor
    · rintro ⟨ht | rfl, htname⟩
      · exact absurd htname (hold t ht)
      · rfl
    · rintro ht
      cases ht
      exact ⟨.inr rfl, rfl⟩
  · next hname =>
    rw [h.template?_eq_some_iff]
    constructor
    · rintro ⟨ht | rfl, htname⟩
      · exact ⟨ht, htname⟩
      · exact absurd htname hname
    · rintro ⟨ht, htname⟩
      exact ⟨.inl ht, htname⟩

end Extend

/-! ## Operations node by node -/

/-- What an operation makes of the node of `name`. -/
def Operation.onNode (name : String) : Operation → Option Template → Option Template
  | .declareTemplate declared file, node =>
    if declared = name then some (node.elim (.fresh name file) .markReloaded) else node
  | .declare owner d, node => if owner = name then node.map fun t => (t.declare d).2 else node
  | .record owner id reached, node => if owner = name then node.map (·.record id reached) else node
  | .startWatch, node => node.map .startWatch
  | .setWatchConcurrent _, node => node

/-- An operation keeps a node, and the name and the file of it. -/
theorem Operation.onNode_some (op : Operation) (name : String) (t : Template) :
    ∃ u, op.onNode name (some t) = some u ∧ u.name = t.name ∧ u.file = t.file := by
  cases op with
  | declareTemplate declared file =>
    by_cases hname : declared = name <;> simp [onNode, hname, Template.markReloaded]
  | declare owner d =>
    by_cases hname : owner = name <;> simp [onNode, hname, Template.file_declare]
  | record owner id reached =>
    by_cases hname : owner = name <;> simp [onNode, hname, Template.record]
  | startWatch => exact ⟨_, rfl, rfl, rfl⟩
  | setWatchConcurrent on => exact ⟨_, rfl, rfl, rfl⟩

/-- What an operation makes of the list of names: a template is put at its end when it is declared for
the first time. -/
def Operation.onNames : Operation → List String → List String
  | .declareTemplate declared _, names => adjoin names declared
  | _, names => names

/-- Operations keep arena and index together. -/
theorem Coherent.apply (h : g.Coherent) (op : Operation) : (g.apply op).Coherent := by
  cases op with
  | declareTemplate name file =>
    rw [apply_declareTemplate]
    split
    · exact h.modifyTemplate name fun _ => rfl
    · next hnew => exact h.extend (by simpa using hnew) file
  | declare owner d =>
    rw [apply_declare]
    exact h.modifyTemplate owner fun t => t.name_declare d
  | record owner id name =>
    rw [apply_record]
    exact h.modifyTemplate owner fun _ => rfl
  | startWatch =>
    have hnames : (g.apply .startWatch).names = g.names := by
      simp [Graph.apply, startWatch, names, Template.startWatch]
    rw [coherent_iff, hnames]
    exact coherent_iff.1 h
  | setWatchConcurrent on => exact h

/-- What an operation makes of a node depends on that node alone. -/
theorem Coherent.template?_apply (h : g.Coherent) (op : Operation) (name : String) :
    (g.apply op).template? name = op.onNode name (g.template? name) := by
  cases op with
  | declareTemplate declared file =>
    have hindex : g.index.get? declared = none ↔ g.template? declared = none := h.index_eq_none_iff
    rw [apply_declareTemplate, Operation.onNode]
    by_cases hname : declared = name
    · subst hname
      cases ht : g.template? declared with
      | none =>
        -- The name is new in the index as well.
        have hnew := hindex.2 ht
        rw [hnew, if_neg (by simp), h.template?_extend hnew, if_pos rfl, if_pos rfl]
        rfl
      | some t =>
        have hknown : (g.index.get? declared).isSome = true := by
          rw [Option.isSome_iff_ne_none]
          intro hnone
          simp [hindex.1 hnone] at ht
        rw [if_pos hknown, h.template?_modifyTemplate, if_pos rfl, if_pos rfl, ht]
        rfl
    · rw [if_neg hname]
      split
      · rw [h.template?_modifyTemplate, if_neg hname]
      · next hnew => rw [h.template?_extend (by simpa using hnew), if_neg hname]
  | declare owner d =>
    rw [apply_declare]
    exact h.template?_modifyTemplate owner name
  | record owner id reached =>
    rw [apply_record]
    exact h.template?_modifyTemplate owner name
  | startWatch =>
    simp only [Graph.apply, startWatch, template?, Operation.onNode]
    cases g.index.get? name <;> simp
  | setWatchConcurrent on => rfl

/-- The list of names changes only when a template is declared for the first time. -/
theorem Coherent.names_apply (h : g.Coherent) (op : Operation) :
    (g.apply op).names = op.onNames g.names := by
  cases op with
  | declareTemplate declared file =>
    have hknown : (g.index.get? declared).isSome = true ↔ declared ∈ g.names := by
      rw [← h.isSome_template?_iff, Option.isSome_iff_ne_none, Option.isSome_iff_ne_none]
      exact not_congr h.index_eq_none_iff
    rw [apply_declareTemplate, Operation.onNames, adjoin]
    by_cases hmem : declared ∈ g.names
    · rw [if_pos (hknown.2 hmem), if_pos hmem]
      exact names_modifyTemplate g declared fun _ => rfl
    · rw [if_neg (mt hknown.1 hmem), if_neg hmem]
      exact names_extend g declared file
  | declare owner d =>
    rw [apply_declare]
    exact names_modifyTemplate g owner fun t => t.name_declare d
  | record owner id name =>
    rw [apply_record]
    exact names_modifyTemplate g owner fun _ => rfl
  | startWatch => simp [Graph.apply, startWatch, names, Operation.onNames, Template.startWatch]
  | setWatchConcurrent on => rfl

/-! ## Runs -/

/-- The graph without templates is coherent. -/
theorem coherent_empty : empty.Coherent := by
  intro name i
  simp [empty]

/-- Operations keep a graph coherent. -/
theorem Coherent.applyAll (h : g.Coherent) (ops : List Operation) : (g.applyAll ops).Coherent := by
  induction ops generalizing g with
  | nil => exact h
  | cons op ops ih => exact ih (h.apply op)

/-- Every graph that operations lead to is coherent. -/
theorem Reachable.coherent (h : g.Reachable) : g.Coherent :=
  h.induction coherent_empty fun _ op hg => hg.apply op

end Graph

end TemplateDeps
