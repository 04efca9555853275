import TemplateDeps.Proofs.Graph.Coherence

/-!
# Access by position

Whoever has a position from the index of a graph may go straight to the template there. This is how
templates are looked up and marked as reloaded, and it would break off if the index ever led out of the
list. `templateAt` is such an access, with the position as the failure, and `fetch` and `enter` are the
look-up and the declaration that rely on it. In a coherent graph they never fail
(`Coherent.fetch_eq`, `Coherent.enter_eq`).

`Holds g name i t` says what it means that `t` is the node of `name`: it stands at position `i` and nowhere
else, and what is found under this name is also what every operation on the template changes. `Lacks g name`
is the opposite. A coherent graph has one of the two for every name (`Coherent.holds`, `Coherent.lacks`), and
`Indexed` puts this together with the shape of the index.
-/

namespace TemplateDeps

namespace Graph

variable {g : Graph} {name : String}

/-! ## The size of the index -/

/-- The index has the names of the templates as its keys. -/
theorem Coherent.mem_keys_iff (h : g.Coherent) : name ∈ g.index.keys ↔ name ∈ g.names := by
  rw [NameMap.mem_keys_iff, NameMap.contains, Option.isSome_iff_ne_none, Ne, h.index_eq_none_iff,
    h.template?_eq_none_iff, not_not]

/-- The index has one entry for each template. -/
theorem Coherent.size_index (h : g.Coherent) : g.index.size = g.size := by
  have hkeys : g.index.keys.Nodup := by
    refine g.index.pairwise_keys.imp fun hlt heq => ?_
    subst heq
    exact String.lt_irrefl _ hlt
  have hperm : g.index.keys.Perm g.names :=
    (List.perm_ext_iff_of_nodup hkeys h.nodup_names).2 fun _ => h.mem_keys_iff
  have hlength := hperm.length_eq
  rwa [NameMap.keys, names, List.length_map, List.length_map] at hlength

/-- The index gives positions of the list, and at each the template it was asked for. -/
theorem Coherent.index_eq_some_iff (h : g.Coherent) {i : Nat} :
    g.index.get? name = some i ↔ ∃ _ : i < g.templates.length, g.templates[i].name = name := by
  rw [h name i]
  constructor
  · rintro ⟨t, ht, hname⟩
    obtain ⟨hlt, rfl⟩ := List.getElem?_eq_some_iff.1 ht
    exact ⟨hlt, hname⟩
  · rintro ⟨hlt, hname⟩
    exact ⟨_, List.getElem?_eq_getElem hlt, hname⟩

/-! ## Access without a check -/

/-- The template at a position, taken without asking whether there is one. A position outside of the list
is the failure. -/
def templateAt (g : Graph) (i : Nat) : Except Nat Template :=
  if h : i < g.templates.length then .ok g.templates[i] else .error i

/-- The graph with another node at a position. -/
def setAt (g : Graph) (i : Nat) (t : Template) : Graph :=
  { g with templates := g.templates.set i t }

/-- Look up a template, going straight to the position that the index gives. -/
def fetch (g : Graph) (name : String) : Except Nat (Option Template) :=
  match g.index.get? name with
  | some i => some <$> g.templateAt i
  | none => .ok none

/-- Declare a template, going straight to the position that the index gives for a known one. -/
def enter (g : Graph) (name : String) (file : Option FilePath) : Except Nat Graph :=
  match g.index.get? name with
  | some i => (fun t => g.setAt i t.markReloaded) <$> g.templateAt i
  | none => .ok (g.extend name file)

/-- There is a template at every position that the index gives. -/
theorem Coherent.templateAt_eq (h : g.Coherent) {i : Nat} (hi : g.index.get? name = some i) :
    ∃ t, g.templateAt i = .ok t ∧ g.templates[i]? = some t ∧ t.name = name := by
  obtain ⟨hlt, hname⟩ := h.index_eq_some_iff.1 hi
  exact ⟨_, dif_pos hlt, List.getElem?_eq_getElem hlt, hname⟩

/-- Changing the node of a template puts another one in its place. -/
theorem modifyTemplate_eq_setAt {i : Nat} {t : Template} (hi : g.index.get? name = some i)
    (ht : g.templates[i]? = some t) (f : Template → Template) :
    g.modifyTemplate name f = g.setAt i (f t) := by
  rw [modifyTemplate, hi, setAt, set_eq_modify f ht]

/-- A known template is marked where it stands when it is declared. -/
theorem declareTemplate_eq_setAt {i : Nat} {t : Template} (hi : g.index.get? name = some i)
    (ht : g.templates[i]? = some t) (file : Option FilePath) :
    g.declareTemplate name file = g.setAt i t.markReloaded := by
  have hdeclare := g.apply_declareTemplate name file
  rwa [hi, if_pos Option.isSome_some, modifyTemplate_eq_setAt hi ht] at hdeclare

/-- A template that the index does not know is put at the end when it is declared. -/
theorem declareTemplate_eq_extend (hnew : g.index.get? name = none) (file : Option FilePath) :
    g.declareTemplate name file = g.extend name file := by
  have hdeclare := g.apply_declareTemplate name file
  rwa [hnew, if_neg (by simp)] at hdeclare

/-- A look-up needs no check. -/
theorem Coherent.fetch_eq (h : g.Coherent) (name : String) : g.fetch name = .ok (g.template? name) := by
  unfold fetch template?
  cases hi : g.index.get? name with
  | none => rfl
  | some i =>
    obtain ⟨t, hat, ht, -⟩ := h.templateAt_eq hi
    simp only [hat, ht, Option.bind_eq_bind, Option.bind_some]
    rfl

/-- A declaration needs no check. -/
theorem Coherent.enter_eq (h : g.Coherent) (name : String) (file : Option FilePath) :
    g.enter name file = .ok (g.declareTemplate name file) := by
  unfold enter
  cases hi : g.index.get? name with
  | none => rw [declareTemplate_eq_extend hi]
  | some i =>
    obtain ⟨t, hat, ht, -⟩ := h.templateAt_eq hi
    rw [declareTemplate_eq_setAt hi ht]
    simp only [hat]
    rfl

/-! ## The node of a name -/

/-- The node of `name` is `t`. It stands at position `i` and no other node has this name. It is found under
the name, each operation on the template puts another node in its place and changes nothing else, and what is
put there is found from then on. -/
structure Holds (g : Graph) (name : String) (i : Nat) (t : Template) : Prop where
  position : g.index.get? name = some i
  node : g.templates[i]? = some t
  named : t.name = name
  alone : ∀ j u, g.templates[j]? = some u → u.name = name → j = i
  found : g.template? name = some t
  declareTemplate : ∀ file, g.declareTemplate name file = g.setAt i t.markReloaded
  declare : ∀ d, g.declare name d = .ok ((t.declare d).1, g.setAt i (t.declare d).2)
  record : ∀ id target, g.record name id target =
    if id < t.edges.length then .ok (g.setAt i (t.record id target)) else .error (.unknownEdge name id)
  replaced : ∀ u other, (g.setAt i u).template? other = if other = name then some u else g.template? other

/-- There is no node of `name`. Nothing is found under it, a declaration of the template puts a node at the
end, no edge can be declared and a resolution is passed over. -/
structure Lacks (g : Graph) (name : String) : Prop where
  position : g.index.get? name = none
  absent : name ∉ g.names
  found : g.template? name = none
  declareTemplate : ∀ file, g.declareTemplate name file = g.extend name file
  declare : ∀ d, g.declare name d = .error (.unknownTemplate name)
  record : ∀ id target, g.record name id target = .ok g

/-- What is found in a coherent graph is the node of its name. -/
theorem Coherent.holds (h : g.Coherent) {t : Template} (ht : g.template? name = some t) :
    ∃ i, g.Holds name i t := by
  obtain ⟨i, hi, hnode⟩ := Option.bind_eq_some_iff.1 ht
  have hnamed : t.name = name := (h.template?_eq_some_iff.1 ht).2
  refine ⟨i, hi, hnode, hnamed, ?_, ht, declareTemplate_eq_setAt hi hnode, ?_, ?_, ?_⟩
  · exact fun j u hu hname => h.position_unique hu hnode (hname.trans hnamed.symm)
  · intro d
    rw [declare_eq, ht, ← modifyTemplate_eq_setAt hi hnode fun t => (t.declare d).2]
  · intro id target
    rw [record_eq, ht, ← modifyTemplate_eq_setAt hi hnode (·.record id target)]
  · intro u other
    rw [← modifyTemplate_eq_setAt hi hnode fun _ => u, h.template?_modifyTemplate]
    by_cases hother : other = name
    · subst hother
      rw [if_pos rfl, if_pos rfl, ht, Option.map_some]
    · rw [if_neg (Ne.symm hother), if_neg hother]

/-- A name under which nothing is found has no node. -/
theorem Coherent.lacks (h : g.Coherent) (hnone : g.template? name = none) : g.Lacks name := by
  have hnew : g.index.get? name = none := h.index_eq_none_iff.2 hnone
  refine ⟨hnew, h.template?_eq_none_iff.1 hnone, hnone, declareTemplate_eq_extend hnew, ?_, ?_⟩
  · intro d
    rw [declare_eq, hnone]
  · intro id target
    rw [record_eq, hnone]

/-! ## Index and arena as a whole -/

/-- The index and the list of templates belong together, and the names that they know are the declared ones.
The index has an entry for each template and leads to it; names are distinct; access by position does what
access with a check does; every name has its node exactly if it was declared. -/
structure Indexed (g : Graph) (declared : List String) : Prop where
  position : ∀ name i,
    g.index.get? name = some i ↔ ∃ _ : i < g.templates.length, g.templates[i].name = name
  names : g.names.Nodup
  size : g.index.size = g.size
  fetch : ∀ name, g.fetch name = .ok (g.template? name)
  enter : ∀ name file, g.enter name file = .ok (g.declareTemplate name file)
  found : ∀ name, (g.template? name).isSome = true ↔ name ∈ declared
  known : ∀ name ∈ declared, ∃ i t, g.Holds name i t
  unknown : ∀ name, name ∉ declared → g.Lacks name

/-- In a coherent graph the index and the list of templates belong together. -/
theorem Coherent.indexed (h : g.Coherent) {declared : List String}
    (hdeclared : ∀ name, name ∈ g.names ↔ name ∈ declared) : g.Indexed declared where
  position _ _ := h.index_eq_some_iff
  names := h.nodup_names
  size := h.size_index
  fetch := h.fetch_eq
  enter := h.enter_eq
  found name := h.isSome_template?_iff.trans (hdeclared name)
  known name hname := by
    have hsome := h.isSome_template?_iff.2 ((hdeclared name).2 hname)
    obtain ⟨t, ht⟩ := Option.isSome_iff_exists.1 hsome
    obtain ⟨i, hi⟩ := h.holds ht
    exact ⟨i, t, hi⟩
  unknown name hname := h.lacks (h.template?_eq_none_iff.2 (mt (hdeclared name).1 hname))

end Graph

end TemplateDeps
