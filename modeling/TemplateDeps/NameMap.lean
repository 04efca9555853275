/-!
# Maps keyed by names

`NameMap α` assigns values to finitely many names. Its entries are kept in strictly increasing order of
the names, compared character by character by code point, which is also the order of their encoded
bytes. The order is part of the type, so a map has one representation only, and listing the keys gives
each name once, sorted (`NameMap.pairwise_keys`).
-/

namespace TemplateDeps

universe u

/-- Finitely many names with a value each, in increasing order of the names. -/
structure NameMap (α : Type u) where
  /-- The names and their values. -/
  entries : List (String × α)
  /-- The names increase strictly. -/
  increasing : entries.Pairwise (fun a b => a.1 < b.1)

namespace NameMap

variable {α : Type u}

instance [DecidableEq α] : DecidableEq (NameMap α) := fun a b =>
  decidable_of_iff (a.entries = b.entries) (by cases a; cases b; simp)

instance [Repr α] : Repr (NameMap α) := ⟨fun m p => reprPrec m.entries p⟩

/-! ## Entry lists

The operations are defined on lists of entries first. -/

/-- Look a name up, stopping at the first greater one. -/
def find? (name : String) : List (String × α) → Option α
  | [] => none
  | (k, v) :: rest => if k = name then some v else if name < k then none else find? name rest

/-- Put a value at the place of its name, over the value that was there. -/
def put (name : String) (value : α) : List (String × α) → List (String × α)
  | [] => [(name, value)]
  | (k, v) :: rest =>
    if name < k then (name, value) :: (k, v) :: rest
    else if name = k then (name, value) :: rest
    else (k, v) :: put name value rest

/-- A name that is neither smaller nor equal is greater. -/
theorem lt_of_not_lt_of_ne {a b : String} (h : ¬ a < b) (hne : a ≠ b) : b < a :=
  Classical.byContradiction fun h' => hne (String.le_antisymm (String.not_lt.1 h') (String.not_lt.1 h))

/-- Putting brings in no other entry. -/
theorem mem_put {name : String} {value : α} {e : String × α} {l : List (String × α)}
    (h : e ∈ put name value l) : e = (name, value) ∨ e ∈ l := by
  induction l with
  | nil => simpa [put] using h
  | cons hd tl ih =>
    obtain ⟨k, v⟩ := hd
    rw [put] at h
    split at h
    · simpa using h
    · split at h
      · rcases List.mem_cons.1 h with h | h
        · exact .inl h
        · exact .inr (List.mem_cons_of_mem _ h)
      · rcases List.mem_cons.1 h with h | h
        · exact .inr (h ▸ List.mem_cons_self)
        · exact (ih h).imp_right (List.mem_cons_of_mem _)

/-- Putting keeps the names increasing. -/
theorem increasing_put (name : String) (value : α) {l : List (String × α)}
    (h : l.Pairwise (fun a b => a.1 < b.1)) :
    (put name value l).Pairwise (fun a b => a.1 < b.1) := by
  induction l with
  | nil => simp [put]
  | cons hd tl ih =>
    obtain ⟨k, v⟩ := hd
    obtain ⟨hk, htl⟩ := List.pairwise_cons.1 h
    rw [put]
    split
    · next hlt =>
      refine List.pairwise_cons.2 ⟨fun e he => ?_, h⟩
      rcases List.mem_cons.1 he with rfl | he
      · exact hlt
      · exact String.lt_trans hlt (hk e he)
    · next hlt =>
      split
      · next heq => exact List.pairwise_cons.2 ⟨fun e he => heq ▸ hk e he, htl⟩
      · next hne =>
        refine List.pairwise_cons.2 ⟨fun e he => ?_, ih htl⟩
        rcases mem_put he with rfl | he
        · exact lt_of_not_lt_of_ne hlt hne
        · exact hk e he

/-- In an increasing list the look-up finds exactly the entries. -/
theorem find?_eq_some_iff {name : String} {value : α} {l : List (String × α)}
    (h : l.Pairwise (fun a b => a.1 < b.1)) : find? name l = some value ↔ (name, value) ∈ l := by
  induction l with
  | nil => simp [find?]
  | cons hd tl ih =>
    obtain ⟨k, v⟩ := hd
    obtain ⟨hk, htl⟩ := List.pairwise_cons.1 h
    rw [find?]
    split
    · next heq =>
      subst heq
      refine ⟨fun h => by cases h; exact List.mem_cons_self, fun h => ?_⟩
      rcases List.mem_cons.1 h with h | h
      · cases h; rfl
      · exact absurd (hk _ h) (String.lt_irrefl _)
    · next hne =>
      split
      · next hlt =>
        refine ⟨nofun, fun h => ?_⟩
        rcases List.mem_cons.1 h with h | h
        · cases h; exact absurd rfl hne
        · exact absurd (String.lt_trans hlt (hk _ h)) (String.lt_irrefl _)
      · rw [ih htl]
        refine ⟨List.mem_cons_of_mem _, fun h => ?_⟩
        rcases List.mem_cons.1 h with h | h
        · cases h; exact absurd rfl hne
        · exact h

/-- After putting, the name has the new value and the others keep theirs. -/
theorem find?_put (name other : String) (value : α) {l : List (String × α)}
    (h : l.Pairwise (fun a b => a.1 < b.1)) :
    find? other (put name value l) = if other = name then some value else find? other l := by
  induction l with
  | nil =>
    by_cases ho : other = name
    · subst ho; simp [put, find?]
    · simp [put, find?, ho, Ne.symm ho]
  | cons hd tl ih =>
    obtain ⟨k, v⟩ := hd
    obtain ⟨hk, htl⟩ := List.pairwise_cons.1 h
    rw [put]
    split
    · next hlt =>
      by_cases ho : other = name
      · subst ho; simp [find?]
      · rw [find?, if_neg (Ne.symm ho), if_neg ho]
        split
        · next hlt' =>
          have hlt'' := String.lt_trans hlt' hlt
          rw [find?, if_neg (fun heq => String.lt_irrefl _ (heq ▸ hlt'')), if_pos hlt'']
        · rfl
    · next hlt =>
      split
      · next heq =>
        subst heq
        by_cases ho : other = name
        · subst ho; simp [find?]
        · simp [find?, ho, Ne.symm ho]
      · next hne =>
        rw [find?, find?]
        split
        · next heq => subst heq; rw [if_neg (Ne.symm hne)]
        · split
          · next hlt' =>
            rw [if_neg fun heq : other = name => hlt (heq ▸ hlt')]
          · exact ih htl

/-! ## The map -/

/-- The map without names. -/
def empty : NameMap α := ⟨[], .nil⟩

instance : Inhabited (NameMap α) := ⟨empty⟩

/-- The value at a name. -/
def get? (m : NameMap α) (name : String) : Option α :=
  find? name m.entries

/-- Whether the name has a value. -/
def contains (m : NameMap α) (name : String) : Bool :=
  (m.get? name).isSome

/-- The map with `value` at `name`. -/
def insert (m : NameMap α) (name : String) (value : α) : NameMap α :=
  ⟨put name value m.entries, increasing_put name value m.increasing⟩

/-- The map of a list of entries; of two entries with one name the later counts. -/
def ofList (l : List (String × α)) : NameMap α :=
  l.foldl (fun m e => m.insert e.1 e.2) empty

/-- The names, increasing. -/
def keys (m : NameMap α) : List String :=
  m.entries.map (·.1)

/-- The number of names. -/
def size (m : NameMap α) : Nat :=
  m.entries.length

@[simp] theorem get?_empty (name : String) : (empty : NameMap α).get? name = none := rfl

/-- What a look-up finds after an insertion. -/
theorem get?_insert (m : NameMap α) (name other : String) (value : α) :
    (m.insert name value).get? other = if other = name then some value else m.get? other :=
  find?_put name other value m.increasing

@[simp] theorem get?_insert_self (m : NameMap α) (name : String) (value : α) :
    (m.insert name value).get? name = some value := by
  simp [get?_insert]

theorem get?_insert_of_ne (m : NameMap α) {name other : String} (value : α) (h : other ≠ name) :
    (m.insert name value).get? other = m.get? other := by
  simp [get?_insert, h]

/-- A look-up finds exactly the entries. -/
theorem get?_eq_some_iff (m : NameMap α) {name : String} {value : α} :
    m.get? name = some value ↔ (name, value) ∈ m.entries :=
  find?_eq_some_iff m.increasing

/-- The names that have a value are the keys. -/
theorem mem_keys_iff (m : NameMap α) {name : String} : name ∈ m.keys ↔ m.contains name = true := by
  simp only [keys, List.mem_map, contains, Option.isSome_iff_exists, get?_eq_some_iff]
  constructor
  · rintro ⟨⟨k, v⟩, h, rfl⟩; exact ⟨v, h⟩
  · rintro ⟨v, h⟩; exact ⟨(name, v), h, rfl⟩

/-- The keys increase strictly. -/
theorem pairwise_keys (m : NameMap α) : m.keys.Pairwise (· < ·) :=
  List.pairwise_map.2 m.increasing

end NameMap

/-- The distinct names of a list, in increasing order. -/
def sortedNames (names : List String) : List String :=
  (NameMap.ofList (names.map (·, ()))).keys

/-- Sorting leaves no repeats. -/
theorem pairwise_sortedNames (names : List String) : (sortedNames names).Pairwise (· < ·) :=
  NameMap.pairwise_keys _

/-- Folding insertions keeps the names that were there and adds the listed ones. -/
theorem mem_keys_foldl_insert {α : Type} (l : List (String × α)) (m : NameMap α) {name : String} :
    name ∈ (l.foldl (fun m e => m.insert e.1 e.2) m).keys ↔ name ∈ m.keys ∨ name ∈ l.map (·.1) := by
  induction l generalizing m with
  | nil => simp
  | cons e rest ih =>
    rw [List.foldl_cons, ih, NameMap.mem_keys_iff, NameMap.mem_keys_iff]
    by_cases h : name = e.1
    · subst h; simp [NameMap.contains]
    · simp [NameMap.contains, NameMap.get?_insert, h]

/-- Sorting keeps exactly the names of the list. -/
@[simp] theorem mem_sortedNames {names : List String} {name : String} :
    name ∈ sortedNames names ↔ name ∈ names := by
  rw [sortedNames, NameMap.ofList, mem_keys_foldl_insert]
  simp [NameMap.keys, NameMap.empty]

end TemplateDeps
