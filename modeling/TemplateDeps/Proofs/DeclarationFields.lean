import TemplateDeps.Declaration

/-!
# Declarations field by field

A declaration has just the attributes of its kind. It can also be seen as a record in which every attribute
has a field, whatever the kind: `Declaration.Fields`. Then nothing about the type keeps a parent from being
imported under a name, and it is for whoever fills in the fields to see to it. The functions that build
such records and set their fields ask for the kind first, and what they make is well-formed
(`Fields.WellFormed`): each way of building begins so, and no setter breaks it.

Both views are the same. `Declaration.fields` reads off a declaration what its fields are, building and setting
mean the same on both sides (`map_fields_plain` and what follows it), and the well-formed records are those of
the declarations (`exists_fields_eq_iff`).
-/

namespace TemplateDeps

namespace Declaration

/-- The fields of a declaration. Each may hold anything. -/
structure Fields where
  kind : Kind
  targets : List Target
  withContext : Option Bool
  ignoreMissing : Option Bool
  importedAs : Option String
  importedNames : Option (List String)
  deriving DecidableEq, Repr

namespace Fields

/-! ## Building and setting -/

/-- Fields without attributes. They are refused if there is no target, or if several are extended. -/
def plain (kind : Kind) (targets : List Target) : Except DeclarationFault Fields :=
  if targets.length = 0 then .error (.noTarget kind)
  else if kind = .extending ∧ 1 < targets.length then .error (.severalParents targets.length)
  else .ok ⟨kind, targets, none, none, none, none⟩

/-- The fields for a parent. -/
def parent (target : Target) : Fields :=
  ⟨.extending, [target], none, none, none, none⟩

/-- The fields for an include: the context is passed and the fragment must exist. -/
def fragment (targets : List Target) : Except DeclarationFault Fields := do
  let f ← plain .including targets
  return { f with withContext := some true, ignoreMissing := some false }

/-- The fields for an import: the context is not passed. -/
def library (target : Target) (binding : Binding) : Fields :=
  let (importedAs, importedNames) := match binding with
    | .whole name => (some name, none)
    | .members names => (none, some names)
  ⟨.importing, [target], some false, none, importedAs, importedNames⟩

/-- Set whether the context is passed, unless a template is extended. -/
def setContext (f : Fields) (value : Bool) : Fields :=
  if f.kind = .extending then f else { f with withContext := some value }

/-- Set whether a missing target is tolerated, if fragments are included. -/
def setIgnoreMissing (f : Fields) (value : Bool) : Fields :=
  if f.kind ≠ .including then f else { f with ignoreMissing := some value }

/-! ## Well-formedness -/

variable {f : Fields} {kind : Kind} {targets : List Target}

/-- The attributes fit the kind. -/
structure WellFormed (f : Fields) : Prop where
  targets : f.targets ≠ []
  parent : f.kind = .extending →
    (∃ target, f.targets = [target]) ∧ f.withContext = none ∧ f.ignoreMissing = none
  tolerance : f.kind = .importing → f.ignoreMissing = none
  binding : f.kind ≠ .importing → f.importedAs = none ∧ f.importedNames = none
  oneBinding : f.importedAs = none ∨ f.importedNames = none

/-- What is not refused has a target, and just one if it extends a template. -/
theorem plain_eq_ok (h : plain kind targets = .ok f) :
    targets ≠ [] ∧ (kind = .extending → ∃ target, targets = [target]) ∧
      f = ⟨kind, targets, none, none, none, none⟩ := by
  unfold plain at h
  split at h
  · cases h
  · next htargets =>
    split at h
    · cases h
    · next hseveral =>
      cases h
      refine ⟨fun hnil => htargets (by rw [hnil]; rfl), fun hparent => ?_, rfl⟩
      have hone : targets.length = 1 := by
        have hle : ¬ 1 < targets.length := fun hlt => hseveral ⟨hparent, hlt⟩
        omega
      exact List.length_eq_one_iff.1 hone

theorem wellFormed_of_plain (h : plain kind targets = .ok f) : f.WellFormed := by
  obtain ⟨htargets, hparent, rfl⟩ := plain_eq_ok h
  exact ⟨htargets, fun hkind => ⟨hparent hkind, rfl, rfl⟩, fun _ => rfl, fun _ => ⟨rfl, rfl⟩, .inl rfl⟩

theorem wellFormed_parent (target : Target) : (parent target).WellFormed :=
  ⟨List.cons_ne_nil _ _, fun _ => ⟨⟨target, rfl⟩, rfl, rfl⟩, fun _ => rfl, fun _ => ⟨rfl, rfl⟩, .inl rfl⟩

theorem wellFormed_of_fragment (h : fragment targets = .ok f) : f.WellFormed := by
  unfold fragment at h
  cases hplain : plain .including targets with
  | error cause =>
    rw [hplain] at h
    cases h
  | ok start =>
    rw [hplain] at h
    cases h
    obtain ⟨htargets, -, rfl⟩ := plain_eq_ok hplain
    exact ⟨htargets, nofun, nofun, fun _ => ⟨rfl, rfl⟩, .inl rfl⟩

theorem wellFormed_library (target : Target) (binding : Binding) : (library target binding).WellFormed := by
  refine ⟨List.cons_ne_nil _ _, nofun, fun _ => rfl, fun hkind => absurd rfl hkind, ?_⟩
  cases binding with
  | whole name => exact .inr rfl
  | members names => exact .inl rfl

/-- The context is not set where a template is extended. -/
theorem wellFormed_setContext (h : f.WellFormed) (value : Bool) : (f.setContext value).WellFormed := by
  unfold setContext
  split
  · exact h
  · next hkind => exact ⟨h.targets, fun hparent => absurd hparent hkind, h.tolerance, h.binding, h.oneBinding⟩

/-- The tolerance is set for fragments only. -/
theorem wellFormed_setIgnoreMissing (h : f.WellFormed) (value : Bool) :
    (f.setIgnoreMissing value).WellFormed := by
  unfold setIgnoreMissing
  split
  · exact h
  · next hkind =>
    have hincludes : f.kind = .including := Decidable.not_not.1 hkind
    refine ⟨h.targets, fun hparent => ?_, fun himports => ?_, h.binding, h.oneBinding⟩
    · cases hincludes.symm.trans hparent
    · cases hincludes.symm.trans himports

end Fields

/-! ## The fields of a declaration -/

/-- What the fields of the declaration hold. -/
def fields (d : Declaration) : Fields :=
  ⟨d.kind, d.targets, d.context?, d.ignoreMissing?, d.boundAs?, d.members?⟩

variable (d : Declaration) (targets : List Target)

/-- The same is refused on both sides, for the same reason, and what is built has the same fields. -/
theorem map_fields_plain (kind : Kind) : (plain kind targets).map fields = Fields.plain kind targets := by
  rcases targets with _ | ⟨first, _ | ⟨second, others⟩⟩ <;> cases kind <;> rfl

theorem fields_extending (target : Target) : (extending target).fields = .parent target := rfl

theorem map_fields_fragment : (fragment targets).map fields = Fields.fragment targets := by
  cases targets <;> rfl

theorem fields_library (target : Target) (binding : Binding) :
    (library target binding).fields = .library target binding := by
  cases binding <;> rfl

/-- Setting means the same on both sides. -/
theorem fields_setContext (value : Bool) : (d.setContext value).fields = d.fields.setContext value := by
  cases d <;> rfl

theorem fields_setIgnoreMissing (value : Bool) :
    (d.setIgnoreMissing value).fields = d.fields.setIgnoreMissing value := by
  cases d <;> rfl

/-- The attributes of a declaration fit its kind. -/
theorem wellFormed_fields : d.fields.WellFormed := by
  cases d with
  | extending target => exact Fields.wellFormed_parent target
  | including first others withContext ignoreMissing =>
    exact ⟨List.cons_ne_nil _ _, nofun, nofun, fun _ => ⟨rfl, rfl⟩, .inl rfl⟩
  | importing first others withContext binding =>
    refine ⟨List.cons_ne_nil _ _, nofun, fun _ => rfl, fun hkind => absurd rfl hkind, ?_⟩
    rcases binding with _ | _ | _
    · exact .inl rfl
    · exact .inr rfl
    · exact .inl rfl

/-- Declarations are the well-formed fields. -/
theorem exists_fields_eq_iff {f : Fields} : (∃ d : Declaration, d.fields = f) ↔ f.WellFormed := by
  constructor
  · rintro ⟨d, rfl⟩
    exact d.wellFormed_fields
  · intro h
    obtain ⟨kind, targets, withContext, ignoreMissing, importedAs, importedNames⟩ := f
    obtain ⟨first, others, rfl⟩ := List.exists_cons_of_ne_nil h.targets
    cases kind with
    | extending =>
      obtain ⟨⟨target, htarget⟩, rfl, rfl⟩ := h.parent rfl
      obtain ⟨rfl, rfl⟩ := h.binding (by simp)
      cases htarget
      exact ⟨.extending first, rfl⟩
    | including =>
      obtain ⟨rfl, rfl⟩ := h.binding (by simp)
      exact ⟨.including first others withContext ignoreMissing, rfl⟩
    | importing =>
      obtain rfl := h.tolerance rfl
      cases importedAs with
      | some name =>
        obtain rfl : importedNames = none := h.oneBinding.resolve_left (Option.some_ne_none name)
        exact ⟨.importing first others withContext (some (.whole name)), rfl⟩
      | none =>
        cases importedNames with
        | some names => exact ⟨.importing first others withContext (some (.members names)), rfl⟩
        | none => exact ⟨.importing first others withContext none, rfl⟩

end Declaration

end TemplateDeps
