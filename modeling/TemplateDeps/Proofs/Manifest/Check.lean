import TemplateDeps.Compilation
import Mathlib.Data.List.Basic

/-!
# What the check asks for

The check of a manifest looks at the same parts of it as its compiler, in code of its own. What both of
them need to know about an edge is whether it can be planned, and so the check is put in these terms here:
of an include it asks for a plan (`IncludeSpec.check_eq_ok_iff`), of an import for a plan and for something
to bind (`ImportSpec.check_eq_ok_iff`), of an entry for a name on top of that (`Entry.check_eq_ok_iff`).
No edge of a checked manifest is without a plan (`Manifest.exists_plan`). What a plan takes over from the
edge that was described is said in `EdgeSpec.plan_eq_ok`.
-/

namespace TemplateDeps

/-! ## Steps that may fail -/

section Except

variable {ε α β : Type}

/-- Two steps succeed when both do. -/
theorem bind_eq_ok_iff {x : Except ε α} {f : α → Except ε β} {b : β} :
    x >>= f = .ok b ↔ ∃ a, x = .ok a ∧ f a = .ok b := by
  cases x with
  | error fault => exact ⟨fun h => (nomatch h), fun ⟨_, h, _⟩ => (nomatch h)⟩
  | ok a => exact ⟨fun h => ⟨a, rfl, h⟩, fun ⟨_, rfl, h⟩ => h⟩

/-- Two checks one after the other succeed when both do. -/
theorem bind_check_eq_ok_iff {x y : Except ε Unit} :
    (x >>= fun _ => y) = .ok () ↔ x = .ok () ∧ y = .ok () := by
  rw [bind_eq_ok_iff]
  exact ⟨fun ⟨_, hx, hy⟩ => ⟨hx, hy⟩, fun ⟨hx, hy⟩ => ⟨(), hx, hy⟩⟩

/-- A check of all members of a list succeeds when each check does. -/
theorem forM_eq_ok_iff {check : α → Except ε Unit} {l : List α} :
    l.forM check = .ok () ↔ ∀ a ∈ l, check a = .ok () := by
  induction l with
  | nil => exact ⟨fun _ _ h => absurd h List.not_mem_nil, fun _ => rfl⟩
  | cons a rest ih =>
    rw [List.forall_mem_cons, ← ih]
    exact bind_check_eq_ok_iff

end Except

/-! ## Planning an edge -/

/-- A target is read as it is parsed. -/
theorem readTarget_eq_ok_iff {owner raw : String} {target : TargetRef} :
    readTarget owner raw = .ok target ↔ TargetRef.parse? raw = some target := by
  unfold readTarget
  cases TargetRef.parse? raw <;> simp

/-- Several targets are read as they are parsed. -/
theorem mapM_readTarget_eq_ok_iff {owner : String} {raws : List String} {targets : List TargetRef} :
    raws.mapM (readTarget owner) = .ok targets ↔
      raws.map TargetRef.parse? = targets.map some := by
  induction raws generalizing targets with
  | nil => cases targets <;> simp [pure, Except.pure]
  | cons raw rest ih =>
    rw [List.mapM_cons, bind_eq_ok_iff]
    constructor
    · rintro ⟨first, hfirst, hrest⟩
      obtain ⟨others, hothers, heq⟩ := bind_eq_ok_iff.1 hrest
      cases heq
      rw [List.map_cons, List.map_cons, readTarget_eq_ok_iff.1 hfirst, ih.1 hothers]
    · intro h
      cases targets with
      | nil => cases h
      | cons first others =>
        obtain ⟨hfirst, hothers⟩ := List.cons.inj h
        exact ⟨first, readTarget_eq_ok_iff.2 hfirst,
          bind_eq_ok_iff.2 ⟨others, ih.2 hothers, rfl⟩⟩

/-- Setting attributes keeps the kind and the targets. -/
theorem Declaration.kind_setContext (d : Declaration) (value : Bool) :
    (d.setContext value).kind = d.kind := by
  cases d <;> rfl

theorem Declaration.targets_setContext (d : Declaration) (value : Bool) :
    (d.setContext value).targets = d.targets := by
  cases d <;> rfl

theorem Declaration.kind_setIgnoreMissing (d : Declaration) (value : Bool) :
    (d.setIgnoreMissing value).kind = d.kind := by
  cases d <;> rfl

theorem Declaration.targets_setIgnoreMissing (d : Declaration) (value : Bool) :
    (d.setIgnoreMissing value).targets = d.targets := by
  cases d <;> rfl

/-- A fragment is an include with the candidates it was given. -/
theorem Declaration.fragment_eq_ok {targets : List Target} {d : Declaration}
    (h : fragment targets = .ok d) : d.kind = .including ∧ d.targets = targets := by
  cases targets with
  | nil => cases h
  | cons first others => cases h; exact ⟨rfl, rfl⟩

/-- What a planned edge takes over from the edge that was described: the candidates, for the render and
for the graph, and whether it may lead nowhere. -/
theorem EdgeSpec.plan_eq_ok {owner : String} {spec : EdgeSpec} {p : PlannedEdge}
    (h : spec.plan owner = .ok p) :
    p.targets = spec.candidates ∧
    p.declaration.targets = spec.candidates.map TargetRef.target ∧
    (p.declaration.kind = .including && p.ignoreMissing) = spec.optional := by
  cases spec with
  | extending raw =>
    obtain ⟨target, htarget, heq⟩ := bind_eq_ok_iff.1 h
    cases heq
    have hcandidates : (extending raw).candidates = [target] := by
      simp [candidates, written, readTarget_eq_ok_iff.1 htarget]
    rw [hcandidates]
    exact ⟨rfl, rfl, rfl⟩
  | including spec =>
    obtain ⟨targets, htargets, hrest⟩ := bind_eq_ok_iff.1 h
    have hcandidates : (including spec).candidates = targets := by
      have hparsed := congrArg (List.filterMap id) (mapM_readTarget_eq_ok_iff.1 htargets)
      simpa [candidates, written, List.filterMap_map, Function.comp_def] using hparsed
    rw [hcandidates]
    cases hd : Declaration.fragment (targets.map TargetRef.target) with
    | error cause => rw [hd] at hrest; cases hrest
    | ok d =>
      rw [hd] at hrest
      cases hrest
      obtain ⟨hkind, hall⟩ := Declaration.fragment_eq_ok hd
      refine ⟨rfl, ?_, ?_⟩
      · rw [Declaration.targets_setIgnoreMissing, Declaration.targets_setContext, hall]
      · rw [Declaration.kind_setIgnoreMissing, Declaration.kind_setContext, hkind]
        rfl
  | importing spec =>
    obtain ⟨target, htarget, hrest⟩ := bind_eq_ok_iff.1 h
    obtain ⟨binding, -, heq⟩ := bind_eq_ok_iff.1 hrest
    cases heq
    have hcandidates : (importing spec).candidates = [target] := by
      simp [candidates, written, readTarget_eq_ok_iff.1 htarget]
    rw [hcandidates]
    exact ⟨rfl, rfl, rfl⟩

/-! ## What the check asks for -/

/-- A target passes the check when it can be parsed. -/
theorem checkTarget_eq_ok_iff {owner raw : String} {kind : Kind} :
    checkTarget owner kind raw = .ok () ↔ ∃ target, TargetRef.parse? raw = some target := by
  unfold checkTarget
  cases TargetRef.parse? raw <;> simp

/-- A checked include can be planned. -/
theorem IncludeSpec.exists_plan {owner : String} {spec : IncludeSpec}
    (h : spec.check owner = .ok ()) : ∃ p, (EdgeSpec.including spec).plan owner = .ok p := by
  unfold check at h
  split at h
  · cases h
  · next hne =>
    have hparse : ∀ raw ∈ spec.targets, ∃ target, TargetRef.parse? raw = some target :=
      fun raw hraw => checkTarget_eq_ok_iff.1 (forM_eq_ok_iff.1 h raw hraw)
    have hread : spec.targets.mapM (readTarget owner) =
        .ok (spec.targets.filterMap TargetRef.parse?) := by
      rw [mapM_readTarget_eq_ok_iff, List.map_filterMap]
      refine (List.filterMap_eq_map_iff_forall_eq_some.2 fun raw hraw => ?_).symm
      obtain ⟨target, htarget⟩ := hparse raw hraw
      simp [htarget]
    -- An include without candidates does not pass the check, so that there is a first one.
    have hmem : ∃ target, target ∈ spec.targets.filterMap TargetRef.parse? := by
      obtain ⟨raw, hraw⟩ := List.exists_mem_of_ne_nil spec.targets (by simpa using hne)
      obtain ⟨target, htarget⟩ := hparse raw hraw
      exact ⟨target, List.mem_filterMap.2 ⟨raw, hraw, htarget⟩⟩
    rw [EdgeSpec.plan, hread]
    obtain ⟨target, htarget⟩ := hmem
    cases hall : spec.targets.filterMap TargetRef.parse? with
    | nil => simp [hall] at htarget
    | cons first others => exact ⟨_, rfl⟩

/-- A checked import can be planned. -/
theorem ImportSpec.exists_plan {owner : String} {spec : ImportSpec}
    (h : spec.check owner = .ok ()) : ∃ p, (EdgeSpec.importing spec).plan owner = .ok p := by
  obtain ⟨_, htarget, hbinding⟩ := bind_eq_ok_iff.1 h
  obtain ⟨target, htarget⟩ := checkTarget_eq_ok_iff.1 htarget
  have hread : readTarget owner spec.target = .ok target := readTarget_eq_ok_iff.2 htarget
  have hbound : ∃ binding, spec.binding owner = .ok binding := by
    unfold binding
    cases hname : spec.boundAs <;> cases hmembers : spec.members <;> simp_all
  obtain ⟨binding, hbinding⟩ := hbound
  exact ⟨_, by rw [EdgeSpec.plan, hread, hbinding]; rfl⟩

/-- Only a list of members is bound, and there is nothing in it. -/
def ImportSpec.BindsNothing (spec : ImportSpec) : Prop :=
  spec.boundAs = none ∧ spec.members = some []

instance (spec : ImportSpec) : Decidable spec.BindsNothing :=
  inferInstanceAs (Decidable (_ ∧ _))

/-- An include passes the check when it can be planned. -/
theorem IncludeSpec.check_eq_ok_iff {owner : String} {spec : IncludeSpec} :
    spec.check owner = .ok () ↔ ∃ p, (EdgeSpec.including spec).plan owner = .ok p := by
  refine ⟨IncludeSpec.exists_plan, ?_⟩
  rintro ⟨p, hp⟩
  obtain ⟨targets, htargets, hrest⟩ := bind_eq_ok_iff.1 hp
  have hparsed := mapM_readTarget_eq_ok_iff.1 htargets
  unfold check
  split
  · next hempty =>
    -- A fragment without candidates is no declaration.
    rw [List.isEmpty_iff.1 hempty, List.map_nil, eq_comm, List.map_eq_nil_iff] at hparsed
    subst hparsed
    cases hrest
  · refine forM_eq_ok_iff.2 fun raw hraw => checkTarget_eq_ok_iff.2 ?_
    have hmem : TargetRef.parse? raw ∈ targets.map some := hparsed ▸ List.mem_map_of_mem hraw
    obtain ⟨target, -, htarget⟩ := List.mem_map.1 hmem
    exact ⟨target, htarget.symm⟩

/-- An import passes the check when it can be planned and binds something. -/
theorem ImportSpec.check_eq_ok_iff {owner : String} {spec : ImportSpec} :
    spec.check owner = .ok () ↔
      (∃ p, (EdgeSpec.importing spec).plan owner = .ok p) ∧ ¬ spec.BindsNothing := by
  constructor
  · intro h
    refine ⟨ImportSpec.exists_plan h, ?_⟩
    rintro ⟨hname, hmembers⟩
    obtain ⟨_, -, hbinding⟩ := bind_eq_ok_iff.1 h
    rw [hname, hmembers] at hbinding
    cases hbinding
  · rintro ⟨⟨p, hp⟩, hbinds⟩
    obtain ⟨target, htarget, hrest⟩ := bind_eq_ok_iff.1 hp
    obtain ⟨binding, hbinding, -⟩ := bind_eq_ok_iff.1 hrest
    refine bind_eq_ok_iff.2 ⟨(), checkTarget_eq_ok_iff.2 ⟨target, readTarget_eq_ok_iff.1 htarget⟩, ?_⟩
    unfold ImportSpec.binding at hbinding
    unfold BindsNothing at hbinds
    split
    · next hname hmembers => simp [hname, hmembers] at hbinding
    · next hname hmembers => simp [hname, hmembers] at hbinding
    · next hname hmembers => exact absurd ⟨hname, hmembers⟩ hbinds
    · rfl

/-- The target of a parent passes the check when the edge to it can be planned. -/
theorem checkTarget_extending_eq_ok_iff {owner raw : String} :
    checkTarget owner .extending raw = .ok () ↔
      ∃ p, (EdgeSpec.extending raw).plan owner = .ok p := by
  rw [checkTarget_eq_ok_iff]
  constructor
  · rintro ⟨target, htarget⟩
    exact ⟨_, bind_eq_ok_iff.2 ⟨target, readTarget_eq_ok_iff.2 htarget, rfl⟩⟩
  · rintro ⟨p, hp⟩
    obtain ⟨target, htarget, -⟩ := bind_eq_ok_iff.1 hp
    exact ⟨target, readTarget_eq_ok_iff.1 htarget⟩

/-- An entry passes the check when its name is not blank, its edges can be planned and its imports bind
something. -/
theorem Entry.check_eq_ok_iff {name : String} {entry : Entry} :
    entry.check name = .ok () ↔
      (Text.trim name).isEmpty = false ∧ (∀ spec ∈ entry.edges, ∃ p, spec.plan name = .ok p) ∧
      ∀ spec ∈ entry.imports, ¬ spec.BindsNothing := by
  have hparts : entry.check name = .ok () ↔ (Text.trim name).isEmpty = false ∧
      (∀ raw ∈ entry.parent.toList, checkTarget name .extending raw = .ok ()) ∧
      (∀ spec ∈ entry.includes, spec.check name = .ok ()) ∧
      ∀ spec ∈ entry.imports, spec.check name = .ok () := by
    unfold check
    dsimp only
    cases hname : (Text.trim name).isEmpty with
    | true =>
      refine iff_of_false (fun h => ?_) (fun h => nomatch h.1)
      obtain ⟨_, hblank, -⟩ := bind_eq_ok_iff.1 h
      cases hblank
    | false =>
      simp only [Bool.false_eq_true, if_false, bind_check_eq_ok_iff, forM_eq_ok_iff, true_and]
  simp only [hparts, checkTarget_extending_eq_ok_iff, IncludeSpec.check_eq_ok_iff,
    ImportSpec.check_eq_ok_iff, edges, List.forall_mem_append, List.forall_mem_map]
  constructor
  · rintro ⟨hname, hparent, hincludes, himports⟩
    exact ⟨hname, ⟨⟨hparent, hincludes⟩, fun spec hspec => (himports spec hspec).1⟩,
      fun spec hspec => (himports spec hspec).2⟩
  · rintro ⟨hname, ⟨⟨hparent, hincludes⟩, himports⟩, hbinds⟩
    exact ⟨hname, hparent, hincludes, fun spec hspec => ⟨himports spec hspec, hbinds spec hspec⟩⟩

/-- A description passes the check when it has entries and all of them do. -/
theorem RawManifest.validate_eq_ok_iff {raw : RawManifest} :
    raw.validate = .ok () ↔
      raw.templates.entries ≠ [] ∧ ∀ e ∈ raw.templates.entries, e.2.check e.1 = .ok () := by
  unfold validate
  split
  · next hempty => simp [List.isEmpty_iff.1 hempty]
  · next hentries =>
    rw [forM_eq_ok_iff]
    exact ⟨fun h => ⟨by simpa using hentries, h⟩, fun h => h.2⟩

/-- Every edge of a manifest can be planned. -/
theorem Manifest.exists_plan (m : Manifest) {name : String} {entry : Entry}
    (hentry : m.get? name = some entry) {spec : EdgeSpec} (hspec : spec ∈ entry.edges) :
    ∃ p, spec.plan name = .ok p := by
  have hmem : (name, entry) ∈ m.raw.templates.entries := (NameMap.get?_eq_some_iff _).1 hentry
  have hcheck := (RawManifest.validate_eq_ok_iff.1 m.valid).2 (name, entry) hmem
  exact (Entry.check_eq_ok_iff.1 hcheck).2.1 spec hspec

end TemplateDeps
