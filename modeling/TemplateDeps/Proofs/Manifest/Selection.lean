import TemplateDeps.Compilation
import TemplateDeps.Manifest.Walk
import Mathlib.Data.List.Basic

/-!
# The candidate that decides

A selection goes through the candidates of an edge and ends at the first one that says something: it stands
for a template of the manifest, or it is a variable without a value. `Manifest.decision?` is what a candidate
says, and `Manifest.select_eq_getD` puts a selection in these terms: it is the first decision of a candidate,
and what is left for an edge without a decision depends on whether the edge may lead nowhere. What comes behind
the deciding candidate is not looked at, and what stands for a missing name shows in nothing but the list of
the names that were tried. `Manifest.select_by_first_decision` says all this of compiled edges.

`Manifest.select_cases` lists the ways in which a selection can end, and from it follows what each outcome says
about the candidates: `Manifest.select_eq_ok_some_iff` is that the first one that exists is found.
-/

namespace TemplateDeps

/-- The name that a candidate stands for, if it stands for one. -/
def TargetRef.value? (vars : Variables) (target : TargetRef) : Option String :=
  (target.evaluate vars).toOption

namespace Manifest

variable {m : Manifest} {vars : Variables} {optional : Bool} {target : TargetRef}

/-- The candidate stands for a name that is no template of the manifest. -/
def Misses (m : Manifest) (vars : Variables) (target : TargetRef) (name : String) : Prop :=
  target.evaluate vars = .ok name ∧ m.contains name = false

/-- What a candidate decides: that its template is taken, or that the selection fails because a variable has
no value. What stands for a missing name decides nothing. -/
def decision? (m : Manifest) (vars : Variables) (target : TargetRef) :
    Option (Except Fault (Option String)) :=
  match target.evaluate vars with
  | .error fault => some (.error fault)
  | .ok name => if m.contains name then some (.ok (some name)) else none

/-- Nothing is decided by the candidates that stand for missing names. -/
theorem decision?_eq_none_iff : m.decision? vars target = none ↔ ∃ name, m.Misses vars target name := by
  unfold decision? Misses
  cases target.evaluate vars with
  | error fault => simp
  | ok name => simp

/-- Every other candidate stands for a template of the manifest or is a variable without a value. -/
theorem exists_decision (h : ¬ ∃ name, m.Misses vars target name) :
    (∃ name, target.evaluate vars = .ok name ∧ m.contains name = true ∧
      m.decision? vars target = some (.ok (some name))) ∨
    ∃ v, target = .var v ∧ vars.get? v = none ∧
      m.decision? vars target = some (.error (.unboundVariable v)) := by
  have hcontains : ∀ {name}, target.evaluate vars = .ok name → m.contains name = true := by
    intro name hvalue
    by_contra hmissing
    exact h ⟨name, hvalue, Bool.eq_false_iff.2 hmissing⟩
  cases target with
  | literal name => exact .inl ⟨name, rfl, hcontains rfl, if_pos (hcontains rfl)⟩
  | var v =>
    cases hvalue : vars.get? v with
    | none => exact .inr ⟨v, rfl, hvalue, by simp [decision?, TargetRef.evaluate, hvalue]⟩
    | some name =>
      have heval : (TargetRef.var v).evaluate vars = .ok name := by
        rw [TargetRef.evaluate, hvalue]
      exact .inl ⟨name, heval, hcontains heval, by simp [decision?, heval, hcontains heval]⟩

/-- Going through candidates ends with the first decision. Without one all of them were tried. -/
theorem selectAfter_eq (m : Manifest) (vars : Variables) (optional : Bool) (tried : List String)
    (targets : List TargetRef) :
    m.selectAfter vars optional tried targets =
      (targets.findSome? (m.decision? vars)).getD
        (if optional then .ok none
          else .error (.templateNotFound (tried ++ targets.filterMap (TargetRef.value? vars)))) := by
  induction targets generalizing tried with
  | nil => simp [selectAfter]
  | cons first rest ih =>
    rw [selectAfter, List.findSome?_cons]
    cases hvalue : first.evaluate vars with
    | error fault => simp [decision?, hvalue]
    | ok name =>
      have hname : TargetRef.value? vars first = some name := by
        rw [TargetRef.value?, hvalue]
        rfl
      by_cases hcontains : m.contains name = true
      · simp [decision?, hvalue, hcontains]
      · simp [decision?, hvalue, hcontains, ih, hname]

/-- A selection is the first decision of a candidate. -/
theorem select_eq_getD (m : Manifest) (vars : Variables) (optional : Bool) (targets : List TargetRef) :
    m.select vars optional targets =
      (targets.findSome? (m.decision? vars)).getD
        (if optional then .ok none
          else .error (.templateNotFound (targets.filterMap (TargetRef.value? vars)))) := by
  rw [select, selectAfter_eq, List.nil_append]

variable {before after targets : List TargetRef}

/-- Candidates that stand for missing names leave the decision to those behind them. -/
theorem findSome?_decision?_of_misses (hbefore : ∀ t ∈ before, ∃ name, m.Misses vars t name) :
    before.findSome? (m.decision? vars) = none :=
  List.findSome?_eq_none_iff.2 fun t ht => decision?_eq_none_iff.2 (hbefore t ht)

/-- Behind candidates that stand for missing names the next decision is taken, whatever comes after it. -/
theorem select_of_decision (hbefore : ∀ t ∈ before, ∃ name, m.Misses vars t name)
    {outcome : Except Fault (Option String)} (h : m.decision? vars target = some outcome) (optional : Bool)
    (after : List TargetRef) : m.select vars optional (before ++ target :: after) = outcome := by
  rw [select_eq_getD, List.findSome?_append, findSome?_decision?_of_misses hbefore, Option.none_or,
    List.findSome?_cons, h]
  rfl

/-- Candidates that stand for missing names are known by these names. -/
theorem map_evaluate_of_misses (h : ∀ t ∈ targets, ∃ name, m.Misses vars t name) :
    targets.map (TargetRef.evaluate vars) = (targets.filterMap (TargetRef.value? vars)).map .ok := by
  induction targets with
  | nil => rfl
  | cons first rest ih =>
    obtain ⟨⟨name, hvalue, -⟩, hrest⟩ := List.forall_mem_cons.1 h
    have hname : TargetRef.value? vars first = some name := by
      rw [TargetRef.value?, hvalue]
      rfl
    rw [List.map_cons, hvalue, ih hrest, List.filterMap_cons_some hname, List.map_cons]

/-- A list of candidates has a first one that decides, or all of them stand for missing names. -/
theorem exists_first_or_misses (m : Manifest) (vars : Variables) (targets : List TargetRef) :
    (∃ before target after, targets = before ++ target :: after ∧
      (∀ t ∈ before, ∃ name, m.Misses vars t name) ∧ ¬ ∃ name, m.Misses vars target name) ∨
    ∀ t ∈ targets, ∃ name, m.Misses vars t name := by
  cases hfirst : targets.findSome? (m.decision? vars) with
  | none =>
    rw [List.findSome?_eq_none_iff] at hfirst
    exact .inr fun t ht => decision?_eq_none_iff.1 (hfirst t ht)
  | some outcome =>
    obtain ⟨before, target, after, htargets, hdecides, hbefore⟩ := List.findSome?_eq_some_iff.1 hfirst
    refine .inl ⟨before, target, after, htargets, fun t ht => decision?_eq_none_iff.1 (hbefore t ht), ?_⟩
    rw [← decision?_eq_none_iff, hdecides]
    exact Option.some_ne_none outcome

/-- A selection ends with the first candidate that decides: with its template or with the fault of a variable.
If there is none, it ends behind the last candidate. -/
theorem select_cases (m : Manifest) (vars : Variables) (optional : Bool) (targets : List TargetRef) :
    (∃ before target after, targets = before ++ target :: after ∧
      (∀ t ∈ before, ∃ name, m.Misses vars t name) ∧
      ((∃ name, target.evaluate vars = .ok name ∧ m.contains name = true ∧
          m.select vars optional targets = .ok (some name)) ∨
        ∃ v, target = .var v ∧ vars.get? v = none ∧
          m.select vars optional targets = .error (.unboundVariable v))) ∨
    (∀ t ∈ targets, ∃ name, m.Misses vars t name) ∧ m.select vars optional targets =
      if optional then .ok none
      else .error (.templateNotFound (targets.filterMap (TargetRef.value? vars))) := by
  rcases m.exists_first_or_misses vars targets with ⟨before, target, after, rfl, hbefore, htarget⟩ | hmisses
  · refine .inl ⟨before, target, after, rfl, hbefore, ?_⟩
    rcases exists_decision htarget with ⟨name, hvalue, hcontains, hdecides⟩ | ⟨v, hv, hunbound, hdecides⟩
    · exact .inl ⟨name, hvalue, hcontains, select_of_decision hbefore hdecides optional after⟩
    · exact .inr ⟨v, hv, hunbound, select_of_decision hbefore hdecides optional after⟩
  · refine .inr ⟨hmisses, ?_⟩
    rw [select_eq_getD, findSome?_decision?_of_misses hmisses, Option.getD_none]

/-- What a selection finds is the first candidate that exists: it stands for a template of the manifest, and
every candidate in front of it stands for a name that is none. -/
theorem select_eq_ok_some_iff {name : String} :
    m.select vars optional targets = .ok (some name) ↔
      ∃ before target after, targets = before ++ target :: after ∧
        (∀ t ∈ before, ∃ missing, m.Misses vars t missing) ∧
        target.evaluate vars = .ok name ∧ m.contains name = true := by
  constructor
  · intro h
    rcases m.select_cases vars optional targets with
      ⟨before, target, after, htargets, hbefore, ⟨found, heval, hcontains, hend⟩ | ⟨_, -, -, hend⟩⟩ | ⟨-, hend⟩
    all_goals rw [hend] at h
    · cases h
      exact ⟨before, target, after, htargets, hbefore, heval, hcontains⟩
    · cases h
    · split at h <;> cases h
  · rintro ⟨before, target, after, rfl, hbefore, heval, hcontains⟩
    have hdecides : m.decision? vars target = some (.ok (some name)) := by
      simp [decision?, heval, hcontains]
    exact select_of_decision hbefore hdecides optional after

/-- A selection finds a template of the manifest, and by one of the candidates. -/
theorem select_eq_ok_some {name : String} (h : m.select vars optional targets = .ok (some name)) :
    m.contains name = true ∧ ∃ target ∈ targets, target.evaluate vars = .ok name := by
  obtain ⟨before, target, after, rfl, -, heval, hcontains⟩ := select_eq_ok_some_iff.1 h
  exact ⟨hcontains, target, List.mem_append_right _ List.mem_cons_self, heval⟩

/-- Only an optional edge may lead nowhere. -/
theorem optional_of_select_eq_ok_none (h : m.select vars optional targets = .ok none) :
    optional = true := by
  rcases m.select_cases vars optional targets with
    ⟨_, _, _, -, -, ⟨_, -, -, hend⟩ | ⟨_, -, -, hend⟩⟩ | ⟨-, hend⟩
  all_goals rw [hend] at h
  · cases h
  · cases h
  · split at h
    · next hoptional => exact hoptional
    · cases h

/-- A selection fails because no candidate exists or because a variable has no value. -/
theorem select_eq_error {fault : Fault} (h : m.select vars optional targets = .error fault) :
    (∃ tried, fault = .templateNotFound tried) ∨
      ∃ v, fault = .unboundVariable v ∧ vars.get? v = none := by
  rcases m.select_cases vars optional targets with
    ⟨_, _, _, -, -, ⟨_, -, -, hend⟩ | ⟨v, -, hunbound, hend⟩⟩ | ⟨-, hend⟩
  all_goals rw [hend] at h
  · cases h
  · cases h
    exact .inr ⟨v, rfl, hunbound⟩
  · split at h
    · cases h
    · cases h
      exact .inl ⟨_, rfl⟩

/-- A single candidate is selected when it stands for a template of the manifest. -/
theorem select_singleton (m : Manifest) {vars : Variables} {target : TargetRef} {name : String}
    (hvalue : target.evaluate vars = .ok name) (hname : m.contains name = true) (optional : Bool) :
    m.select vars optional [target] = .ok (some name) := by
  rw [select, selectAfter, hvalue]
  exact if_pos hname

/-- A candidate that stands for a missing name can be left out, but for the list of what was tried. -/
theorem select_without {name : String} (h : m.Misses vars target name) (optional : Bool)
    (before after : List TargetRef) :
    m.select vars optional (before ++ after) = m.select vars optional (before ++ target :: after) ∨
    ∃ us vs,
      m.select vars optional (before ++ target :: after) = .error (.templateNotFound (us ++ name :: vs)) ∧
      m.select vars optional (before ++ after) = .error (.templateNotFound (us ++ vs)) := by
  have hdecides : m.decision? vars target = none := decision?_eq_none_iff.2 ⟨name, h⟩
  have hname : TargetRef.value? vars target = some name := by
    rw [TargetRef.value?, h.1]
    rfl
  have hfirst : (before ++ target :: after).findSome? (m.decision? vars) =
      (before ++ after).findSome? (m.decision? vars) := by
    rw [List.findSome?_append, List.findSome?_cons, hdecides, List.findSome?_append]
  rw [select_eq_getD, select_eq_getD, hfirst]
  cases (before ++ after).findSome? (m.decision? vars) with
  | some outcome => exact .inl rfl
  | none =>
    cases optional with
    | true => exact .inl rfl
    | false =>
      refine .inr ⟨before.filterMap (TargetRef.value? vars), after.filterMap (TargetRef.value? vars), ?_, ?_⟩
      · rw [List.filterMap_append, List.filterMap_cons_some hname]
        rfl
      · rw [List.filterMap_append]
        rfl

/-- The first candidate that does not stand for a missing name decides a selection. Either there is one among
the targets of a compiled edge, with candidates for missing names in front of it. If it stands for a template
of the manifest, this template is taken, and if not, it is a variable without a value, and the selection fails
for this reason, also where the edge may lead nowhere. What comes behind it makes no difference. Or all targets
stand for missing names. Then an include that tolerates this leads nowhere, and any other edge fails with
all these names, in their order.

A target that stands for a missing name can be left out. Nothing changes but the names that a failure for
want of a template lists. -/
theorem select_by_first_decision (m : Manifest) (vars : Variables) (edge : CompiledEdge) :
    ((∃ before target after, edge.targets = before ++ target :: after ∧
        (∀ t ∈ before, ∃ name, m.Misses vars t name) ∧ ¬ ∃ name, m.Misses vars target name) ∨
      ∀ t ∈ edge.targets, ∃ name, m.Misses vars t name) ∧
    (∀ before target after, edge.targets = before ++ target :: after →
      (∀ t ∈ before, ∃ name, m.Misses vars t name) → (¬ ∃ name, m.Misses vars target name) →
      ((∃ name, target.evaluate vars = .ok name ∧ m.contains name = true ∧
          m.select vars edge.optional edge.targets = .ok (some name)) ∨
        ∃ v, target = .var v ∧ vars.get? v = none ∧
          m.select vars edge.optional edge.targets = .error (.unboundVariable v)) ∧
      ∀ others, m.select vars edge.optional (before ++ target :: others) =
        m.select vars edge.optional edge.targets) ∧
    ((∀ t ∈ edge.targets, ∃ name, m.Misses vars t name) →
      ∃ names, edge.targets.map (TargetRef.evaluate vars) = names.map .ok ∧
        m.select vars edge.optional edge.targets =
          (if edge.kind = .including ∧ edge.ignoreMissing = true then .ok none
            else .error (.templateNotFound names)) ∧
        (Fault.templateNotFound names).message = "Template not found: " ++ ", ".intercalate names) ∧
    ∀ before target after name, edge.targets = before ++ target :: after → m.Misses vars target name →
      m.select vars edge.optional (before ++ after) = m.select vars edge.optional edge.targets ∨
      ∃ us vs, m.select vars edge.optional edge.targets = .error (.templateNotFound (us ++ name :: vs)) ∧
        m.select vars edge.optional (before ++ after) = .error (.templateNotFound (us ++ vs)) := by
  refine ⟨m.exists_first_or_misses vars edge.targets, ?_, ?_, ?_⟩
  · intro before target after htargets hbefore htarget
    rw [htargets]
    rcases exists_decision htarget with ⟨name, hvalue, hcontains, hdecides⟩ | ⟨v, hv, hunbound, hdecides⟩
    · have hselect := select_of_decision hbefore hdecides edge.optional
      exact ⟨.inl ⟨name, hvalue, hcontains, hselect after⟩, fun others => by rw [hselect, hselect]⟩
    · have hselect := select_of_decision hbefore hdecides edge.optional
      exact ⟨.inr ⟨v, hv, hunbound, hselect after⟩, fun others => by rw [hselect, hselect]⟩
  · intro hmisses
    refine ⟨edge.targets.filterMap (TargetRef.value? vars), map_evaluate_of_misses hmisses, ?_, rfl⟩
    rw [select_eq_getD, findSome?_decision?_of_misses hmisses, CompiledEdge.optional]
    simp
  · intro before target after name htargets hmisses
    rw [htargets]
    exact select_without hmisses edge.optional before after

/-- A room with one shelf in it. -/
def room : Manifest where
  raw := { settings := .default, templates := .ofList [("shelf", .empty)] }
  valid := by decide +kernel

/-- The lamp of the first edge has no name, which is not tolerated even though the edge may lead nowhere and
there is a shelf behind it. Of the second edge neither target exists, with or without the map in front. -/
theorem select_room :
    let vars : Variables := .ofList [("picture", "portrait")]
    let light : CompiledEdge := ⟨0, .including, [.literal "map", .var "lamp", .literal "shelf"], true⟩
    let wall : CompiledEdge := ⟨1, .including, [.literal "map", .var "picture"], false⟩
    room.select vars light.optional light.targets = .error (.unboundVariable "lamp") ∧
    room.select vars light.optional [.literal "map", .var "lamp"] = .error (.unboundVariable "lamp") ∧
    room.select vars wall.optional wall.targets = .error (.templateNotFound ["map", "portrait"]) ∧
    ∃ tried, room.select vars wall.optional [.var "picture"] = .error (.templateNotFound tried) := by
  intro vars light wall
  have hmap : room.Misses vars (.literal "map") "map" := ⟨rfl, by decide +kernel⟩
  have hpicture : room.Misses vars (.var "picture") "portrait" := ⟨by decide +kernel, by decide +kernel⟩
  have hlamp : (TargetRef.var "lamp").evaluate vars = .error (.unboundVariable "lamp") := by decide +kernel
  obtain ⟨-, hdecided, -, -⟩ := select_by_first_decision room vars light
  obtain ⟨-, -, hexhausted, hwithout⟩ := select_by_first_decision room vars wall
  obtain ⟨hfirst, hothers⟩ := hdecided [.literal "map"] (.var "lamp") [.literal "shelf"] rfl
    (List.forall_mem_singleton.2 ⟨"map", hmap⟩) (by
      rintro ⟨name, hname, -⟩
      rw [hlamp] at hname
      cases hname)
  have hlight : room.select vars light.optional light.targets = .error (.unboundVariable "lamp") := by
    rcases hfirst with ⟨name, hname, -⟩ | ⟨v, hv, -, hselect⟩
    · rw [hlamp] at hname
      cases hname
    · cases hv
      exact hselect
  obtain ⟨names, hnames, hwall, -⟩ := hexhausted (by
    refine List.forall_mem_cons.2 ⟨⟨"map", hmap⟩, List.forall_mem_singleton.2 ⟨"portrait", hpicture⟩⟩)
  have htried : names = ["map", "portrait"] := by
    have hvalues : wall.targets.map (TargetRef.evaluate vars) = ["map", "portrait"].map .ok := by
      decide +kernel
    exact List.map_injective_iff.2 (fun _ _ => Except.ok.inj) (hnames.symm.trans hvalues)
  rw [htried] at hwall
  refine ⟨hlight, (hothers []).trans hlight, hwall, ?_⟩
  rcases hwithout [] (.literal "map") [.var "picture"] "map" rfl hmap with hsame | ⟨us, vs, -, hfails⟩
  · exact ⟨_, hsame.trans hwall⟩
  · exact ⟨_, hfails⟩

end Manifest

end TemplateDeps
