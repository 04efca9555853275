import TemplateDeps.Proofs.DeclarationFields
import TemplateDeps.Proofs.Graph.Positions

/-!
# Declarations that clients make

A client builds a declaration and then calls setters on it, in any order and as often as it likes. What comes
of this has a normal form: of each setter only the last call counts, and it counts only if the kind of the
declaration has the attribute. So clients that mean the same edge declare the same, whatever ways they went,
and a graph keeps one edge for them. `declarations_normal_form` says this of every way to build a declaration,
and of every edge of a graph that operations lead to that its attributes fit its kind.

* `Declaration.Fields.set_eq` is one call of a setter, `Fields.setAll_eq` is any calls, and `fields_setAll`
  carries this over to declarations. Declarations with equal attributes are equal, so that calls with the same
  last words have the same effect (`setAll_congr`).
* `Construction` lists the ways to build a declaration. `Construction.attributes_of_build` is what comes of
  them, and `exists_build_iff` says which are refused. Built field by field they come to the same
  (`Construction.map_fields_build`).
* No field is filled in that does not fit the kind, neither by building (`Construction.wellFormed_of_fields`)
  nor by any calls of setters (`Declaration.Fields.wellFormed_setAll`).
* `Declaration.made_iff` tells the declarations that can be made by building and setting from those that the
  type has besides: they are all but some imports with a binding.
* `Graph.declare_mem_of_stored` carries this to graphs: what is stored was declared, as it is.
-/

namespace TemplateDeps

/-! ## Calls of setters -/

/-- The call of a setter. -/
inductive Setting
  | context (value : Bool)
  | ignoreMissing (value : Bool)
  deriving DecidableEq, Repr

namespace Setting

/-- The argument, if the call is about the context. -/
def context? : Setting → Option Bool
  | context value => some value
  | ignoreMissing _ => none

/-- The argument, if the call is about missing targets. -/
def ignoreMissing? : Setting → Option Bool
  | context _ => none
  | ignoreMissing value => some value

/-- What was said last about the context. -/
def lastContext? (settings : List Setting) : Option Bool :=
  (settings.filterMap context?).getLast?

/-- What was said last about missing targets. -/
def lastIgnoreMissing? (settings : List Setting) : Option Bool :=
  (settings.filterMap ignoreMissing?).getLast?

variable (settings : List Setting) (setting : Setting)

/-- The last of all calls has the last word. -/
theorem lastContext?_concat :
    lastContext? (settings ++ [setting]) = setting.context?.or (lastContext? settings) := by
  cases setting <;> simp [lastContext?, context?]

theorem lastIgnoreMissing?_concat :
    lastIgnoreMissing? (settings ++ [setting]) =
      setting.ignoreMissing?.or (lastIgnoreMissing? settings) := by
  cases setting <;> simp [lastIgnoreMissing?, ignoreMissing?]

end Setting

namespace Declaration

open Setting (lastContext? lastIgnoreMissing?)

namespace Fields

/-- Call a setter. -/
def set (f : Fields) : Setting → Fields
  | .context value => f.setContext value
  | .ignoreMissing value => f.setIgnoreMissing value

/-- Call setters one after the other. -/
def setAll (f : Fields) (settings : List Setting) : Fields :=
  settings.foldl set f

variable (f : Fields) (settings : List Setting) (setting : Setting)

/-- What a call of a setter does to each field. -/
theorem set_eq :
    f.set setting =
      { f with
        withContext := if f.kind = .extending then f.withContext else setting.context?.or f.withContext
        ignoreMissing :=
          if f.kind = .including then setting.ignoreMissing?.or f.ignoreMissing else f.ignoreMissing } := by
  obtain ⟨kind, targets, withContext, ignoreMissing, importedAs, importedNames⟩ := f
  cases setting <;> cases kind <;> rfl

/-- Of the calls of each setter the last one counts, if the kind has the field. -/
theorem setAll_eq :
    f.setAll settings =
      { f with
        withContext := if f.kind = .extending then f.withContext else (lastContext? settings).or f.withContext
        ignoreMissing :=
          if f.kind = .including then (lastIgnoreMissing? settings).or f.ignoreMissing
          else f.ignoreMissing } := by
  induction settings using List.reverseRecOn with
  | nil => simp [setAll, lastContext?, lastIgnoreMissing?]
  | append_singleton settings setting ih =>
    have hconcat : f.setAll (settings ++ [setting]) = (f.setAll settings).set setting := by
      rw [setAll, List.foldl_append]
      rfl
    rw [hconcat, ih, set_eq, Setting.lastContext?_concat, Setting.lastIgnoreMissing?_concat]
    cases hkind : f.kind <;> simp [Option.or_assoc]

variable {f setting}

/-- No call of a setter fills in a field that does not fit the kind. -/
theorem wellFormed_set (h : f.WellFormed) : (f.set setting).WellFormed := by
  cases setting with
  | context value => exact wellFormed_setContext h value
  | ignoreMissing value => exact wellFormed_setIgnoreMissing h value

theorem wellFormed_setAll (h : f.WellFormed) : (f.setAll settings).WellFormed := by
  induction settings generalizing f with
  | nil => exact h
  | cons setting rest ih => exact ih (wellFormed_set h)

end Fields

/-- Call a setter. -/
def set (d : Declaration) : Setting → Declaration
  | .context value => d.setContext value
  | .ignoreMissing value => d.setIgnoreMissing value

/-- Call setters one after the other. -/
def setAll (d : Declaration) (settings : List Setting) : Declaration :=
  settings.foldl set d

variable (d : Declaration) (settings : List Setting)

/-- Setters do to a declaration what they do to its fields. -/
theorem fields_set (setting : Setting) : (d.set setting).fields = d.fields.set setting := by
  cases setting with
  | context value => exact d.fields_setContext value
  | ignoreMissing value => exact d.fields_setIgnoreMissing value

theorem fields_setAll : (d.setAll settings).fields = d.fields.setAll settings := by
  induction settings generalizing d with
  | nil => rfl
  | cons setting rest ih =>
    have hrest : ((d.set setting).setAll rest).fields = (d.fields.set setting).setAll rest := by
      rw [ih, fields_set]
    exact hrest

/-- Of the calls of each setter the last one counts, if the kind has the attribute. -/
theorem attributes_setAll :
    (d.setAll settings).attributes =
      (d.kind, d.targets,
        if d.kind = .extending then d.context? else (lastContext? settings).or d.context?,
        if d.kind = .including then (lastIgnoreMissing? settings).or d.ignoreMissing? else d.ignoreMissing?,
        d.boundAs?, d.members?) := by
  have hfields := d.fields_setAll settings
  rw [Fields.setAll_eq] at hfields
  simp only [fields, Fields.mk.injEq] at hfields
  simp only [attributes, Prod.mk.injEq]
  exact hfields

/-- Calls of setters that have the same last words have the same effect. -/
theorem setAll_congr {settings settings' : List Setting}
    (hcontext : lastContext? settings = lastContext? settings')
    (hignore : lastIgnoreMissing? settings = lastIgnoreMissing? settings') :
    d.setAll settings = d.setAll settings' := by
  apply attributes_injective
  rw [attributes_setAll, attributes_setAll, hcontext, hignore]

end Declaration

/-! ## Building declarations -/

/-- The ways to build a declaration. -/
inductive Construction
  /-- Any kind, without attributes. -/
  | plain (kind : Kind) (targets : List Target)
  /-- The parent of a template. -/
  | parent (target : Target)
  /-- An include, with the attributes that engines give it. -/
  | fragment (targets : List Target)
  /-- An import, with the attributes that engines give it. -/
  | library (target : Target) (binding : Binding)
  deriving DecidableEq, Repr

namespace Construction

/-- The declaration, if it is not refused. -/
def build : Construction → Except DeclarationFault Declaration
  | plain kind targets => Declaration.plain kind targets
  | parent target => .ok (.extending target)
  | fragment targets => Declaration.fragment targets
  | library target binding => .ok (.library target binding)

/-- The declaration, built field by field. -/
def fields : Construction → Except DeclarationFault Declaration.Fields
  | plain kind targets => Declaration.Fields.plain kind targets
  | parent target => .ok (.parent target)
  | fragment targets => Declaration.Fields.fragment targets
  | library target binding => .ok (.library target binding)

/-- Both refuse the same, for the same reason, and build the same otherwise. -/
theorem map_fields_build (c : Construction) : c.build.map Declaration.fields = c.fields := by
  cases c with
  | plain kind targets => exact Declaration.map_fields_plain targets kind
  | parent target => exact congrArg Except.ok (Declaration.fields_extending target)
  | fragment targets => exact Declaration.map_fields_fragment targets
  | library target binding => exact congrArg Except.ok (Declaration.fields_library target binding)

/-- What is built fits its kind. -/
theorem wellFormed_of_fields {c : Construction} {f : Declaration.Fields} (h : c.fields = .ok f) :
    f.WellFormed := by
  cases c with
  | plain kind targets => exact Declaration.Fields.wellFormed_of_plain h
  | parent target =>
    cases h
    exact Declaration.Fields.wellFormed_parent target
  | fragment targets => exact Declaration.Fields.wellFormed_of_fragment h
  | library target binding =>
    cases h
    exact Declaration.Fields.wellFormed_library target binding

/-- What is asked for: the kind, the targets and the attributes that come with the way of building. -/
def attributes : Construction →
    Kind × List Target × Option Bool × Option Bool × Option String × Option (List String)
  | plain kind targets => (kind, targets, none, none, none, none)
  | parent target => (.extending, [target], none, none, none, none)
  | fragment targets => (.including, targets, some true, some false, none, none)
  | library target (.whole name) => (.importing, [target], some false, none, some name, none)
  | library target (.members names) => (.importing, [target], some false, none, none, some names)

/-- What is built has the attributes that were asked for. -/
theorem attributes_of_build {c : Construction} {d : Declaration} (h : c.build = .ok d) :
    d.attributes = c.attributes := by
  cases c with
  | plain kind targets =>
    rw [build, Declaration.plain.eq_def] at h
    split at h <;> cases h <;> rfl
  | parent target =>
    cases h
    rfl
  | fragment targets =>
    cases targets with
    | nil => cases h
    | cons first others =>
      cases h
      rfl
  | library target binding =>
    cases h
    cases binding <;> rfl

/-- Nothing is refused but what has no target, or would have several parents. -/
theorem exists_build_iff (c : Construction) :
    (∃ d, c.build = .ok d) ↔
      c.attributes.2.1 ≠ [] ∧ (c.attributes.1 = .extending → c.attributes.2.1.length = 1) := by
  cases c with
  | plain kind targets =>
    rcases targets with _ | ⟨first, _ | ⟨second, others⟩⟩ <;> cases kind <;>
      simp [build, attributes, Declaration.plain]
  | parent target => simp [build, attributes]
  | fragment targets => cases targets <;> simp [build, attributes, Declaration.fragment]
  | library target binding => cases binding <;> simp [build, attributes]

end Construction

namespace Declaration

open Setting (lastContext? lastIgnoreMissing?)

/-- A client can make the declaration: it builds it and then calls setters. -/
def Made (d : Declaration) : Prop :=
  ∃ (c : Construction) (start : Declaration), c.build = .ok start ∧ ∃ settings, d = start.setAll settings

/-- There is no binding if neither a module nor members are bound. -/
theorem binding?_eq_none_iff {d : Declaration} :
    d.boundAs? = none ∧ d.members? = none ↔ d.binding? = none := by
  unfold boundAs? members?
  rcases d.binding? with _ | _ | _ <;> simp

/-- Calls of setters keep the targets and the binding, and what was said about the context stays said. -/
theorem setAll_of_bound {start : Declaration} {settings : List Setting} {binding : Binding}
    (h : (start.setAll settings).binding? = some binding) :
    start.binding? = some binding ∧ (start.setAll settings).targets = start.targets ∧
      (start.context?.isSome → (start.setAll settings).context?.isSome) := by
  have hattributes := start.attributes_setAll settings
  simp only [attributes, Prod.mk.injEq] at hattributes
  obtain ⟨-, htargets, hcontext, -, hwhole, hmembers⟩ := hattributes
  refine ⟨(binding?_eq_of hwhole hmembers).symm.trans h, htargets, fun hsaid => ?_⟩
  rw [hcontext]
  split
  · exact hsaid
  · simp [hsaid]

/-- What a client can make: a declaration with a binding has just one target and says whether the context is
passed, and nothing else is asked of it. -/
theorem made_iff {d : Declaration} :
    d.Made ↔ ∀ binding, d.binding? = some binding →
      (∃ target, d.targets = [target]) ∧ d.context?.isSome := by
  constructor
  · rintro ⟨c, start, hbuild, settings, rfl⟩ binding hbinding
    obtain ⟨hstart, htargets, hcontext⟩ := setAll_of_bound hbinding
    have hasked := Construction.attributes_of_build hbuild
    rw [htargets]
    -- Only a library is built with a binding.
    cases c with
    | library target bound =>
      cases hbuild
      exact ⟨⟨target, rfl⟩, hcontext rfl⟩
    | _ =>
      have hunbound : start.binding? = none := by
        rw [← binding?_eq_none_iff]
        exact ⟨congrArg (·.2.2.2.2.1) hasked, congrArg (·.2.2.2.2.2) hasked⟩
      rw [hunbound] at hstart
      cases hstart
  · intro h
    cases d with
    | extending target => exact ⟨.parent target, _, rfl, [], rfl⟩
    | including first others context ignoreMissing =>
      refine ⟨.plain .including (first :: others), .including first others none none,
        by simp [Construction.build, plain],
        context.toList.map .context ++ ignoreMissing.toList.map .ignoreMissing, ?_⟩
      cases context <;> cases ignoreMissing <;> rfl
    | importing first others context binding =>
      cases binding with
      | none =>
        refine ⟨.plain .importing (first :: others), .importing first others none none,
          by simp [Construction.build, plain], context.toList.map .context, ?_⟩
        cases context <;> rfl
      | some binding =>
        obtain ⟨⟨target, htargets⟩, hcontext⟩ := h binding rfl
        obtain ⟨value, hvalue⟩ := Option.isSome_iff_exists.1 hcontext
        cases htargets
        cases hvalue
        exact ⟨.library first binding, _, rfl, [.context value], rfl⟩

/-- The fields of what a client can make are built and set as fields. -/
theorem Made.exists_fields {d : Declaration} (h : d.Made) :
    ∃ (c : Construction) (f : Fields), c.fields = .ok f ∧ ∃ settings, d.fields = f.setAll settings := by
  obtain ⟨c, start, hbuild, settings, rfl⟩ := h
  refine ⟨c, start.fields, ?_, settings, start.fields_setAll settings⟩
  rw [← c.map_fields_build, hbuild]
  rfl

end Declaration

/-! ## Declarations in a graph -/

/-- What is stored in a graph was declared there. -/
theorem Graph.declare_mem_of_stored {log : List Graph.Operation} {t : Template}
    (ht : t ∈ (Graph.empty.applyAll log).templates) {e : Edge} (he : e ∈ t.edges) :
    .declare t.name e.declaration ∈ log := by
  have hcoherent : (Graph.empty.applyAll log).Coherent := coherent_empty.applyAll log
  have hnode := hcoherent.template?_eq_some_iff.2 ⟨ht, rfl⟩
  apply OperationLog.mem_of_mem_edges
  rw [← OperationLog.declarations_applyAll, declarations, hnode]
  exact List.mem_map_of_mem he

open Setting (lastContext? lastIgnoreMissing?) in
/-- Declarations have a normal form, and it fits their kind. Whatever way of building one is taken, it is
refused only if there is no target, or if it extends several. Otherwise its attributes are those that were
asked for, and after any calls of setters they are the same but for two: whether the context is passed is what
the last call about it said, unless the declaration extends a template, and whether a missing target is
tolerated is what the last call about that said, if it is an include. So calls with the same last words have
the same effect: those of different setters can change places, and repeated ones count once.

All this is the same when declarations are built and set field by field, with the kind asked for at each
step. What comes of it has a target, and just one and no attributes if it extends a template; imports do not
tolerate missing targets, a module and members are never both bound, and nothing is bound but by imports.

Every edge of a graph that operations lead to was declared there as it is, and is well-formed in this sense.
If clients make what they declare by building it and calling setters, the fields of every edge come of such
calls, and every binding stands at an edge with a single target that says whether the context is passed. -/
theorem declarations_normal_form :
    (∀ c : Construction,
      c.build.map Declaration.fields = c.fields ∧
      ((∃ d, c.build = .ok d) ↔
        c.attributes.2.1 ≠ [] ∧ (c.attributes.1 = .extending → c.attributes.2.1.length = 1)) ∧
      ∀ start, c.build = .ok start → start.attributes = c.attributes ∧
        ∀ settings : List Setting, (start.setAll settings).attributes =
          (start.kind, start.targets,
            if start.kind = .extending then start.context?
              else (lastContext? settings).or start.context?,
            if start.kind = .including then (lastIgnoreMissing? settings).or start.ignoreMissing?
              else start.ignoreMissing?,
            start.boundAs?, start.members?) ∧
          (start.setAll settings).fields = start.fields.setAll settings) ∧
    (∀ (c : Construction) (f : Declaration.Fields), c.fields = .ok f →
      ∀ settings : List Setting, (f.setAll settings).WellFormed) ∧
    (∀ (d : Declaration) (settings settings' : List Setting),
      lastContext? settings = lastContext? settings' →
      lastIgnoreMissing? settings = lastIgnoreMissing? settings' → d.setAll settings = d.setAll settings') ∧
    (∀ (d : Declaration) (a b : Bool),
      (d.setContext a).setIgnoreMissing b = (d.setIgnoreMissing b).setContext a ∧
      (d.setContext a).setContext b = d.setContext b ∧
      (d.setIgnoreMissing a).setIgnoreMissing b = d.setIgnoreMissing b) ∧
    ∀ log : List Graph.Operation, ∀ t ∈ (Graph.empty.applyAll log).templates, ∀ e ∈ t.edges,
      .declare t.name e.declaration ∈ log ∧ e.declaration.fields.WellFormed ∧
      ((∀ owner d, .declare owner d ∈ log → d.Made) →
        ∃ (c : Construction) (f : Declaration.Fields), c.fields = .ok f ∧
          ∃ settings, e.declaration.fields = f.setAll settings) ∧
      (e.declaration.Made ↔ ∀ binding, e.declaration.binding? = some binding →
        (∃ target, e.declaration.targets = [target]) ∧ e.declaration.context?.isSome) := by
  refine ⟨fun c => ⟨c.map_fields_build, c.exists_build_iff, fun start hbuild => ?_⟩, ?_, ?_, ?_, ?_⟩
  · refine ⟨Construction.attributes_of_build hbuild, fun settings => ?_⟩
    exact ⟨start.attributes_setAll settings, start.fields_setAll settings⟩
  · exact fun c f hf settings =>
      Declaration.Fields.wellFormed_setAll settings (Construction.wellFormed_of_fields hf)
  · exact fun d settings settings' hcontext hignore => d.setAll_congr hcontext hignore
  · intro d a b
    refine ⟨?_, ?_, ?_⟩
    · show d.setAll [.context a, .ignoreMissing b] = d.setAll [.ignoreMissing b, .context a]
      exact d.setAll_congr rfl rfl
    · show d.setAll [.context a, .context b] = d.setAll [.context b]
      exact d.setAll_congr rfl rfl
    · show d.setAll [.ignoreMissing a, .ignoreMissing b] = d.setAll [.ignoreMissing b]
      exact d.setAll_congr rfl rfl
  · intro log t ht e he
    have hdeclared := Graph.declare_mem_of_stored ht he
    refine ⟨hdeclared, e.declaration.wellFormed_fields, fun hmade => ?_, Declaration.made_iff⟩
    exact (hmade _ _ hdeclared).exists_fields

/-- A client builds a fragment without the context and changes its mind, and another one only makes it optional.
They declare the same, and the graph has one edge for both. -/
theorem declarations_normal_form_side :
    let start : Declaration := .including (.named "side") [] (some true) (some false)
    let side : Declaration := start.setAll [.context false, .ignoreMissing true, .context true]
    let other : Declaration := start.setAll [.ignoreMissing true, .context true]
    let log : List Graph.Operation :=
      [.declareTemplate "page" none, .declare "page" side, .declare "page" other]
    (Construction.fragment [.named "side"]).build = .ok start ∧
      start.attributes = (.including, [.named "side"], some true, some false, none, none) ∧
      side.attributes = (.including, [.named "side"], some true, some true, none, none) ∧
      other = side ∧
      (Graph.empty.applyAll log).templates.map (·.declarations) = [[side]] ∧
      ∀ t ∈ (Graph.empty.applyAll log).templates, ∀ e ∈ t.edges, e.declaration.fields.WellFormed := by
  intro start side other log
  obtain ⟨hbuild, -, hwords, -, hstored⟩ := declarations_normal_form
  obtain ⟨hasked, hset⟩ := (hbuild (.fragment [.named "side"])).2.2 start rfl
  refine ⟨rfl, hasked, (hset _).1, hwords _ _ _ rfl rfl, by decide +kernel, fun t ht e he => ?_⟩
  exact (hstored log t ht e he).2.1

end TemplateDeps
