import TemplateDeps.Proofs.Engine.Refinement

/-!
# Bindings that are added

A render reads variables when it gets to them, one candidate after the other, and no candidate behind the
one it takes. So it cannot tell how many more variables have values: `render_eq_of_extends` says that a
render which does not stop for want of a value comes out the same with further bindings, and leaves the
same engine.

The two runs are compared step by step. A result stands (`Stands`) if the further bindings do not bring the
value that it misses, and `Settles` says that the second of two actions does what the first one did, as long
as the result of the first stands. It is closed under `bind` (`Settles.bind`), so that it goes from
selecting a target (`Manifest.select_eq_of_extends`) to following an edge, to all edges of a template, and
by induction on the depth to renders.
-/

namespace TemplateDeps

/-- The larger map has all bindings of the smaller one. -/
def NameMap.Extends {α : Type} (larger smaller : NameMap α) : Prop :=
  ∀ name value, smaller.get? name = some value → larger.get? name = some value

/-- A map with one more name has all bindings that it had. -/
theorem NameMap.extends_insert {α : Type} {m : NameMap α} {name : String} (h : m.get? name = none)
    (value : α) : (m.insert name value).Extends m := by
  intro other found hfound
  have hne : other ≠ name := by
    rintro rfl
    rw [h] at hfound
    cases hfound
  rw [get?_insert_of_ne m value hne, hfound]

/-- The result does not miss a value that the variables have. -/
def Stands {α : Type} (vars : Variables) (result : Except Fault α) : Prop :=
  ∀ v, result = .error (.unboundVariable v) → vars.get? v = none

variable {vars vars' : Variables}

/-- A part stands, if the whole stands and fails as the part does. -/
theorem Stands.part {α β : Type} {whole : Except Fault α} (h : Stands vars whole) {part : Except Fault β}
    (hpart : ∀ fault, part = .error fault → whole = .error fault) : Stands vars part :=
  fun v hunbound => h v (hpart _ hunbound)

/-! ## Selecting a target -/

/-- With further bindings a target stands for the same name. -/
theorem TargetRef.evaluate_eq_of_extends (h : vars'.Extends vars) {target : TargetRef}
    (hstands : Stands vars' (target.evaluate vars)) : target.evaluate vars' = target.evaluate vars := by
  cases target with
  | literal name => rfl
  | var v =>
    cases hvalue : vars.get? v with
    | some value => rw [evaluate, evaluate, hvalue, h v value hvalue]
    | none =>
      have hunbound : (var v).evaluate vars = .error (.unboundVariable v) := by rw [evaluate, hvalue]
      rw [hunbound, evaluate, hstands v hunbound]

/-- With further bindings the same candidate is found, after the same names were tried. -/
theorem Manifest.selectAfter_eq_of_extends (m : Manifest) (h : vars'.Extends vars) {optional : Bool}
    {tried : List String} {targets : List TargetRef}
    (hstands : Stands vars' (m.selectAfter vars optional tried targets)) :
    m.selectAfter vars' optional tried targets = m.selectAfter vars optional tried targets := by
  induction targets generalizing tried with
  | nil => rfl
  | cons first rest ih =>
    rw [selectAfter] at hstands ⊢
    have hfirst : first.evaluate vars' = first.evaluate vars := by
      refine TargetRef.evaluate_eq_of_extends h (hstands.part fun fault hfault => ?_)
      rw [hfault]
    rw [hfirst, selectAfter]
    cases hvalue : first.evaluate vars with
    | error fault => rfl
    | ok name =>
      rw [hvalue] at hstands
      dsimp only at hstands ⊢
      by_cases hname : m.contains name = true
      · rw [if_pos hname, if_pos hname]
      · rw [if_neg hname] at hstands ⊢
        rw [if_neg hname, ih hstands]

/-- With further bindings the same target is selected. -/
theorem Manifest.select_eq_of_extends (m : Manifest) (h : vars'.Extends vars) {optional : Bool}
    {targets : List TargetRef} (hstands : Stands vars' (m.select vars optional targets)) :
    m.select vars' optional targets = m.select vars optional targets :=
  m.selectAfter_eq_of_extends h hstands

/-- A walk that stops for want of a value stops at a variable that has none. -/
theorem Manifest.get?_eq_none_of_unbound {m : Manifest} {depth : Nat} {name v : String}
    (h : (m.walkWithin vars depth name).fault = some (.unboundVariable v)) : vars.get? v = none := by
  induction depth generalizing name with
  | zero => cases h
  | succ depth ih =>
    rcases fault_walkWithin_succ_eq_some h with ⟨_, hmissing⟩ | ⟨_, hunbound, hnone⟩ | ⟨next, -, hrest⟩
    · cases hmissing
    · cases hunbound
      exact hnone
    · exact ih hrest

namespace Engine

/-! ## Two runs -/

/-- If the result of the first action stands, the second action does the same. -/
def Settles {α : Type} (e : Engine) (vars : Variables) (first second : EngineM α) : Prop :=
  Stands vars (e.perform first).1 → e.perform second = e.perform first

variable {e : Engine} {α β : Type}

/-- What does not read variables is done the same way. -/
theorem Settles.refl (e : Engine) (vars : Variables) (action : EngineM α) : e.Settles vars action action :=
  fun _ => rfl

/-- If two actions do the same as two others, each pair from where the pair before it led to, they do so
one after the other. -/
theorem Settles.bind {x x' : EngineM α} {f f' : α → EngineM β} (hx : e.Settles vars x x')
    (hf : ∀ a mid, e.perform x = (.ok a, mid) → mid.Settles vars (f a) (f' a)) :
    e.Settles vars (x >>= f) (x' >>= f') := by
  intro hstands
  rcases hperform : e.perform x with ⟨result, mid⟩
  cases result with
  | error fault =>
    -- The first action failed, and so did the two together.
    rw [perform_bind_error hperform] at hstands ⊢
    have hx' : e.perform x' = (.error fault, mid) := by
      rw [← hperform]
      refine hx (hstands.part fun cause hcause => ?_)
      rw [hperform] at hcause
      cases hcause
      rfl
    exact perform_bind_error hx' f'
  | ok a =>
    rw [perform_bind_ok hperform] at hstands ⊢
    have hx' : e.perform x' = (.ok a, mid) := by
      rw [← hperform]
      refine hx fun v hunbound => ?_
      rw [hperform] at hunbound
      cases hunbound
    rw [perform_bind_ok hx', hf a mid hperform hstands]

/-! ## Rendering with further bindings -/

variable {owner : String} {descend descend' : String → EngineM Unit}

/-- With further bindings an edge is followed to the same target. -/
theorem settles_follow (e : Engine) (h : vars'.Extends vars) (edge : CompiledEdge)
    (hdescend : ∀ (mid : Engine) target, mid.Settles vars' (descend target) (descend' target)) :
    e.Settles vars' (follow vars owner descend edge) (follow vars' owner descend' edge) := by
  unfold Settles follow
  rw [perform_get_bind, perform_get_bind]
  intro hstands
  have hselect : e.manifest.select vars' edge.optional edge.targets =
      e.manifest.select vars edge.optional edge.targets := by
    refine e.manifest.select_eq_of_extends h (hstands.part fun fault hfault => ?_)
    rw [hfault, perform_throw]
  rw [hselect]
  cases hfound : e.manifest.select vars edge.optional edge.targets with
  | error fault => rfl
  | ok found =>
    rw [hfound] at hstands
    cases found with
    | none => rfl
    | some target =>
      refine Settles.bind (.refl e vars' _) (fun _ compiled _ => ?_) hstands
      exact (Settles.refl compiled vars' _).bind fun _ reached _ => hdescend reached target

/-- With further bindings edges are followed to the same targets, one after the other. -/
theorem settles_forM (e : Engine) (h : vars'.Extends vars) (edges : List CompiledEdge)
    (hdescend : ∀ (mid : Engine) target, mid.Settles vars' (descend target) (descend' target)) :
    e.Settles vars' (edges.forM (follow vars owner descend)) (edges.forM (follow vars' owner descend')) := by
  induction edges generalizing e with
  | nil => exact .refl e vars' _
  | cons edge rest ih => exact (settles_follow e h edge hdescend).bind fun _ mid _ => ih mid

/-- With further bindings a nested render goes the same way. -/
theorem settles_renderWithin (e : Engine) (h : vars'.Extends vars) (depth : Nat) (name : String) :
    e.Settles vars' (renderWithin vars depth name) (renderWithin vars' depth name) := by
  induction depth generalizing e name with
  | zero => exact .refl e vars' _
  | succ depth ih =>
    unfold renderWithin
    refine (Settles.refl e vars' _).bind fun _ compiled _ => ?_
    unfold Settles
    rw [perform_get_bind, perform_get_bind]
    exact settles_forM compiled h _ ih

/-- With further bindings a render goes the same way. -/
theorem settles_render (e : Engine) (h : vars'.Extends vars) (name : String) :
    e.Settles vars' (render name vars) (render name vars') := by
  unfold Settles render
  rw [perform_get_bind, perform_get_bind]
  exact (Settles.refl e vars' _).bind fun _ mid _ => settles_renderWithin mid h maxRenderDepth name

/-- Bindings that are added do no harm. Whatever was done with the engine before, a render that does not
report an unbound variable has the same result with further bindings, and leaves the same engine. One that
reports an unbound variable does so because the variable has no value, and it comes out otherwise with
further bindings exactly if they give it one. -/
theorem render_eq_of_extends (m : Manifest) (uses : List Use) (name : String) {vars vars' : Variables}
    (hextends : vars'.Extends vars) :
    let e := (new m).after uses
    let result := (e.perform (render name vars)).1
    let same := (e.perform (render name vars')).1 = result ∧
      e.use (.render name vars') = e.use (.render name vars)
    ((∀ v, result ≠ .error (.unboundVariable v)) → same) ∧
    ∀ v, result = .error (.unboundVariable v) → vars.get? v = none ∧ (same ↔ vars'.get? v = none) := by
  intro e result same
  have hsame : Stands vars' result → same := by
    intro hstands
    have hperform := settles_render e hextends name hstands
    exact ⟨congrArg Prod.fst hperform, congrArg Prod.snd hperform⟩
  -- Reports of unbound variables come from the walk.
  have hunbound : ∀ {vars : Variables} {v : String},
      (e.perform (render name vars)).1 = .error (.unboundVariable v) → vars.get? v = none := by
    intro vars v h
    rw [perform_render_after] at h
    exact Manifest.get?_eq_none_of_unbound (Walk.outcome_eq_error_iff.1 h)
  constructor
  · intro hresult
    exact hsame fun v hv => absurd hv (hresult v)
  · intro v hv
    refine ⟨hunbound hv, fun hagree => hunbound (hagree.1.trans hv), fun hnone => hsame fun w hw => ?_⟩
    rw [hv] at hw
    cases hw
    exact hnone

/-- A page with a note, in the place of which a theme may have its own, and with something at its side. -/
def themed : Manifest where
  raw := {
    settings := .default
    templates := .ofList [
      ("nav", .empty),
      ("note", .empty),
      ("page", ⟨none, none, [⟨["note", "$theme"], true, false⟩, ⟨["$side", "note"], true, true⟩], []⟩)] }
  valid := by decide +kernel

/-- The page never asks for the theme, and a theme alone leaves it without its side. -/
theorem render_themed_eq :
    let history := [Use.compile "page", .render "page" .empty, .operate .startWatch]
    let e := (new themed).after history
    let side := NameMap.empty.insert "side" "nav"
    let theme := NameMap.empty.insert "theme" "dark"
    ((side.insert "theme" "dark").Extends side ∧ (e.perform (render "page" side)).1 = .ok () ∧
      (e.perform (render "page" (side.insert "theme" "dark"))).1 = .ok () ∧
      e.use (.render "page" (side.insert "theme" "dark")) = e.use (.render "page" side)) ∧
    (theme.Extends .empty ∧ theme.get? "side" = none ∧
      (e.perform (render "page" .empty)).1 = .error (.unboundVariable "side") ∧
      (e.perform (render "page" theme)).1 = .error (.unboundVariable "side")) := by
  intro history e side theme
  have hside : (e.perform (render "page" side)).1 = .ok () := by decide +kernel
  have hmissing : (e.perform (render "page" .empty)).1 = .error (.unboundVariable "side") := by
    decide +kernel
  have hmore : (side.insert "theme" "dark").Extends side := NameMap.extends_insert (by decide) _
  have htheme : theme.Extends .empty := NameMap.extends_insert rfl _
  have hnone : theme.get? "side" = none := by decide
  constructor
  · obtain ⟨hresult, hengine⟩ := (render_eq_of_extends themed history "page" hmore).1 fun v hv => by
      rw [hside] at hv
      cases hv
    exact ⟨hmore, hside, hresult.trans hside, hengine⟩
  · obtain ⟨-, hsame⟩ := (render_eq_of_extends themed history "page" htheme).2 "side" hmissing
    exact ⟨htheme, hnone, hmissing, (hsame.2 hnone).1.trans hmissing⟩

end Engine

end TemplateDeps
