import TemplateDeps.Proofs.Engine.Soundness
import TemplateDeps.Proofs.Manifest.Walks

/-!
# A render is a walk

What a render does can be said without its engine: the walk from its template through the manifest
lists the steps it records and the fault it ends with. `render_refines_walk` says that this holds in
every state that an engine can get into, however its cache and its graph came about.

`Follows e action w` compares an action with a walk: the action ends as the walk does, and until then
the engine has recorded the steps of the walk, or none if its renders are not tracked. Walks are put
together as actions are (`Follows.bind`), so each part of a render has its own comparison:
`Sound.follows_compile`, `Sound.follows_record`, `Sound.follows_follow` for one edge,
`Sound.follows_forM` for the edges of a template. The render itself goes by induction on the depth
(`Sound.follows_renderWithin`).
-/

namespace TemplateDeps

/-- How a walk comes out. -/
def Walk.outcome (w : Walk) : Except Fault Unit :=
  match w.fault with
  | some fault => .error fault
  | none => .ok ()

/-- A walk comes out well when it has no fault. -/
theorem Walk.outcome_eq_ok_iff {w : Walk} : w.outcome = .ok () ↔ w.fault = none := by
  unfold outcome
  cases w.fault <;> simp

/-- A walk comes out with its fault. -/
theorem Walk.outcome_eq_error_iff {w : Walk} {fault : Fault} :
    w.outcome = .error fault ↔ w.fault = some fault := by
  unfold outcome
  cases w.fault <;> simp

namespace Engine

variable {e : Engine}

/-- The steps of a walk that the engine records: all of them if its renders are tracked. -/
def recorded (e : Engine) (steps : List Step) : List Step :=
  if e.graph.tracks e.mode then steps else []

@[simp] theorem recorded_nil (e : Engine) : e.recorded [] = [] := by
  simp [recorded]

theorem recorded_append (e : Engine) (steps more : List Step) :
    e.recorded (steps ++ more) = e.recorded steps ++ e.recorded more := by
  unfold recorded
  split <;> rfl

/-- Moving on leaves it open or closed what is recorded. -/
theorem Advances.recorded_eq {after : Engine} {steps : List Step} (h : Advances e steps after)
    (more : List Step) : after.recorded more = e.recorded more := by
  rw [recorded, recorded, h.mode, h.graph.tracks]

/-! ## Actions and walks -/

/-- The action comes out as the walk does and records its steps. -/
structure Follows (e : Engine) (action : EngineM Unit) (w : Walk) : Prop where
  outcome : (e.perform action).1 = w.outcome
  advances : Advances e (e.recorded w.steps) (e.perform action).2

namespace Follows

/-- An action that succeeds and records nothing stays where it is. -/
theorem of_ok {after : Engine} {action : EngineM Unit} (h : e.perform action = (.ok (), after))
    (hadvances : Advances e [] after) : Follows e action .still := by
  constructor
  · rw [h]
    rfl
  · rw [h, Walk.still, recorded_nil]
    exact hadvances

/-- An action that fails before it does anything fails at once. -/
theorem of_error (h : e.Sound) {action : EngineM Unit} {fault : Fault}
    (haction : e.perform action = (.error fault, e)) : Follows e action (.failed fault) := by
  constructor
  · rw [haction]
    rfl
  · rw [haction, Walk.failed, recorded_nil]
    exact .refl h

/-- An action that goes on like another one from a later engine, and records nothing before, follows the
same walk. -/
theorem of_perform_eq {mid : Engine} {x y : EngineM Unit} {w : Walk} (hadvances : Advances e [] mid)
    (heq : e.perform x = mid.perform y) (hy : Follows mid y w) : Follows e x w := by
  constructor
  · rw [heq]
    exact hy.outcome
  · rw [heq, ← hadvances.recorded_eq]
    exact hadvances.trans hy.advances

/-- Two actions follow the walk that is put together of theirs. -/
theorem bind {x y : EngineM Unit} {u w : Walk} (hx : Follows e x u)
    (hy : ∀ mid, Advances e (e.recorded u.steps) mid → Follows mid y w) :
    Follows e (x >>= fun _ => y) (u.andThen w) := by
  obtain ⟨houtcome, hadvances⟩ := hx
  rcases hperform : e.perform x with ⟨result, mid⟩
  rw [hperform] at houtcome hadvances
  dsimp only at houtcome hadvances
  obtain ⟨steps, fault⟩ := u
  cases fault with
  | some fault =>
    -- The second action is not reached, and neither is the second walk.
    obtain rfl : result = .error fault := houtcome
    have hstop := perform_bind_error hperform fun _ => y
    exact ⟨by rw [hstop]; rfl, by rw [hstop]; exact hadvances⟩
  | none =>
    obtain rfl : result = .ok () := houtcome
    have hgo := perform_bind_ok hperform fun _ => y
    obtain ⟨hlast, hrest⟩ := hy mid hadvances
    refine ⟨by rw [hgo]; exact hlast, ?_⟩
    rw [hgo, Walk.andThen, recorded_append]
    rw [hadvances.recorded_eq] at hrest
    exact hadvances.trans hrest

end Follows

/-! ## The parts of a render -/

/-- An entry in the journal is no step. -/
theorem Sound.follows_log (h : e.Sound) (event : Event) : Follows e (log event) .still :=
  .of_ok (perform_modify e _) ⟨rfl, rfl, .still _, fun _ hname => hname, h.note [event]⟩

/-- Compiling a template of the manifest is no step. -/
theorem Sound.follows_compile (h : e.Sound) {name : String} (hname : e.manifest.contains name = true) :
    Follows e (compile name) .still := by
  obtain ⟨entry, hentry⟩ := Option.isSome_iff_exists.1 hname
  obtain ⟨after, hperform, hadvances, -⟩ := h.perform_compile hentry
  exact .of_ok hperform hadvances

/-- Recording takes one step, if the engine records at all. -/
theorem Sound.follows_record (h : e.Sound) {owner : String} {spec : EdgeSpec} {id : EdgeId}
    (hplace : e.graph.placeOf? owner spec = some id) (target : String) :
    Follows e (record owner id target) (.single ⟨owner, spec, target⟩) := by
  obtain ⟨d, -, hid⟩ := Option.bind_eq_some_iff.1 hplace
  by_cases htracks : e.graph.tracks e.mode = true
  · have hgrows : e.graph.Grows [⟨owner, spec, target⟩] (e.graph.apply (.record owner id target)) :=
      .record ⟨owner, spec, target⟩ hplace (.still _)
    have hperform : e.perform (record owner id target) =
        (.ok (), { e with graph := e.graph.apply (.record owner id target) }.note
          [.resolved owner id target]) := by
      rw [record, perform_get_bind, if_pos htracks, Graph.record_eq_ok hid]
      rfl
    refine ⟨by rw [hperform]; rfl, ?_⟩
    rw [hperform, recorded, if_pos htracks]
    exact ⟨rfl, rfl, hgrows, fun _ hname => hname, (h.grow hgrows).note _⟩
  · -- The step is taken all the same, but only the journal knows.
    have hperform : e.perform (record owner id target) = e.perform (log (.unrecorded owner id)) := by
      rw [record, perform_get_bind, if_neg htracks]
    refine ⟨by rw [hperform]; rfl, ?_⟩
    rw [hperform, recorded, if_neg htracks, ← e.recorded_nil]
    exact (h.follows_log _).advances

variable {vars : Variables} {owner : String} {descend : String → EngineM Unit} {walk : String → Walk}

/-- Following an edge goes as the walk over this edge, if this is so beyond the edge. -/
theorem Sound.follows_follow (h : e.Sound) {spec : EdgeSpec} {edge : CompiledEdge}
    (hedge : e.graph.Compiled owner spec edge)
    (hdescend : ∀ mid : Engine, mid.Sound → mid.manifest = e.manifest →
      ∀ target, Follows mid (descend target) (walk target)) :
    Follows e (follow vars owner descend edge) (e.manifest.walkEdge vars owner walk spec) := by
  unfold Manifest.walkEdge
  cases hselect : e.manifest.select vars spec.optional spec.candidates with
  | error fault =>
    refine .of_error h ?_
    rw [follow, perform_get_bind, hedge.optional, hedge.targets, hselect]
    rfl
  | ok found =>
    cases found with
    | none =>
      have hperform : e.perform (follow vars owner descend edge) =
          e.perform (log (.skipped owner edge.id)) := by
        rw [follow, perform_get_bind, hedge.optional, hedge.targets, hselect]
      exact .of_perform_eq (.refl h) hperform (h.follows_log _)
    | some target =>
      have hperform : e.perform (follow vars owner descend edge) =
          e.perform (do compile target; record owner edge.id target; descend target) := by
        rw [follow, perform_get_bind, hedge.optional, hedge.targets, hselect]
      refine .of_perform_eq (.refl h) hperform ?_
      show Follows e _ (Walk.still.andThen ((Walk.single ⟨owner, spec, target⟩).andThen (walk target)))
      have hcontains := (Manifest.select_eq_ok_some hselect).1
      refine (h.follows_compile hcontains).bind fun compiled hcompiled => ?_
      -- Compiling the target has added to the graph, and the edge is still in its place.
      have hplace := hcompiled.graph.placeOf? h.coherent hedge.place
      refine (hcompiled.sound.follows_record hplace target).bind fun reached hreached => ?_
      exact hdescend reached hreached.sound (hreached.manifest.trans hcompiled.manifest) target

/-- Following the compiled edges of a template goes as the walk over its described edges. -/
theorem Sound.follows_forM (h : e.Sound) {specs : List EdgeSpec} {edges : List CompiledEdge}
    (hedges : List.Forall₂ (e.graph.Compiled owner) specs edges)
    (hdescend : ∀ mid : Engine, mid.Sound → mid.manifest = e.manifest →
      ∀ target, Follows mid (descend target) (walk target)) :
    Follows e (edges.forM (follow vars owner descend))
      (.chain (e.manifest.walkEdge vars owner walk) specs) := by
  induction specs generalizing e edges with
  | nil =>
    cases hedges
    exact .of_ok (perform_pure e ()) (.refl h)
  | cons spec rest ih =>
    obtain _ | ⟨hedge, hrest⟩ := hedges
    rw [Walk.chain_cons]
    refine (h.follows_follow hedge hdescend).bind fun mid hmid => ?_
    rw [← hmid.manifest]
    -- The edges that are left were compiled before the graph grew.
    refine ih hmid.sound (hrest.imp fun _ _ hcompiled => hmid.graph.compiled h.coherent hcompiled) ?_
    intro later hlater hmanifest
    exact hdescend later hlater (hmanifest.trans hmid.manifest)

/-- A render of bounded depth goes as the walk of that depth. -/
theorem Sound.follows_renderWithin (h : e.Sound) (vars : Variables) (depth : Nat) (name : String) :
    Follows e (renderWithin vars depth name) (e.manifest.walkWithin vars depth name) := by
  induction depth generalizing e name with
  | zero => exact .of_error h (perform_throw e _)
  | succ depth ih =>
    unfold renderWithin Manifest.walkWithin
    cases hentry : e.manifest.get? name with
    | none =>
      exact .of_error h (perform_bind_error (h.perform_compile_missing hentry) _)
    | some entry =>
      obtain ⟨after, hcompile, hadvances, hcached⟩ := h.perform_compile hentry
      rw [← hadvances.manifest] at hentry
      obtain ⟨edges, hedges, hcompiled⟩ := hadvances.sound.exists_edges hentry hcached
      refine .of_perform_eq hadvances (perform_bind_ok hcompile _) ?_
      refine .of_perform_eq (.refl hadvances.sound) (perform_get_bind after _) ?_
      rw [hedges, Option.getD_some, ← hadvances.manifest]
      refine hadvances.sound.follows_forM hcompiled fun mid hmid hmanifest target => ?_
      rw [← hmanifest]
      exact ih hmid target

/-- A render goes as the walk from its template. -/
theorem Sound.follows_render (h : e.Sound) (vars : Variables) (name : String) :
    Follows e (render name vars) (e.manifest.walk vars name) := by
  refine .of_perform_eq (.refl h) (perform_get_bind e _) ?_
  rw [← Walk.still_andThen (e.manifest.walk vars name)]
  refine (h.follows_log _).bind fun mid hmid => ?_
  rw [← hmid.manifest]
  exact hmid.sound.follows_renderWithin vars maxRenderDepth name

/-! ## Histories -/

/-- What a use can do: it chooses the mode, it is an operation on the graph, or the engine moves on. Only a
render records steps, and these are the ones of its walk. -/
theorem Sound.use_cases (h : e.Sound) (u : Use) :
    (∃ mode, u = .setMode mode ∧ e.use u = { e with mode }) ∨
    (∃ op, u = .operate op ∧ e.use u = { e with graph := e.graph.apply op }) ∨
    ∃ steps, Advances e steps (e.use u) ∧
      (steps = [] ∨ ∃ name vars, u = .render name vars ∧
        steps = e.recorded (e.manifest.walk vars name).steps) := by
  have hadvance : ∀ {result : Except Fault Unit} {after : Engine}, e.perform u.action = (result, after) →
      Advances e [] after → Advances e [] (e.use u) := by
    intro result after hperform hadvances
    rw [Engine.use, hperform]
    exact hadvances
  cases u with
  | compile name =>
    refine .inr (.inr ⟨[], ?_, .inl rfl⟩)
    cases hentry : e.manifest.get? name with
    | none => exact hadvance (h.perform_compile_missing hentry) (.refl h)
    | some entry =>
      obtain ⟨after, hperform, hadvances, -⟩ := h.perform_compile hentry
      exact hadvance hperform hadvances
  | reload name =>
    refine .inr (.inr ⟨[], ?_, .inl rfl⟩)
    cases hentry : e.manifest.get? name with
    | none => exact hadvance (perform_reload_missing hentry) (.refl h)
    | some entry =>
      obtain ⟨after, hperform, hadvances, -⟩ := h.perform_reload hentry
      exact hadvance hperform hadvances
  | compileAll =>
    obtain ⟨after, hperform, hadvances, -⟩ := h.perform_compileAll
    exact .inr (.inr ⟨[], hadvance hperform hadvances, .inl rfl⟩)
  | render name vars =>
    exact .inr (.inr ⟨_, (h.follows_render vars name).advances, .inr ⟨name, vars, rfl, rfl⟩⟩)
  | setMode mode => exact .inl ⟨mode, rfl, rfl⟩
  | operate op => exact .inr (.inl ⟨op, rfl, rfl⟩)

/-- Whatever an engine is used for, it stays sound and at work on its manifest. -/
theorem Sound.use (h : e.Sound) (u : Use) : (e.use u).Sound ∧ (e.use u).manifest = e.manifest := by
  rcases h.use_cases u with ⟨mode, -, huse⟩ | ⟨op, -, huse⟩ | ⟨steps, hadvances, -⟩
  · rw [huse]
    exact ⟨⟨h.coherent, h.cached, h.declared⟩, rfl⟩
  · rw [huse]
    exact ⟨h.operate [op], rfl⟩
  · exact ⟨hadvances.sound, hadvances.manifest⟩

/-- An engine is sound and at work on its manifest after any history. -/
theorem sound_after (m : Manifest) (uses : List Use) :
    ((new m).after uses).Sound ∧ ((new m).after uses).manifest = m := by
  suffices hall : ∀ e : Engine, e.Sound →
      (e.after uses).Sound ∧ (e.after uses).manifest = e.manifest from
    hall (new m) (sound_new m)
  induction uses with
  | nil => exact fun e h => ⟨h, rfl⟩
  | cons u rest ih =>
    intro e h
    obtain ⟨hsound, hmanifest⟩ := h.use u
    obtain ⟨hlast, hsame⟩ := ih (e.use u) hsound
    exact ⟨hlast, hsame.trans hmanifest⟩

/-- A render ends as the walk from its template does, whatever was done with the engine before. -/
theorem perform_render_after (m : Manifest) (uses : List Use) (name : String) (vars : Variables) :
    (((new m).after uses).perform (render name vars)).1 = (m.walk vars name).outcome := by
  obtain ⟨hsound, hmanifest⟩ := sound_after m uses
  rw [(hsound.follows_render vars name).outcome, hmanifest]

/-- A render is a walk through the manifest, whatever was done with the engine before. It ends as the
walk does. To the graph it adds declarations and, if its renders are tracked, exactly the steps of the
walk in their order, each recorded on the edge that the graph keeps for it; the history of every edge
gets the targets of the steps over that edge and nothing else. -/
theorem render_refines_walk (m : Manifest) (uses : List Use) (name : String) (vars : Variables) :
    let before := (new m).after uses
    let after := before.use (.render name vars)
    let walk := m.walk vars name
    (before.perform (render name vars)).1 = walk.outcome ∧
    before.graph.Grows (before.recorded walk.steps) after.graph ∧
    ∀ owner id, after.graph.history owner id =
      before.graph.history owner id ++ after.graph.left (before.recorded walk.steps) owner id := by
  intro before after walk
  obtain ⟨hsound, hmanifest⟩ := sound_after m uses
  have hfollows := hsound.follows_render vars name
  rw [hmanifest] at hfollows
  obtain ⟨houtcome, hadvances⟩ := hfollows
  exact ⟨houtcome, hadvances.graph, hadvances.graph.history hsound.coherent⟩

end Engine

end TemplateDeps
