import TemplateDeps.Proofs.Engine.Refinement

/-!
# What a render declares

A render compiles every template before it takes a step to it, and compiling a template for the first
time is what declares it. So the names in the graph grow along the walk of the render: after the names
that were there come the template it starts from and the targets of its steps, each at its first visit.
`Sound.names_render` says this of a render however it ends, since a walk that fails has taken steps as
well.

`Declares e action w` says that an action leaves behind the names that the walk visits, and
`Declares.bind` puts two actions together in the way walks are put together. Compiling takes no step of
its own, so that the names it adds are counted with the step that comes after it
(`Sound.declares_visit`). The render itself goes by induction on the depth
(`Sound.declares_renderWithin`).
-/

namespace TemplateDeps

/-- The templates that a walk takes a step to, in order and with repeats. -/
def Walk.targets (w : Walk) : List String :=
  w.steps.map (·.target)

/-- The template that an event announces as declared. -/
def Event.declaredName? : Event → Option String
  | templateDeclared name _ => some name
  | _ => none

namespace Engine

variable {e : Engine} {name : String} {entry : Entry}

/-- The action declares the templates that the walk visits, in the order of first visits. -/
def Declares (e : Engine) (action : EngineM Unit) (w : Walk) : Prop :=
  (e.perform action).2.graph.names = adjoinAll e.graph.names w.targets

/-- An action that follows a walk and goes on with another one declares what both of them visit. -/
theorem Declares.bind {x y : EngineM Unit} {u w : Walk} (hx : Declares e x u) (hfollows : Follows e x u)
    (hy : ∀ mid, Advances e (e.recorded u.steps) mid → Declares mid y w) :
    Declares e (x >>= fun _ => y) (u.andThen w) := by
  obtain ⟨houtcome, hadvances⟩ := hfollows
  unfold Declares at hx hy ⊢
  rcases hperform : e.perform x with ⟨result, mid⟩
  rw [hperform] at houtcome hadvances hx
  dsimp only at houtcome hadvances hx
  obtain ⟨steps, fault⟩ := u
  cases fault with
  | some fault =>
    -- The second action is not reached, and neither is the second walk.
    obtain rfl : result = .error fault := houtcome
    rw [perform_bind_error hperform]
    exact hx
  | none =>
    obtain rfl : result = .ok () := houtcome
    rw [perform_bind_ok hperform, hy mid hadvances, hx, ← adjoinAll_append]
    simp [Walk.targets, Walk.andThen]

/-! ## Compiling and recording -/

/-- Compiling a template that is not in the cache declares it. -/
theorem Sound.names_reload (h : e.Sound) (hentry : e.manifest.get? name = some entry) :
    (e.perform (reload name)).2.graph.names = adjoin e.graph.names name := by
  rw [h.graph_reload hentry, h.coherent.names_applyAll_operations]

/-- A template is declared when it was compiled, then or before. -/
theorem Sound.names_compile (h : e.Sound) (hentry : e.manifest.get? name = some entry) :
    (e.perform (compile name)).2.graph.names = adjoin e.graph.names name := by
  by_cases hname : e.cache.contains name = true
  · rw [perform_compile_cached hname, adjoin_of_mem (h.declared name hname)]
  · rw [perform_compile_new hname]
    exact h.names_reload hentry

/-- Whether or not it is refused, recording does nothing but note the resolution, and announces no
template. -/
theorem perform_record (e : Engine) (owner : String) (id : EdgeId) (target : String) :
    ∃ g events, (e.perform (record owner id target)).2 = { e with graph := g }.note events ∧
      (g = e.graph ∨ g = e.graph.apply (.record owner id target)) ∧
      events.filterMap Event.declaredName? = [] := by
  rw [record, perform_get_bind]
  by_cases htracks : e.graph.tracks e.mode = true
  · rw [if_pos htracks]
    cases hrecord : e.graph.record owner id target with
    | error fault => exact ⟨e.graph, [], rfl, .inl rfl, rfl⟩
    | ok next =>
      refine ⟨next, [.resolved owner id target], rfl, .inr ?_, rfl⟩
      rw [Graph.apply, hrecord]
  · rw [if_neg htracks]
    exact ⟨e.graph, [.unrecorded owner id], rfl, .inl rfl, rfl⟩

/-- Recording declares no template. -/
theorem Sound.names_record (h : e.Sound) (owner : String) (id : EdgeId) (target : String) :
    (e.perform (record owner id target)).2.graph.names = e.graph.names := by
  obtain ⟨g, events, hperform, hg, -⟩ := e.perform_record owner id target
  rw [hperform]
  show g.names = e.graph.names
  rcases hg with rfl | rfl
  · rfl
  · rw [h.coherent.names_apply]
    rfl

/-! ## A render -/

variable {vars : Variables} {owner : String} {depth : Nat}

/-- Compiling the target of an edge and recording it comes to declaring the target. Going on from there
declares what the walk from the target visits. -/
theorem Sound.declares_visit (h : e.Sound) {spec : EdgeSpec} {id : EdgeId}
    (hplace : e.graph.placeOf? owner spec = some id) {target : String}
    (hcontains : e.manifest.contains target = true) {rest : EngineM Unit} {w : Walk}
    (hrest : ∀ mid : Engine, mid.Sound → mid.manifest = e.manifest → target ∈ mid.graph.names →
      Declares mid rest w) :
    Declares e (do compile target; record owner id target; rest)
      ((Walk.single ⟨owner, spec, target⟩).andThen w) := by
  obtain ⟨entry, hentry⟩ := Option.isSome_iff_exists.1 hcontains
  obtain ⟨compiled, hcompile, hcompiled, -⟩ := h.perform_compile hentry
  have hnames : compiled.graph.names = adjoin e.graph.names target := by
    rw [← h.names_compile hentry, hcompile]
  have htarget : target ∈ compiled.graph.names := by
    rw [hnames]
    exact mem_adjoin.2 (.inr rfl)
  have hfollows : Follows compiled (record owner id target) (.single ⟨owner, spec, target⟩) :=
    hcompiled.sound.follows_record (hcompiled.graph.placeOf? h.coherent hplace) target
  have hdeclares : Declares compiled (record owner id target) (.single ⟨owner, spec, target⟩) :=
    (hcompiled.sound.names_record owner id target).trans (adjoin_of_mem htarget).symm
  have hvisit := hdeclares.bind hfollows fun mid hmid =>
    hrest mid hmid.sound (hmid.manifest.trans hcompiled.manifest)
      (hmid.graph.mem_names hcompiled.sound.coherent htarget)
  -- To the compiled engine the target is not new any more.
  unfold Declares at hvisit ⊢
  rw [perform_bind_ok hcompile]
  refine hvisit.trans ?_
  show adjoinAll (adjoin compiled.graph.names target) w.targets =
    adjoinAll (adjoin e.graph.names target) w.targets
  rw [adjoin_of_mem htarget, hnames]

/-- Following an edge declares what the walk over this edge visits, if this is so beyond the edge. -/
theorem Sound.declares_follow (h : e.Sound) {spec : EdgeSpec} {edge : CompiledEdge}
    (hedge : e.graph.Compiled owner spec edge)
    (hdescend : ∀ mid : Engine, mid.Sound → mid.manifest = e.manifest → ∀ target ∈ mid.graph.names,
      Declares mid (renderWithin vars depth target) (e.manifest.walkWithin vars depth target)) :
    Declares e (follow vars owner (renderWithin vars depth) edge)
      (e.manifest.walkEdge vars owner (e.manifest.walkWithin vars depth) spec) := by
  unfold Declares
  rw [follow, perform_get_bind, hedge.optional, hedge.targets, Manifest.walkEdge]
  cases hselect : e.manifest.select vars spec.optional spec.candidates with
  | error fault => rfl
  | ok found =>
    cases found with
    | none => rfl
    | some target =>
      have hcontains := (Manifest.select_eq_ok_some hselect).1
      exact h.declares_visit hedge.place hcontains fun mid hmid hmanifest htarget =>
        hdescend mid hmid hmanifest target htarget

/-- Following the compiled edges of a template declares what the walk over its described edges
visits. -/
theorem Sound.declares_forM (h : e.Sound) {specs : List EdgeSpec} {edges : List CompiledEdge}
    (hedges : List.Forall₂ (e.graph.Compiled owner) specs edges)
    (hdescend : ∀ mid : Engine, mid.Sound → mid.manifest = e.manifest → ∀ target ∈ mid.graph.names,
      Declares mid (renderWithin vars depth target) (e.manifest.walkWithin vars depth target)) :
    Declares e (edges.forM (follow vars owner (renderWithin vars depth)))
      (.chain (e.manifest.walkEdge vars owner (e.manifest.walkWithin vars depth)) specs) := by
  induction specs generalizing e edges with
  | nil =>
    cases hedges
    rfl
  | cons spec rest ih =>
    obtain _ | ⟨hedge, hrest⟩ := hedges
    rw [Walk.chain_cons]
    have hfollows : ∀ mid : Engine, mid.Sound → mid.manifest = e.manifest → ∀ target,
        Follows mid (renderWithin vars depth target) (e.manifest.walkWithin vars depth target) :=
      fun mid hmid hmanifest target => hmanifest ▸ hmid.follows_renderWithin vars depth target
    refine (h.declares_follow hedge hdescend).bind (h.follows_follow hedge hfollows) fun mid hmid => ?_
    rw [← hmid.manifest]
    -- The edges that are left were compiled before the graph grew.
    refine ih hmid.sound (hrest.imp fun _ _ hcompiled => hmid.graph.compiled h.coherent hcompiled) ?_
    intro later hlater hmanifest
    rw [hmid.manifest]
    exact hdescend later hlater (hmanifest.trans hmid.manifest)

/-- A render of bounded depth declares its template and what its walk visits, if this is so one level
down. -/
theorem Sound.names_renderWithin_succ (h : e.Sound) (hentry : e.manifest.get? name = some entry)
    (hdescend : ∀ mid : Engine, mid.Sound → mid.manifest = e.manifest → ∀ target ∈ mid.graph.names,
      Declares mid (renderWithin vars depth target) (e.manifest.walkWithin vars depth target)) :
    (e.perform (renderWithin vars (depth + 1) name)).2.graph.names =
      adjoinAll e.graph.names (name :: (e.manifest.walkWithin vars (depth + 1) name).targets) := by
  obtain ⟨after, hcompile, hadvances, hcached⟩ := h.perform_compile hentry
  have hfound := hadvances.manifest.symm ▸ hentry
  obtain ⟨edges, hedges, hcompiled⟩ := hadvances.sound.exists_edges hfound hcached
  have hdeclares := hadvances.sound.declares_forM hcompiled fun mid hmid hmanifest =>
    hadvances.manifest.symm ▸ hdescend mid hmid (hmanifest.trans hadvances.manifest)
  have hnames : after.graph.names = adjoin e.graph.names name := by
    rw [← h.names_compile hentry, hcompile]
  unfold Declares at hdeclares
  rw [renderWithin, perform_bind_ok hcompile, perform_get_bind, hedges, Option.getD_some, hdeclares,
    hnames, hadvances.manifest, Manifest.walkWithin, hentry]
  rfl

/-- A render of a declared template declares what the walk of its depth visits. -/
theorem Sound.declares_renderWithin (h : e.Sound) (vars : Variables) (depth : Nat)
    (hname : name ∈ e.graph.names) :
    Declares e (renderWithin vars depth name) (e.manifest.walkWithin vars depth name) := by
  induction depth generalizing e name with
  | zero => rfl
  | succ depth ih =>
    unfold Declares
    cases hentry : e.manifest.get? name with
    | none =>
      rw [renderWithin, perform_bind_error (h.perform_compile_missing hentry), Manifest.walkWithin,
        hentry]
      rfl
    | some entry =>
      rw [h.names_renderWithin_succ hentry fun mid hmid hmanifest target htarget =>
        hmanifest ▸ ih hmid htarget]
      rw [adjoinAll_cons, adjoin_of_mem hname]

/-- A render of a template of the manifest declares this template and what its walk visits, in the
order of first visits, whether or not it succeeds. -/
theorem Sound.names_render (h : e.Sound) (vars : Variables) (hname : e.manifest.contains name = true) :
    (e.perform (render name vars)).2.graph.names =
      adjoinAll e.graph.names (name :: (e.manifest.walk vars name).targets) := by
  obtain ⟨entry, hentry⟩ := Option.isSome_iff_exists.1 hname
  have hlog : e.perform (log (.rendering name e.mode)) = (.ok (), e.note [.rendering name e.mode]) := rfl
  rw [render, perform_get_bind, perform_bind_ok hlog]
  exact (h.note _).names_renderWithin_succ hentry fun mid hmid hmanifest target htarget =>
    hmanifest ▸ hmid.declares_renderWithin vars _ htarget

/-- The targets of the steps of a render are declared when it ends. -/
theorem Sound.mem_names_render (h : e.Sound) {step : Step}
    (hstep : step ∈ (e.manifest.walk vars name).steps) :
    step.target ∈ (e.use (.render name vars)).graph.names := by
  obtain ⟨_, hleads, -⟩ := Manifest.mem_steps_walkWithin_succ hstep
  show step.target ∈ (e.perform (render name vars)).2.graph.names
  rw [h.names_render vars hleads.contains_owner, mem_adjoinAll]
  exact .inr (List.mem_cons_of_mem _ (List.mem_map.2 ⟨step, hstep, rfl⟩))

end Engine

end TemplateDeps
