import TemplateDeps.Proofs.Engine.Refinement
import TemplateDeps.Proofs.Graph.Answers

/-!
# What is not affected cannot tell

When the entry of a template changes, the templates to look at again are those that the static view
lists as affected. `render_eq_of_not_mem_affectedBy` says that this is enough: a render of any other
template comes out the same on the changed manifest, and leaves the same graph.

The two runs are compared step by step. `Ignores e m action` says that the engine `e` would do the same
if it were at work on `m`. Compiling a template ignores every manifest with the same entry for it;
selecting a target ignores every manifest that describes the candidates alike. So a render ignores a
change if all templates that it could ask for are outside the change: `Sealed` is that condition on a
set of names, closed under literal targets (`Sound.ignores_renderWithin`). Names that are not affected
are such a set (`sealed_unaffected`), because compiling everything puts each target that the manifest
writes into the graph, where the search for affected templates finds it.
-/

namespace TemplateDeps

namespace Graph

variable {g : Graph}

/-- A template points at the literal candidates of every edge that has a place. -/
theorem Coherent.pointsAt_of_placeOf? (h : g.Coherent) {owner target : String} {spec : EdgeSpec}
    {id : EdgeId} (hplace : g.placeOf? owner spec = some id)
    (htarget : .literal target ∈ spec.candidates) : g.PointsAt owner target := by
  obtain ⟨d, hd, hid⟩ := Option.bind_eq_some_iff.1 hplace
  refine h.pointsAt_iff.2 ⟨d, List.mem_of_getElem? (getElem?_declarations hid), ?_⟩
  rw [EdgeSpec.targets_declaration? hd]
  exact List.mem_map.2 ⟨_, htarget, rfl⟩

end Graph

/-! ## Sets of names outside a change -/

/-- Two manifests have the same entries for the given names, and these entries lead to literal targets
among the names only. -/
structure Sealed (m m' : Manifest) (inside : String → Prop) : Prop where
  agree : ∀ name, inside name → m.get? name = m'.get? name
  closed : ∀ name entry, inside name → m.get? name = some entry →
    ∀ spec ∈ entry.edges, ∀ target ∈ spec.candidates, ∃ n, target = .literal n ∧ inside n

namespace Sealed

variable {m m' : Manifest} {inside : String → Prop} {vars : Variables} {optional : Bool}
  {targets : List TargetRef}

/-- Among literal candidates that both manifests describe alike, both select the same. -/
theorem select_eq (h : Sealed m m' inside)
    (htargets : ∀ target ∈ targets, ∃ n, target = .literal n ∧ inside n) :
    m.select vars optional targets = m'.select vars optional targets := by
  unfold Manifest.select
  generalize ([] : List String) = tried
  induction targets generalizing tried with
  | nil => rfl
  | cons first rest ih =>
    obtain ⟨⟨n, rfl, hn⟩, hrest⟩ := List.forall_mem_cons.1 htargets
    have hcontains : m.contains n = m'.contains n := congrArg Option.isSome (h.agree n hn)
    unfold Manifest.selectAfter TargetRef.evaluate
    dsimp only
    rw [← hcontains, ih hrest]

/-- What is selected from literal candidates is one of them. -/
theorem inside_of_select (htargets : ∀ target ∈ targets, ∃ n, target = .literal n ∧ inside n)
    {name : String} (hselect : m.select vars optional targets = .ok (some name)) : inside name := by
  obtain ⟨-, target, htarget, heval⟩ := Manifest.select_eq_ok_some hselect
  obtain ⟨n, rfl, hn⟩ := htargets target htarget
  cases heval
  exact hn

end Sealed

namespace Engine

/-! ## The same engine on another manifest -/

/-- The engine, put to work on another manifest. -/
def onto (e : Engine) (m : Manifest) : Engine :=
  { e with manifest := m }

/-- On the manifest `m` the action would do the same. -/
def Ignores {α : Type} (e : Engine) (m : Manifest) (action : EngineM α) : Prop :=
  (e.onto m).perform action = ((e.perform action).1, (e.perform action).2.onto m)

variable {e : Engine} {m : Manifest}

/-- Two actions ignore a manifest if the first does, and the second from where the first led to. -/
theorem Ignores.bind {α β : Type} {x : EngineM α} {f : α → EngineM β} (hx : Ignores e m x)
    (hf : ∀ a mid, e.perform x = (.ok a, mid) → Ignores mid m (f a)) : Ignores e m (x >>= f) := by
  unfold Ignores at hx ⊢
  rcases hperform : e.perform x with ⟨result, mid⟩
  rw [hperform] at hx
  cases result with
  | error fault => rw [perform_bind_error hx, perform_bind_error hperform]
  | ok a =>
    rw [perform_bind_ok hx, perform_bind_ok hperform]
    exact hf a mid hperform

/-- No event looks at the manifest. -/
theorem ignores_log (event : Event) : Ignores e m (log event) := rfl

/-- Recording does not look at the manifest. -/
theorem ignores_record (owner : String) (id : EdgeId) (name : String) :
    Ignores e m (record owner id name) := by
  have hgraph : (e.onto m).graph = e.graph := rfl
  have hmode : (e.onto m).mode = e.mode := rfl
  unfold Ignores record
  rw [perform_get_bind, perform_get_bind, hgraph, hmode]
  by_cases htracks : e.graph.tracks e.mode = true
  · rw [if_pos htracks, if_pos htracks]
    cases e.graph.record owner id name <;> rfl
  · rw [if_neg htracks, if_neg htracks]
    rfl

/-- Compiling looks at one entry of the manifest. -/
theorem ignores_compile {name : String} (hentry : e.manifest.get? name = m.get? name) :
    Ignores e m (compile name) := by
  have hreload : Ignores e m (reload name) := by
    have hmanifest : (e.onto m).manifest = m := rfl
    unfold Ignores reload
    rw [perform_get_bind, perform_get_bind, hmanifest, hentry]
    cases m.get? name with
    | none => rfl
    | some entry =>
      have hgraph : (e.onto m).graph = e.graph := rfl
      dsimp only
      rw [hgraph]
      cases (e.graph.compile name entry).result <;> rfl
  have hcache : (e.onto m).cache = e.cache := rfl
  -- Both engines have the same cache.
  by_cases hname : e.cache.contains name = true
  · unfold Ignores
    rw [perform_compile_cached hname, perform_compile_cached (hcache ▸ hname)]
  · unfold Ignores
    rw [perform_compile_new hname, perform_compile_new (hcache ▸ hname)]
    exact hreload

/-! ## A render that stays inside -/

variable {inside : String → Prop} {vars : Variables} {owner : String} {depth : Nat}

/-- Following an edge with candidates inside ignores the other manifest, if going on from inside does. -/
theorem Sound.ignores_follow (h : e.Sound) (hsealed : Sealed e.manifest m inside) {spec : EdgeSpec}
    {edge : CompiledEdge} (hedge : e.graph.Compiled owner spec edge)
    (hspec : ∀ target ∈ spec.candidates, ∃ n, target = .literal n ∧ inside n)
    (hdescend : ∀ mid : Engine, mid.Sound → mid.manifest = e.manifest →
      ∀ target, inside target → Ignores mid m (renderWithin vars depth target)) :
    Ignores e m (follow vars owner (renderWithin vars depth) edge) := by
  have hmanifest : (e.onto m).manifest = m := rfl
  have hselect : m.select vars edge.optional edge.targets =
      e.manifest.select vars edge.optional edge.targets := by
    rw [hedge.targets]
    exact (hsealed.select_eq hspec).symm
  unfold Ignores follow
  rw [perform_get_bind, perform_get_bind, hmanifest, hselect]
  cases hfound : e.manifest.select vars edge.optional edge.targets with
  | error fault => rfl
  | ok found =>
    cases found with
    | none => exact ignores_log _
    | some target =>
      have hcontains := (Manifest.select_eq_ok_some hfound).1
      rw [hedge.targets] at hfound
      have hinside := Sealed.inside_of_select hspec hfound
      refine (ignores_compile (hsealed.agree target hinside)).bind fun _ compiled hcompile => ?_
      have hcompiled := (h.follows_compile hcontains).advances
      rw [hcompile] at hcompiled
      refine (ignores_record owner edge.id target).bind fun _ reached hrecord => ?_
      have hplace := hcompiled.graph.placeOf? h.coherent hedge.place
      have hreached := (hcompiled.sound.follows_record hplace target).advances
      rw [hrecord] at hreached
      exact hdescend reached hreached.sound (hreached.manifest.trans hcompiled.manifest) target hinside

/-- Following edges with candidates inside one after the other ignores the other manifest. -/
theorem Sound.ignores_forM (h : e.Sound) (hsealed : Sealed e.manifest m inside)
    {specs : List EdgeSpec} {edges : List CompiledEdge}
    (hedges : List.Forall₂ (e.graph.Compiled owner) specs edges)
    (hspecs : ∀ spec ∈ specs, ∀ target ∈ spec.candidates, ∃ n, target = .literal n ∧ inside n)
    (hdescend : ∀ mid : Engine, mid.Sound → mid.manifest = e.manifest →
      ∀ target, inside target → Ignores mid m (renderWithin vars depth target)) :
    Ignores e m (edges.forM (follow vars owner (renderWithin vars depth))) := by
  induction specs generalizing e edges with
  | nil =>
    cases hedges
    rfl
  | cons spec rest ih =>
    obtain ⟨edge, others, hedge, hrest, rfl⟩ := List.forall₂_cons_left_iff.1 hedges
    obtain ⟨hspec, hspecs⟩ := List.forall_mem_cons.1 hspecs
    refine (h.ignores_follow hsealed hedge hspec hdescend).bind fun _ mid hfollow => ?_
    have hwalk : Follows e (follow vars owner (renderWithin vars depth) edge) _ :=
      h.follows_follow hedge fun later hlater hmanifest target =>
        hmanifest ▸ hlater.follows_renderWithin vars depth target
    have hmid := hwalk.advances
    rw [hfollow] at hmid
    refine ih hmid.sound (hmid.manifest ▸ hsealed) ?_ hspecs ?_
    · exact hrest.imp fun _ _ hcompiled => hmid.graph.compiled h.coherent hcompiled
    · intro later hlater hmanifest
      exact hdescend later hlater (hmanifest.trans hmid.manifest)

/-- A render from inside ignores the other manifest. -/
theorem Sound.ignores_renderWithin (h : e.Sound) (hsealed : Sealed e.manifest m inside)
    (vars : Variables) (depth : Nat) {name : String} (hname : inside name) :
    Ignores e m (renderWithin vars depth name) := by
  induction depth generalizing e name with
  | zero => rfl
  | succ depth ih =>
    unfold renderWithin
    refine (ignores_compile (hsealed.agree name hname)).bind fun _ mid hcompile => ?_
    cases hentry : e.manifest.get? name with
    | none =>
      rw [h.perform_compile_missing hentry] at hcompile
      cases hcompile
    | some entry =>
      obtain ⟨after, hperform, hadvances, hcached⟩ := h.perform_compile hentry
      obtain rfl : after = mid := by
        rw [hperform] at hcompile
        exact (Prod.mk.inj hcompile).2
      obtain ⟨edges, hedges, hcompiled⟩ :=
        hadvances.sound.exists_edges (hadvances.manifest.symm ▸ hentry) hcached
      have hcache : ((after.onto m).cache.get? name).getD [] = edges := by
        show (after.cache.get? name).getD [] = edges
        rw [hedges, Option.getD_some]
      have hsame : Sealed after.manifest m inside := hadvances.manifest ▸ hsealed
      unfold Ignores
      rw [perform_get_bind, perform_get_bind, hcache, hedges, Option.getD_some]
      refine hadvances.sound.ignores_forM hsame hcompiled (hsealed.closed name entry hname hentry) ?_
      intro later hlater hmanifest target htarget
      exact ih hlater (hmanifest ▸ hsame) htarget

/-! ## What is not affected -/

/-- The names that a change of `x` does not affect are sealed, if the entries other than that of `x`
write literal targets only. -/
theorem sealed_unaffected {m m' : Manifest} {x : String}
    (hagree : ∀ name, name ≠ x → m.get? name = m'.get? name)
    (hliteral : ∀ name entry, name ≠ x → m.get? name = some entry →
      ∀ spec ∈ entry.edges, ∀ v, .var v ∉ spec.candidates) :
    Sealed m m' fun name =>
      name ≠ x ∧ name ∉ ((new m).use .compileAll).graph.staticView.affectedBy x where
  agree name hname := hagree name hname.1
  closed name entry hname hentry spec hspec target htarget := by
    obtain ⟨after, hperform, hadvances, hall⟩ := (sound_new m).perform_compileAll
    have hafter : (new m).use .compileAll = after := congrArg Prod.snd hperform
    rw [hafter] at hname ⊢
    have hcoherent := hadvances.sound.coherent
    -- The template was compiled, so that the edge has a place in the graph.
    have hmem : name ∈ m.names :=
      (NameMap.mem_keys_iff _).2 (Option.isSome_iff_exists.2 ⟨entry, hentry⟩)
    have hfound : after.manifest.get? name = some entry := by
      rw [hadvances.manifest]
      exact hentry
    obtain ⟨id, hplace⟩ := hadvances.sound.exists_placeOf? hfound (hall name hmem) hspec
    cases target with
    | var v => exact absurd htarget (hliteral name entry hname.1 hentry spec hspec v)
    | literal n =>
      have hpoints := hcoherent.pointsAt_of_placeOf? hplace htarget
      have hdeclared : name ∈ after.graph.names := by
        obtain ⟨t, ht, htname, -⟩ := hpoints
        exact List.mem_map.2 ⟨t, ht, htname⟩
      -- A chain from the target to `x` would make one from the template itself.
      refine ⟨n, rfl, ?_, ?_⟩
      · rintro rfl
        exact hname.2 (Graph.mem_affectedBy_iff.2 ⟨hdeclared, hname.1, .single hpoints⟩)
      · intro haffected
        obtain ⟨-, -, hchain⟩ := Graph.mem_affectedBy_iff.1 haffected
        exact hname.2 (Graph.mem_affectedBy_iff.2 ⟨hdeclared, hname.1, .head hpoints hchain⟩)

/-- A change of one entry is noticed by the affected templates only. Let two manifests have the same
settings and the same entries for all names but `x`, and let the entries other than that of `x` write
literal targets only. A render of a template that is neither `x` nor, in the graph of the first
manifest, affected by `x` has the same result on both manifests and leaves the same graph. -/
theorem render_eq_of_not_mem_affectedBy {m m' : Manifest} {x p : String}
    (hsettings : m.settings = m'.settings)
    (hagree : ∀ name, name ≠ x → m.get? name = m'.get? name)
    (hliteral : ∀ name entry, name ≠ x → m.get? name = some entry →
      ∀ spec ∈ entry.edges, ∀ v, .var v ∉ spec.candidates)
    (hne : p ≠ x)
    (hunaffected : p ∉ ((new m).use .compileAll).graph.staticView.affectedBy x) (vars : Variables) :
    ((new m').perform (render p vars)).1 = ((new m).perform (render p vars)).1 ∧
    ((new m').use (.render p vars)).graph = ((new m).use (.render p vars)).graph := by
  obtain ⟨inside, hsealed, hinside⟩ : ∃ inside, Sealed m m' inside ∧ inside p :=
    ⟨_, sealed_unaffected hagree hliteral, hne, hunaffected⟩
  have hnew : (new m).onto m' = new m' := by
    unfold new onto
    rw [hsettings]
  have hignores : Ignores (new m) m' (render p vars) := by
    have hmode : ((new m).onto m').mode = (new m).mode := rfl
    unfold Ignores render
    rw [perform_get_bind, perform_get_bind, hmode]
    refine (ignores_log _).bind fun _ mid hlog => ?_
    have hmid := ((sound_new m).follows_log (.rendering p (new m).mode)).advances
    rw [hlog] at hmid
    have hmanifest : mid.manifest = m := hmid.manifest
    rw [← hmanifest] at hsealed
    exact hmid.sound.ignores_renderWithin hsealed vars maxRenderDepth hinside
  unfold Ignores at hignores
  rw [hnew] at hignores
  constructor
  · rw [hignores]
  · rw [use, use, Use.action, hignores]
    rfl

/-- A page over a base, and a help text with a foot, apart from them. -/
def site (base : Entry) : RawManifest where
  settings := .default
  templates := (NameMap.ofList [
    ("foot", .empty),
    ("help", ⟨none, none, [⟨["note", "foot"], true, false⟩], []⟩),
    ("page", ⟨none, some "base", [], []⟩)]).insert "base" base

/-- The site before its base gets a file and a parent. -/
def siteBefore : Manifest := ⟨site .empty, by decide +kernel⟩

/-- The site with the new base. -/
def siteAfter : Manifest := ⟨site ⟨some "base.html", some "foot", [], []⟩, by decide +kernel⟩

/-- The help text of the site does not depend on its base. -/
theorem render_help_siteAfter_eq :
    "help" ∉ ((new siteBefore).use .compileAll).graph.staticView.affectedBy "base" ∧
    ((new siteAfter).perform (render "help" .empty)).1 = 
      ((new siteBefore).perform (render "help" .empty)).1 ∧
    ((new siteAfter).use (.render "help" .empty)).graph =
      ((new siteBefore).use (.render "help" .empty)).graph := by
  have hagree : ∀ name, name ≠ "base" → siteBefore.get? name = siteAfter.get? name := by
    intro name hname
    show (site _).templates.get? name = (site _).templates.get? name
    unfold site
    rw [NameMap.get?_insert_of_ne _ _ hname, NameMap.get?_insert_of_ne _ _ hname]
  have hnamed : ∀ e ∈ siteBefore.raw.templates.entries, ∀ spec ∈ e.2.edges,
      ∀ target ∈ spec.candidates, target.target ≠ .dynamic := by
    decide +kernel
  have hliteral : ∀ name entry, name ≠ "base" → siteBefore.get? name = some entry →
      ∀ spec ∈ entry.edges, ∀ v, .var v ∉ spec.candidates := by
    intro name entry _ hentry spec hspec v hv
    exact hnamed (name, entry) ((NameMap.get?_eq_some_iff _).1 hentry) spec hspec _ hv rfl
  -- Only the page points at the base, and nothing points at the page.
  have hdependents :
      ((new siteBefore).use .compileAll).graph.staticView.dependentsOf "base" = ["page"] := by
    decide +kernel
  have hsources : ((new siteBefore).use .compileAll).graph.staticView.sources "page" = [] := by
    decide +kernel
  have hunaffected :
      "help" ∉ ((new siteBefore).use .compileAll).graph.staticView.affectedBy "base" := by
    rw [StaticView.affectedBy, hdependents, mem_sortedNames]
    simp [StaticView.visit, hsources]
  have hsettings : siteBefore.settings = siteAfter.settings := rfl
  have hne : "help" ≠ "base" := by decide
  exact ⟨hunaffected,
    render_eq_of_not_mem_affectedBy hsettings hagree hliteral hne hunaffected .empty⟩

end Engine

end TemplateDeps
