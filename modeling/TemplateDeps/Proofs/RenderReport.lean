import TemplateDeps.Program
import TemplateDeps.Proofs.CommandLine.Assignments
import TemplateDeps.Proofs.Engine.Described
import TemplateDeps.Proofs.Engine.Watch

/-!
# What the render command prints

The render command compiles the template that it is asked for, starts a watch and renders. By
`render_report` its report is read off the walk from that template: it lists the targets of the walk in the
order of first visits, each once, with the files that the manifest gives them. If renders are not tracked
the report lists nothing, and if the walk fails there is none.

The order in which a report lists templates is that of the graph, where they stand as they were declared. So
two things have to be known of the graph: what a render declares (`Engine.Sound.names_render`) and what was
reached since the watch was started (`Graph.Coherent.reached_of_grows`). `Engine.Sound.map_name_used_render`
puts them together, and `Graph.Described.watchReport_eq` turns names into lines. `Engine.Ready` is how far a
new engine has got when the render begins (`Command.perform_render_eq`).
-/

namespace TemplateDeps

/-! ## Lines -/

/-- The line of a template in a report, as far as the manifest knows it: its name, and its file in
parentheses. -/
def Manifest.reportLine (m : Manifest) (name : String) : String :=
  match ((m.get? name).bind (·.file) : Option String) with
  | some file => s!"  - {name} ({file})"
  | none => s!"  - {name}"

/-- The report that lists templates as used. -/
def Manifest.report (m : Manifest) (used : List String) : String :=
  unlines (s!"used in current watch ({used.length}):" :: used.map m.reportLine)

/-- The report on a graph that the manifest describes lists the used templates with the files of the
manifest. -/
theorem Graph.Described.watchReport_eq {m : Manifest} {g : Graph} (h : g.Described m) :
    g.watchReport = m.report (g.used.map (·.name)) := by
  have hlines : g.used.map Template.reportLine = (g.used.map (·.name)).map m.reportLine := by
    rw [List.map_map]
    refine List.map_congr_left fun t ht => ?_
    obtain ⟨entry, hentry, hfile⟩ := h.file_eq (List.mem_filter.1 ht).1
    show t.reportLine = m.reportLine t.name
    cases hcase : entry.file <;>
      simp [Template.reportLine, Manifest.reportLine, hentry, hfile, hcase]
  rw [watchReport, Manifest.report, List.length_map, hlines]

/-! ## The order of first visits -/

/-- Behind a name that was there before, the names of a list stand in the order in which they come up in
the list. -/
theorem filter_adjoinAll_singleton {name : String} {targets : List String} (hname : name ∉ targets) :
    (adjoinAll [name] (name :: targets)).filter (· ∈ targets) = targets.eraseDups := by
  have hothers : targets.filter (fun t => !t == name) = targets := by
    rw [List.filter_eq_self]
    intro t ht
    have hne : t ≠ name := fun heq => hname (heq ▸ ht)
    simpa using hne
  have hall : adjoinAll [name] (name :: targets) = name :: targets.eraseDups := by
    calc adjoinAll [name] (name :: targets)
        = adjoinAll [name] targets := by rw [adjoinAll_cons, adjoin_of_mem (List.mem_singleton_self name)]
      _ = adjoinAll [] (name :: targets) := rfl
      _ = name :: targets.eraseDups := by rw [adjoinAll_nil_left, List.eraseDups_cons, hothers]
  rw [hall, List.filter_cons_of_neg (by simpa using hname), List.filter_eq_self]
  exact fun t ht => decide_eq_true (List.mem_eraseDups.1 ht)

/-- A walk without a fault does not come back to where it started. -/
theorem Manifest.not_mem_targets {m : Manifest} {vars : Variables} {name : String}
    (h : (m.walk vars name).fault = none) : name ∉ (m.walk vars name).targets := by
  intro hmem
  obtain ⟨step, hstep, htarget⟩ := List.mem_map.1 hmem
  have hcycle := reaches_of_mem_steps hstep
  exact not_reachesCycle h ⟨name, .refl, htarget ▸ hcycle⟩

namespace Engine

/-- A render that comes right after the start of a watch uses the targets of its recorded steps. They stand
where they were declared: before the render, or else in the order of first visits. -/
theorem Sound.map_name_used_render {e : Engine} (h : e.Sound) {g : Graph} (hg : g.Coherent)
    (hwatch : e.graph = g.apply .startWatch) (vars : Variables) {name : String}
    (hname : e.manifest.contains name = true) :
    (e.use (.render name vars)).graph.used.map (·.name) =
      (adjoinAll e.graph.names (name :: (e.manifest.walk vars name).targets)).filter
        (· ∈ (e.recorded (e.manifest.walk vars name).steps).map (·.target)) := by
  have hgrows := (h.follows_render vars name).advances.graph
  rw [hwatch] at hgrows
  show (e.perform (render name vars)).2.graph.used.map (·.name) = _
  rw [Graph.map_name_used, h.names_render vars hname]
  refine List.filter_congr fun t _ => ?_
  rw [Bool.eq_iff_iff, hg.reached_of_grows hgrows, decide_eq_true_eq, List.mem_map]

/-- An engine that is about to render: it has declared the template to be rendered and no other one, and a
watch was just started. -/
structure Ready (m : Manifest) (name : String) (e : Engine) : Prop where
  described : Described m e
  names : e.graph.names = [name]
  watched : ∃ g : Graph, g.Coherent ∧ e.graph = g.apply .startWatch

/-- The report about a render lists the targets of its recorded steps in the order of first visits, if the
engine was ready for it. -/
theorem Ready.perform_render {m : Manifest} {name : String} {e : Engine} (h : Ready m name e)
    (hname : m.contains name = true) (vars : Variables) :
    (e.perform (do
        render name vars
        return (← get).graph.watchReport)).1 = (m.walk vars name).outcome.map fun _ =>
      m.report (if e.graph.tracks e.mode then (m.walk vars name).targets.eraseDups else []) := by
  obtain ⟨hdescribed, hnames, g, hg, hwatch⟩ := h
  have houtcome := (hdescribed.sound.follows_render vars name).outcome
  have hused := hdescribed.sound.map_name_used_render hg hwatch vars (hdescribed.manifest ▸ hname)
  have hafter : Described m (e.use (.render name vars)) := hdescribed.use nofun
  rw [hdescribed.manifest] at houtcome hused
  have hperform : e.perform (render name vars) =
      ((m.walk vars name).outcome, e.use (.render name vars)) := Prod.ext houtcome rfl
  cases hfault : (m.walk vars name).fault with
  | some fault =>
    rw [Walk.outcome_eq_error_iff.2 hfault] at hperform ⊢
    rw [perform_bind_error hperform]
    rfl
  | none =>
    rw [Walk.outcome_eq_ok_iff.2 hfault] at hperform ⊢
    rw [perform_bind_ok hperform, perform_get_bind]
    show Except.ok (e.use (.render name vars)).graph.watchReport = Except.ok _
    rw [hafter.graph.watchReport_eq, hused, hnames, recorded]
    split
    · rw [← filter_adjoinAll_singleton (Manifest.not_mem_targets hfault)]
      rfl
    · simp

end Engine

/-! ## The command -/

namespace Command

open Engine

variable {m : Manifest} {name : String}

/-- Before it compiles anything the command chooses the mode, and notes that it will record nothing if that
is so. -/
theorem perform_render_start (m : Manifest) (name : String) (vars : List (String × String))
    (mode : Option RenderMode) :
    ∃ events, (new m).perform (Command.render name vars mode).action =
      ({ new m with mode := mode.getD m.settings.mode }.note events).perform (do
        Engine.compile name
        Engine.startWatch
        Engine.render name (.ofList vars)
        return (← get).graph.watchReport) := by
  let start : Engine := { new m with mode := mode.getD m.settings.mode }
  let rest : EngineM String := do
    Engine.compile name
    Engine.startWatch
    Engine.render name (.ofList vars)
    return (← get).graph.watchReport
  have hmode : (new m).perform (mode.forM Engine.setMode) = (.ok (), start) := by
    cases mode <;> rfl
  have hnote : (new m).perform (Command.render name vars mode).action =
      start.perform (if start.graph.tracks start.mode then rest
        else Engine.log .untrackedMode >>= fun _ => rest) := by
    rw [action, perform_bind_ok hmode, perform_get_bind]
  rw [hnote]
  by_cases htracks : start.graph.tracks start.mode = true
  · exact ⟨[], by rw [if_pos htracks]; rfl⟩
  · exact ⟨[.untrackedMode], by rw [if_neg htracks]; rfl⟩

/-- The command cannot compile a template that the manifest does not have. -/
theorem perform_render_missing (hentry : m.get? name = none) (vars : List (String × String))
    (mode : Option RenderMode) :
    ((new m).perform (Command.render name vars mode).action).1 = .error (.templateNotFound [name]) := by
  obtain ⟨events, hstart⟩ := perform_render_start m name vars mode
  have hsound := ((described_new m).setMode (mode.getD m.settings.mode)).sound.note events
  rw [hstart, perform_bind_error (hsound.perform_compile_missing hentry)]

/-- When the render begins, the engine is ready for it and tracks renders as a new one in the chosen mode. -/
theorem perform_render_eq {entry : Entry} (hentry : m.get? name = some entry)
    (vars : List (String × String)) (mode : Option RenderMode) :
    ∃ e : Engine, Ready m name e ∧
      e.graph.tracks e.mode = (new m).graph.tracks (mode.getD m.settings.mode) ∧
      (new m).perform (Command.render name vars mode).action = e.perform (do
        Engine.render name (.ofList vars)
        return (← get).graph.watchReport) := by
  obtain ⟨events, hstart⟩ := perform_render_start m name vars mode
  let start : Engine := { new m with mode := mode.getD m.settings.mode }.note events
  have hdescribed : Described m start := ((described_new m).setMode _).note events
  obtain ⟨compiled, hcompile, hadvances, -⟩ := hdescribed.sound.perform_compile hentry
  have hnames : compiled.graph.names = [name] := by
    have hadjoin := hdescribed.sound.names_compile hentry
    rw [hcompile] at hadjoin
    exact hadjoin
  have hcompiled : Described m compiled := by
    have hkept := Described.keeps_compile name start hdescribed
    rwa [hcompile] at hkept
  have hcoherent : compiled.graph.Coherent := hcompiled.sound.coherent
  let ready : Engine := { compiled with graph := compiled.graph.apply .startWatch }.note
    [.watchStarted compiled.graph.size]
  have hwatch : compiled.perform Engine.startWatch = (.ok (), ready) := perform_modify compiled _
  refine ⟨ready, ⟨?_, ?_, compiled.graph, hcoherent, rfl⟩, ?_, ?_⟩
  · exact (hcompiled.operate (m.admits_of_not_declares rfl)).note _
  · exact (hcoherent.names_apply .startWatch).trans hnames
  · -- The start of the watch leaves it open or closed what is tracked.
    show compiled.graph.tracks compiled.mode = start.graph.tracks start.mode
    rw [hadvances.mode, hadvances.graph.tracks]
  · rw [hstart, perform_bind_ok hcompile, perform_bind_ok hwatch]

/-- The command ends as the walk from its template does. Its report lists the targets of the steps that
were recorded, in the order of first visits. -/
theorem perform_render (m : Manifest) (name : String) (vars : List (String × String))
    (mode : Option RenderMode) :
    let walk := m.walk (.ofList vars) name
    ((new m).perform (Command.render name vars mode).action).1 = walk.outcome.map fun _ =>
      m.report (if (new m).graph.tracks (mode.getD m.settings.mode) then walk.targets.eraseDups else []) := by
  intro walk
  cases hentry : m.get? name with
  | none =>
    have hfault : walk.fault = some (.templateNotFound [name]) := by
      show (m.walkWithin (.ofList vars) maxRenderDepth name).fault = _
      rw [maxRenderDepth, Manifest.walkWithin, hentry]
      rfl
    rw [perform_render_missing hentry, Walk.outcome_eq_error_iff.2 hfault]
    rfl
  | some entry =>
    obtain ⟨e, hready, htracks, hperform⟩ := perform_render_eq hentry vars mode
    have hcontains : m.contains name = true := Option.isSome_iff_exists.2 ⟨entry, hentry⟩
    rw [hperform, hready.perform_render hcontains, htracks]

end Command

/-- A mode is tracked by a new engine if renders do not overlap in it, or if the manifest says so. -/
theorem Engine.tracks_new_iff (m : Manifest) (mode : RenderMode) :
    (new m).graph.tracks mode = true ↔ mode = .sync ∨ m.settings.watchConcurrent = true := by
  cases mode with
  | sync => exact iff_of_true rfl (.inl rfl)
  | concurrent => exact (or_iff_right nofun).symm

/-- A run prints its report, and nothing when it fails. -/
theorem Exit.output_ofRun (args : Arguments) (environment : Option String)
    (content : Except ReadFault ByteArray) :
    (ofRun args environment content).output = (args.command.run content).1.toOption.getD "" := by
  unfold ofRun
  rcases args.command.run content with ⟨_ | report, events⟩ <;> rfl

/-- The render command prints what the walk visits. Let the content of a file be a manifest, and let the
request be to render a template with some bindings of variables, of which the last one of each name counts,
and possibly in a mode of its own.

If the walk from the template fails, so does the run, with the same fault, and nothing is printed. If it
comes to its end and renders are tracked in the mode, what is printed is the report that lists the targets
of the walk, each at its first visit and once, and never the template itself. If renders are not tracked,
the report is the one that lists nothing. -/
theorem render_report {content : Except ReadFault ByteArray} {m : Manifest}
    (hload : Manifest.ofFile content = .ok m) (config : String) (level : Option Level)
    (environment : Option String) (name : String) (vars : List (String × String))
    (mode : Option RenderMode) :
    let bindings : Variables := .ofList vars
    let walk := m.walk bindings name
    let used := walk.targets.eraseDups
    let tracked := mode.getD m.settings.mode = .sync ∨ m.settings.watchConcurrent = true
    let run := (Command.render name vars mode).run content
    let exit := Exit.ofRun ⟨config, level, .render name vars mode⟩ environment content
    (∀ key, bindings.get? key = ((vars.filter (·.1 = key)).getLast?).map (·.2)) ∧
    (∀ fault, walk.fault = some fault → run.1 = .error fault ∧ exit.output = "") ∧
    (walk.fault = none → name ∉ used ∧
      (tracked → run.1 = .ok (m.report used) ∧ exit.output = m.report used) ∧
      (¬ tracked → run.1 = .ok (m.report []) ∧ exit.output = m.report [])) := by
  intro bindings walk used tracked run exit
  have hrun : run.1 = walk.outcome.map fun _ => m.report
      (if (Engine.new m).graph.tracks (mode.getD m.settings.mode) then used else []) := by
    rw [← Command.perform_render m name vars mode]
    show ((Command.render name vars mode).run content).1 = _
    rw [Command.run, hload]
  have hexit : exit.output = run.1.toOption.getD "" := Exit.output_ofRun _ environment content
  refine ⟨NameMap.get?_ofList vars, fun fault hfault => ?_, fun hfault => ⟨?_, ?_, ?_⟩⟩
  · rw [Walk.outcome_eq_error_iff.2 hfault] at hrun
    exact ⟨hrun, by rw [hexit, hrun]; rfl⟩
  · exact fun hmem => Manifest.not_mem_targets hfault (List.mem_eraseDups.1 hmem)
  · intro htracked
    rw [Walk.outcome_eq_ok_iff.2 hfault, if_pos ((Engine.tracks_new_iff m _).2 htracked)] at hrun
    exact ⟨hrun, by rw [hexit, hrun]; rfl⟩
  · intro htracked
    rw [Walk.outcome_eq_ok_iff.2 hfault, if_neg (mt (Engine.tracks_new_iff m _).1 htracked)] at hrun
    exact ⟨hrun, by rw [hexit, hrun]; rfl⟩

/-- The bytes of a text are read as this text. -/
theorem RawManifest.ofBytes_toUTF8 (s : String) : ofBytes s.toUTF8 = ofToml s := by
  have hread : String.fromUTF8? s.toUTF8 = some s := dif_pos s.isValidUTF8
  rw [ofBytes, hread]

/-- The text of a manifest: a page whose panel a variable chooses, and a frame that the panel may have as
well. -/
def dashboardText : String :=
  unlines
    ["[template]",
     "frame.file = \"frame.html\"",
     "list.extends = \"frame\"",
     "page.extends = \"frame\"",
     "page.include = [\x7btargets = [\"$panel\"]\x7d]"]

/-- The manifest with this text. -/
def dashboard : Manifest where
  raw := {
    settings := .default
    templates := .ofList [
      ("frame", ⟨some "frame.html", none, [], []⟩),
      ("list", ⟨none, some "frame", [], []⟩),
      ("page", ⟨none, some "frame", [⟨["$panel"], true, false⟩], []⟩)] }
  valid := by decide +kernel

/-- The later of two panels is rendered. The frame is reached twice and printed where it was reached first.
Without a panel the run fails. -/
theorem dashboard_report :
    let content : Except ReadFault ByteArray := .ok dashboardText.toUTF8
    let vars := [("panel", "chart"), ("panel", "list")]
    (dashboard.walk (.ofList vars) "page").targets = ["frame", "list", "frame"] ∧
    (Exit.ofRun ⟨"site.toml", none, .render "page" vars none⟩ none content).output =
      unlines ["used in current watch (2):", "  - frame (frame.html)", "  - list"] ∧
    (Exit.ofRun ⟨"site.toml", none, .render "page" vars (some .concurrent)⟩ none content).output =
      unlines ["used in current watch (0):"] ∧
    ((Command.render "page" [] none).run content).1 = .error (.unboundVariable "panel") := by
  intro content vars
  have hload : Manifest.ofFile content = .ok dashboard := by
    have hraw : RawManifest.ofToml dashboardText = .ok dashboard.raw := by decide +kernel
    show (RawManifest.ofBytes dashboardText.toUTF8 >>= Manifest.ofRaw) = .ok dashboard
    rw [RawManifest.ofBytes_toUTF8, hraw]
    exact Manifest.ofRaw_eq_ok_iff.2 (rfl : dashboard.raw = dashboard.raw)
  obtain ⟨-, -, hsync⟩ := render_report hload "site.toml" none none "page" vars none
  obtain ⟨-, -, hconcurrent⟩ := render_report hload "site.toml" none none "page" vars (some .concurrent)
  obtain ⟨-, hunbound, -⟩ := render_report hload "site.toml" none none "page" [] none
  have htargets : (dashboard.walk (.ofList vars) "page").targets = ["frame", "list", "frame"] := by
    decide +kernel
  have hfault : (dashboard.walk (.ofList vars) "page").fault = none := by decide +kernel
  refine ⟨htargets, ?_, ?_, ?_⟩
  · rw [((hsync hfault).2.1 (by decide +kernel)).2, htargets]
    decide +kernel
  · rw [((hconcurrent hfault).2.2 (by decide +kernel)).2]
    decide +kernel
  · exact (hunbound (.unboundVariable "panel") (by decide +kernel)).1

end TemplateDeps
