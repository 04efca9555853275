import TemplateDeps.Event

/-!
# The engine and its cache

An engine plays the templates of a manifest against a dependency graph. Compiling a template declares it
and its edges; the compiled edges are kept, and a template is compiled only once unless a reload is
asked for. `EngineM` is the type of what an engine does: it may fail, and what it did before it failed
stays done.
-/

namespace TemplateDeps

/-- An engine at work on a manifest. -/
structure Engine where
  manifest : Manifest
  graph : Graph
  /-- How renders run. -/
  mode : RenderMode
  /-- The edges of the templates that were compiled. -/
  cache : NameMap (List CompiledEdge)
  /-- What happened so far, the latest first. -/
  journal : List Event

/-- What an engine does. A failure keeps the state it was reached in. -/
abbrev EngineM := ExceptT Fault (StateM Engine)

namespace Engine

/-- An engine that has compiled nothing. -/
def new (m : Manifest) : Engine where
  manifest := m
  graph := Graph.empty.setWatchConcurrent m.settings.watchConcurrent
  mode := m.settings.mode
  cache := .empty
  journal := []

/-- The engine with further journal entries. -/
def note (e : Engine) (events : List Event) : Engine :=
  { e with journal := events.reverse ++ e.journal }

/-- What happened so far, in order. -/
def events (e : Engine) : List Event :=
  e.journal.reverse

/-- Do `action` with the engine. -/
def perform {α : Type} (e : Engine) (action : EngineM α) : Except Fault α × Engine :=
  (action.run).run e

/-- Add an event to the journal. -/
def log (event : Event) : EngineM Unit :=
  modify (·.note [event])

/-- Choose how renders run. -/
def setMode (mode : RenderMode) : EngineM Unit :=
  modify ({ · with mode })

/-- Start a watch on the graph. -/
def startWatch : EngineM Unit :=
  modify fun e => { e with graph := e.graph.startWatch }.note [.watchStarted e.graph.size]

/-- Compile a template, whether or not it was compiled before. -/
def reload (name : String) : EngineM Unit := do
  let e ← get
  match e.manifest.get? name with
  | none => throw (.templateNotFound [name])
  | some entry =>
    let c := e.graph.compile name entry
    let e := { e with graph := c.graph }.note (c.events e.graph name)
    match c.result with
    | .error fault => do
      set e
      throw fault
    | .ok edges => set { e with cache := e.cache.insert name edges }

/-- Compile a template unless it is in the cache. -/
def compile (name : String) : EngineM Unit := do
  let e ← get
  if e.cache.contains name then return
  reload name

/-- Compile every template of the manifest, in the order of names. -/
def compileAll : EngineM Unit := do
  let e ← get
  e.manifest.names.forM compile

end Engine

end TemplateDeps
