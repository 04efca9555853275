import TemplateDeps.Proofs.Engine.Structure
import TemplateDeps.Proofs.Graph.Access

/-!
# A graph in changing hands

A graph may pass from hand to hand. Its owner works on it, handles share it between threads, an engine
compiles and renders with it. A `Phase` is a time in which the graph stays in the same hands, and
`arena_and_index_agree` says what holds after any phases: the index of the graph and its list of templates
belong together, and the graph has a node for every name that was declared in one of the phases and for no
other.

* `Graph.Gains g more g'` says how a graph moves on: `g'` is coherent and has the templates of `g` and those
  listed in `more`. It can be put together (`Graph.Gains.trans`, `Graph.Coherent.gains_foldl`), and each thing
  that is done to a graph has its list (`Graph.Coherent.gains_work`, `Graph.Coherent.gains_serve`).
* What an engine declares is announced in its journal (`Engine.announced`). `Engine.Accounts` says that the
  announcements cover all that the graph has gained, and is kept by every action of the engine. Nothing is
  asked of the cache, which may stem from the time when the engine worked on another graph.
-/

namespace TemplateDeps

/-! ## Phases -/

namespace Graph

/-- The templates that a task declares. -/
def Task.declared : Task → List String
  | operate op => op.declaredName?.toList
  | compile name _ => [name]

/-- What is asked of a graph through a handle. The graph is locked until it is done. -/
inductive Request
  /-- Tasks under one lock. What a handle declares for its caller is a batch of one task, and a holder who
  breaks off has done a shorter batch. -/
  | batch (tasks : List Task)
  /-- Note that a render of some mode followed an edge. -/
  | report (mode : RenderMode) (owner : String) (id : EdgeId) (name : String)

/-- The graph after a request. -/
def serve (g : Graph) : Request → Graph
  | .batch tasks => g.workAll tasks
  | .report mode owner id name =>
    match g.recordIn mode owner id name with
    | .ok next => next
    | .error _ => g

/-- The templates that a request declares. -/
def Request.declared : Request → List String
  | batch tasks => tasks.flatMap Task.declared
  | report .. => []

end Graph

namespace Engine

/-- The engine, with another graph to work on and nothing in its journal. -/
def takeOver (e : Engine) (g : Graph) : Engine :=
  { e with graph := g, journal := [] }

/-- The templates that the engine declared, as its journal announces them. -/
def announced (e : Engine) : List String :=
  e.events.filterMap Event.declaredName?

/-- The templates that a use declares directly on the graph, where the engine does not see it. -/
def Use.declared : Use → List String
  | operate op => op.declaredName?.toList
  | _ => []

/-- The templates that are declared when an engine without a journal is used. -/
def declaredIn (e : Engine) (uses : List Use) : List String :=
  uses.flatMap Use.declared ++ (e.after uses).announced

end Engine

/-- A time in which a graph is in the same hands, and what happens to it there. -/
inductive Phase
  /-- The owner works on the graph. -/
  | owned (tasks : List Graph.Task)
  /-- Handles share the graph, and their requests get the lock in some order. -/
  | shared (requests : List Graph.Request)
  /-- An engine has the graph. -/
  | engine (e : Engine) (uses : List Engine.Use)

namespace Graph

/-- The graph after a phase. -/
def through (g : Graph) : Phase → Graph
  | .owned tasks => g.workAll tasks
  | .shared requests => requests.foldl serve g
  | .engine e uses => ((e.takeOver g).after uses).graph

/-- The templates that are declared in a phase. -/
def declaredIn (g : Graph) : Phase → List String
  | .owned tasks => tasks.flatMap Task.declared
  | .shared requests => requests.flatMap Request.declared
  | .engine e uses => (e.takeOver g).declaredIn uses

/-- The graph after a list of phases. -/
def throughAll (g : Graph) (phases : List Phase) : Graph :=
  phases.foldl through g

/-- The templates that are declared in a list of phases. -/
def declaredInAll (g : Graph) : List Phase → List String
  | [] => []
  | phase :: rest => g.declaredIn phase ++ (g.through phase).declaredInAll rest

/-! ## Gaining templates -/

/-- The graph moves on to a coherent one that has the listed templates besides the old ones. -/
structure Gains (g : Graph) (more : List String) (g' : Graph) : Prop where
  coherent : g'.Coherent
  mem_names_iff : ∀ name, name ∈ g'.names ↔ name ∈ g.names ∨ name ∈ more

namespace Gains

variable {g g' g'' : Graph} {us vs : List String}

/-- A coherent graph that stays as it is gains nothing. -/
theorem refl (h : g.Coherent) : Gains g [] g :=
  ⟨h, fun name => by simp⟩

/-- What is gained in two steps is gained. -/
theorem trans (h : Gains g us g') (h' : Gains g' vs g'') : Gains g (us ++ vs) g'' where
  coherent := h'.coherent
  mem_names_iff name := by
    rw [h'.mem_names_iff, h.mem_names_iff, List.mem_append, or_assoc]

/-- The list may be any with the same members. -/
theorem congr (h : Gains g us g') (hiff : ∀ name, name ∈ us ↔ name ∈ vs) : Gains g vs g' where
  coherent := h.coherent
  mem_names_iff name := (h.mem_names_iff name).trans (or_congr_right (hiff name))

end Gains

variable {g : Graph}

/-- An operation gains the template that it declares, if it declares one. -/
theorem Coherent.gains_apply (h : g.Coherent) (op : Operation) :
    g.Gains op.declaredName?.toList (g.apply op) where
  coherent := h.apply op
  mem_names_iff name := by
    rw [h.names_apply]
    cases op <;> simp [Operation.onNames, Operation.declaredName?]

/-- A task gains the templates that it declares. -/
theorem Coherent.gains_work (h : g.Coherent) (task : Task) : g.Gains task.declared (g.work task) := by
  cases task with
  | operate op => exact h.gains_apply op
  | compile name entry =>
    refine ⟨h.coherent_compile name entry, fun n => ?_⟩
    show n ∈ (g.compile name entry).graph.names ↔ _
    rw [h.names_compile, mem_adjoin, Task.declared, List.mem_singleton]

/-- What is done one after the other gains what each of its parts gains. -/
theorem Coherent.gains_foldl (h : g.Coherent) {α : Type} {f : Graph → α → Graph}
    {declared : α → List String} (hf : ∀ g a, Coherent g → g.Gains (declared a) (f g a)) (l : List α) :
    g.Gains (l.flatMap declared) (l.foldl f g) := by
  induction l generalizing g with
  | nil => exact .refl h
  | cons a rest ih =>
    have hstep := hf g a h
    exact hstep.trans (ih hstep.coherent)

/-- A request gains the templates that it declares. -/
theorem Coherent.gains_serve (h : g.Coherent) (request : Request) :
    g.Gains request.declared (g.serve request) := by
  cases request with
  | batch tasks => exact h.gains_foldl (fun _ task hg => hg.gains_work task) tasks
  | report mode owner id name =>
    by_cases htracks : g.tracks mode = true
    · -- The report is noted as it is without a handle.
      have hserve : g.serve (.report mode owner id name) = g.apply (.record owner id name) := by
        rw [serve, recordIn, if_pos htracks]
        rfl
      rw [hserve]
      exact h.gains_apply (.record owner id name)
    · have hserve : g.serve (.report mode owner id name) = g := by
        rw [serve, recordIn, if_neg htracks]
      rw [hserve]
      exact .refl h

end Graph

/-! ## Engines -/

namespace Engine

/-- Entries of the journal announce what they announce. -/
theorem announced_note (e : Engine) (events : List Event) :
    (e.note events).announced = e.announced ++ events.filterMap Event.declaredName? := by
  simp [announced, Engine.events, note]

/-- Declaring edges announces no template. -/
theorem filterMap_edgeEvents (owner : String) (known : Nat) (edges : List CompiledEdge) :
    (edgeEvents owner known edges).filterMap Event.declaredName? = [] := by
  induction edges generalizing known with
  | nil => rfl
  | cons edge rest ih =>
    rw [edgeEvents]
    split
    · exact ih known
    · exact ih (known + 1)

/-- A compilation announces its template, and no other one. -/
theorem filterMap_events (c : Compilation) (before : Graph) (name : String) :
    (c.events before name).filterMap Event.declaredName? = [name] := by
  have hfirst : ∀ again, Event.declaredName? (.templateDeclared name again) = some name := fun _ => rfl
  rw [Compilation.events, List.filterMap_cons_none rfl, List.filterMap_cons_some (hfirst _),
    filterMap_edgeEvents]

/-- Since the graph `g` the engine has gained what its journal announces, and the templates `others`. -/
def Accounts (g : Graph) (others : List String) (e : Engine) : Prop :=
  g.Gains (others ++ e.announced) e.graph

namespace Accounts

variable {g : Graph} {others : List String} {e : Engine}

/-- The graph may be worked on, if what it gains is announced. -/
theorem work (h : Accounts g others e) {next : Graph} {events : List Event}
    (hnext : e.graph.Gains (events.filterMap Event.declaredName?) next) :
    Accounts g others ({ e with graph := next }.note events) := by
  unfold Accounts
  rw [announced_note, ← List.append_assoc]
  exact h.trans hnext

/-- An entry of the journal that announces no template goes with nothing that is declared. -/
theorem keeps_log (event : Event) (hevent : event.declaredName? = none) :
    Keeps (Accounts g others) (log event) := by
  intro e h
  have hannounced : [event].filterMap Event.declaredName? = [] := by simp [hevent]
  refine h.work ?_
  rw [hannounced]
  exact .refl h.coherent

/-- Recording declares nothing and announces nothing. -/
theorem keeps_record (owner : String) (id : EdgeId) (target : String) :
    Keeps (Accounts g others) (record owner id target) := by
  intro e h
  obtain ⟨next, events, hperform, hnext, hannounced⟩ := e.perform_record owner id target
  rw [hperform]
  refine h.work ?_
  rw [hannounced]
  rcases hnext with rfl | rfl
  · exact .refl h.coherent
  · exact h.coherent.gains_apply (.record owner id target)

/-- Compiling a template declares it, and announces that it does. -/
theorem keeps_reload (name : String) : Keeps (Accounts g others) (reload name) := by
  intro e h
  cases hentry : e.manifest.get? name with
  | none =>
    rw [perform_reload_missing hentry]
    exact h
  | some entry =>
    obtain ⟨c, hc⟩ : ∃ c, e.graph.compile name entry = c := ⟨_, rfl⟩
    have hgains : e.graph.Gains ((c.events e.graph name).filterMap Event.declaredName?) c.graph := by
      rw [filterMap_events, ← hc]
      exact h.coherent.gains_work (.compile name entry)
    -- Whether or not it is stopped, the compilation leaves its graph and its events.
    have hworked := h.work hgains
    rw [reload, perform_get_bind, hentry]
    cases hresult : c.result with
    | error fault =>
      simp only [hc, hresult]
      exact hworked
    | ok edges =>
      simp only [hc, hresult]
      exact hworked

/-- Compiling a template unless it is in the cache declares what it announces. -/
theorem keeps_compile (name : String) : Keeps (Accounts g others) (compile name) :=
  (keeps_reload name).compile

/-- In a use the engine declares what it announces. What is declared on the graph itself counts besides. -/
theorem use (h : Accounts g others e) (u : Use) : Accounts g (others ++ u.declared) (e.use u) := by
  have hown : Accounts g (others ++ []) e := by rwa [List.append_nil]
  cases u with
  | compile name => exact keeps_compile name e hown
  | reload name => exact keeps_reload name e hown
  | compileAll => exact keeps_compileAll keeps_compile e hown
  | render name vars => exact keeps_render keeps_log keeps_compile keeps_record name vars e hown
  | setMode mode => exact hown
  | operate op =>
    -- The journal does not change, and the declared template goes in front of it.
    refine (h.trans (h.coherent.gains_apply op)).congr fun name => ?_
    show name ∈ others ++ e.announced ++ op.declaredName?.toList ↔
      name ∈ others ++ op.declaredName?.toList ++ e.announced
    simp only [List.mem_append]
    exact or_right_comm

/-- In a history the engine declares what it announces, and what is declared on the graph counts besides. -/
theorem after (h : Accounts g others e) (uses : List Use) :
    Accounts g (others ++ uses.flatMap Use.declared) (e.after uses) := by
  induction uses generalizing e others with
  | nil => simpa using h
  | cons u rest ih =>
    rw [after_cons, List.flatMap_cons, ← List.append_assoc]
    exact ih (h.use u)

end Accounts

end Engine

/-! ## Index and arena -/

namespace Graph

variable {g : Graph}

/-- A phase gains the templates that are declared in it. -/
theorem Coherent.gains_through (h : g.Coherent) (phase : Phase) :
    g.Gains (g.declaredIn phase) (g.through phase) := by
  cases phase with
  | owned tasks => exact h.gains_foldl (fun _ task hg => hg.gains_work task) tasks
  | shared requests => exact h.gains_foldl (fun _ request hg => hg.gains_serve request) requests
  | engine e uses =>
    have hstart : Engine.Accounts g [] (e.takeOver g) := .refl h
    exact hstart.after uses

/-- Phases gain the templates that are declared in them. -/
theorem Coherent.gains_throughAll (h : g.Coherent) (phases : List Phase) :
    g.Gains (g.declaredInAll phases) (g.throughAll phases) := by
  induction phases generalizing g with
  | nil => exact .refl h
  | cons phase rest ih =>
    have hphase := h.gains_through phase
    exact hphase.trans (ih hphase.coherent)

/-- What a graph has gained since it was empty are its templates, and its index belongs to them. -/
theorem Gains.indexed {declared : List String} (h : Gains empty declared g) : g.Indexed declared :=
  h.coherent.indexed fun name => (h.mem_names_iff name).trans (by simp [empty, names])

/-- The index of a graph and its list of templates belong together, in whatever hands the graph has been. Let
it start empty and go through phases in which its owner works on it, handles share it, or engines have it.
Then the index gives a position for a name exactly if the position is in the list and the template there has
this name, names are distinct, and the index has as many entries as there are templates. So access by position
never leaves the list, neither to look a template up nor to mark it when it is declared again. Something is
found under a name exactly if the name was declared in one of the phases, and then it is the one node of this
name, which is also the node that declarations of edges and resolutions change.

In particular this is so of the graph of any engine, whatever the engine and its graph were used for. -/
theorem arena_and_index_agree :
    (∀ phases : List Phase, (empty.throughAll phases).Indexed (empty.declaredInAll phases)) ∧
    ∀ (m : Manifest) (uses : List Engine.Use),
      ((Engine.new m).after uses).graph.Indexed ((Engine.new m).declaredIn uses) := by
  constructor
  · exact fun phases => (coherent_empty.gains_throughAll phases).indexed
  · intro m uses
    -- A new engine has taken over an empty graph, in which it chose what is watched.
    have hchosen := coherent_empty.gains_apply (.setWatchConcurrent m.settings.watchConcurrent)
    have hused := hchosen.coherent.gains_through (.engine (Engine.new m) uses)
    exact (hchosen.trans hused).indexed

end Graph

end TemplateDeps
