import TemplateDeps.Engine.Render
import TemplateDeps.Graph.Operation

/-!
# Histories of an engine

An engine is used by steps: templates are compiled and rendered, the mode is chosen, and the graph is
worked on directly. A step that fails leaves what it did before it failed. `Engine.after` is the engine
that a list of steps leads to.
-/

namespace TemplateDeps

namespace Engine

/-- One use of an engine. -/
inductive Use
  | compile (name : String)
  | reload (name : String)
  | compileAll
  | render (name : String) (vars : Variables)
  | setMode (mode : RenderMode)
  /-- An operation done on the graph itself. -/
  | operate (op : Graph.Operation)

/-- What an engine does in a use. -/
def Use.action : Use → EngineM Unit
  | compile name => Engine.compile name
  | reload name => Engine.reload name
  | compileAll => Engine.compileAll
  | render name vars => Engine.render name vars
  | setMode mode => Engine.setMode mode
  | operate op => modify fun e => { e with graph := e.graph.apply op }

/-- The engine after a use. -/
def use (e : Engine) (u : Use) : Engine :=
  (e.perform u.action).2

/-- The engine after a list of uses. -/
def after (e : Engine) (uses : List Use) : Engine :=
  uses.foldl use e

@[simp] theorem after_nil (e : Engine) : e.after [] = e := rfl

@[simp] theorem after_cons (e : Engine) (u : Use) (uses : List Use) :
    e.after (u :: uses) = (e.use u).after uses := rfl

/-- A history can be split. -/
theorem after_append (e : Engine) (us vs : List Use) :
    e.after (us ++ vs) = (e.after us).after vs :=
  List.foldl_append

end Engine

end TemplateDeps
