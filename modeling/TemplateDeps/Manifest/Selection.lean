import TemplateDeps.Manifest.Basic

/-!
# Where an edge leads

An edge of a manifest lists candidates. A render takes the first candidate that names a template of the
manifest, where a variable stands for its value. Candidates behind the one taken are not looked at, so a
variable without a value does no harm there; before it, it ends the search with a fault.
-/

namespace TemplateDeps

/-- The values of render variables. -/
abbrev Variables := NameMap String

/-- The name that a written target stands for. -/
def TargetRef.evaluate (vars : Variables) : TargetRef → Except Fault String
  | literal name => .ok name
  | var name =>
    match vars.get? name with
    | some value => .ok value
    | none => .error (.unboundVariable name)

namespace Manifest

/-- Go through candidates, after the names `tried` were found missing. -/
def selectAfter (m : Manifest) (vars : Variables) (optional : Bool) :
    (tried : List String) → List TargetRef → Except Fault (Option String)
  | tried, [] => if optional then .ok none else .error (.templateNotFound tried)
  | tried, target :: rest =>
    match target.evaluate vars with
    | .error fault => .error fault
    | .ok name =>
      if m.contains name then .ok (some name)
      else m.selectAfter vars optional (tried ++ [name]) rest

/-- The first of the candidates that is a template of the manifest. There is none if an optional edge
leads nowhere. -/
def select (m : Manifest) (vars : Variables) (optional : Bool) (targets : List TargetRef) :
    Except Fault (Option String) :=
  m.selectAfter vars optional [] targets

end Manifest

end TemplateDeps
