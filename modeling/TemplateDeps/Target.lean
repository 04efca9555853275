import TemplateDeps.Text.Quoted

/-!
# Targets of an edge

The source of a template names the templates it depends on literally, or computes a name while it
renders. In the second case the target is dynamic: nothing is known of it before a render resolves it.
-/

namespace TemplateDeps

/-- The endpoint of an edge. -/
inductive Target
  /-- A template named literally. -/
  | named (name : String)
  /-- A template whose name a render computes. -/
  | dynamic
  deriving DecidableEq, Repr

namespace Target

/-- The name, if it is known without a render. -/
def name? : Target → Option String
  | named name => some name
  | dynamic => none

/-- The target as it is shown in a listing. -/
def display : Target → String
  | named name => Text.quote name
  | dynamic => "<dynamic>"

/-- Exactly the literal targets have a name. -/
@[simp] theorem name?_eq_some_iff {t : Target} {n : String} : t.name? = some n ↔ t = named n := by
  cases t <;> simp [name?]

end Target

end TemplateDeps
