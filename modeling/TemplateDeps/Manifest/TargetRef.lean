import TemplateDeps.Target
import TemplateDeps.Text.Blank

/-!
# Written targets

A manifest writes a target as text. Blanks around it do not count. What starts with a dollar sign is
read from the render variable named by the rest; everything else is a template name. A target with
nothing left, or with nothing after the dollar sign, is no target.
-/

namespace TemplateDeps

/-- A target as a manifest writes it. -/
inductive TargetRef
  /-- The name of a template. -/
  | literal (name : String)
  /-- The name of a render variable whose value is the name of a template. -/
  | var (name : String)
  deriving DecidableEq, Repr

namespace TargetRef

/-- Read a target from characters without blanks at the ends. -/
def ofTrimmed? : List Char → Option TargetRef
  | [] => none
  | ['$'] => none
  | '$' :: name => some (.var (String.ofList name))
  | name => some (.literal (String.ofList name))

/-- Read a target. -/
def parse? (raw : String) : Option TargetRef :=
  ofTrimmed? (Text.trimChars raw.toList)

/-- The text of a target. -/
def written : TargetRef → String
  | literal name => name
  | var name => "$" ++ name

/-- The endpoint that an edge with this target gets: what a variable holds is not known before a
render. -/
def target : TargetRef → Target
  | literal name => .named name
  | var _ => .dynamic

end TargetRef

end TemplateDeps
