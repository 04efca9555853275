import TemplateDeps.Manifest.Basic

/-!
# The edges of a manifest entry

An entry describes its edges in three groups: the parent, the includes and the imports. `Entry.edges`
puts them into one list, in the order in which they are declared and followed.
-/

namespace TemplateDeps

/-- One edge as a manifest entry describes it. -/
inductive EdgeSpec
  | extending (target : String)
  | including (spec : IncludeSpec)
  | importing (spec : ImportSpec)
  deriving DecidableEq, Repr

namespace EdgeSpec

/-- The targets as they are written. Only an include can have more than one. -/
def written : EdgeSpec → List String
  | extending target => [target]
  | including spec => spec.targets
  | importing spec => [spec.target]

/-- The targets that can be read. -/
def candidates (spec : EdgeSpec) : List TargetRef :=
  spec.written.filterMap TargetRef.parse?

/-- Whether the edge may lead nowhere. -/
def optional : EdgeSpec → Bool
  | including spec => spec.ignoreMissing
  | _ => false

end EdgeSpec

/-- The edges of an entry, in the order in which they are declared. -/
def Entry.edges (e : Entry) : List EdgeSpec :=
  e.parent.toList.map .extending ++ e.includes.map .including ++ e.imports.map .importing

end TemplateDeps
