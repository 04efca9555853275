/-!
# The three ways to depend on a template

A template extends its parent, includes fragments, and imports libraries of definitions. The order
`extending < including < importing` is the order in which a manifest entry declares its edges and in
which the kinds of edges between two templates are listed.
-/

namespace TemplateDeps

/-- How a template depends on another one. -/
inductive Kind
  /-- It fills in the blocks of a parent. -/
  | extending
  /-- It inserts the output of a fragment. -/
  | including
  /-- It uses definitions of a library. -/
  | importing
  deriving DecidableEq, Repr

namespace Kind

/-- The word for a kind in declarations and messages. -/
def word : Kind → String
  | extending => "extends"
  | including => "include"
  | importing => "import"

/-- The place of a kind in the order. -/
def rank : Kind → Nat
  | extending => 0
  | including => 1
  | importing => 2

end Kind

end TemplateDeps
