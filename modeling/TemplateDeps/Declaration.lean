import TemplateDeps.Fault
import TemplateDeps.Target

/-!
# Declarations

A declaration is what the compiler of a template says about one edge: its kind, its targets, and the
attributes of that kind. The type has one constructor per kind, which holds just the attributes that
the kind has: extending has one target and no attributes, including may pass the context and may
tolerate a missing target, importing may pass the context and binds what it imports. Declarations are
compared by all of these, which is what makes compiling a template twice harmless.

Attributes that were never set are absent, which differs from every set value.
-/

namespace TemplateDeps

/-- What an import binds. -/
inductive Binding
  /-- The whole library under one name. -/
  | whole (name : String)
  /-- Some of its members. -/
  | members (names : List String)
  deriving DecidableEq, Repr

/-- What is known of one edge before any render. -/
inductive Declaration
  /-- The parent of a template. -/
  | extending (target : Target)
  /-- A fragment, given by candidates of which the first that exists is taken. -/
  | including (first : Target) (others : List Target) (withContext ignoreMissing : Option Bool)
  /-- A library. -/
  | importing (first : Target) (others : List Target) (withContext : Option Bool)
      (binding : Option Binding)
  deriving DecidableEq, Repr

namespace Declaration

/-! ## Building declarations -/

/-- A declaration without attributes. Every kind needs a target, and extending takes only one. -/
def plain : Kind → List Target → Except DeclarationFault Declaration
  | kind, [] => .error (.noTarget kind)
  | .extending, [target] => .ok (.extending target)
  | .extending, targets => .error (.severalParents targets.length)
  | .including, first :: others => .ok (.including first others none none)
  | .importing, first :: others => .ok (.importing first others none none)

/-- An include as engines declare it: the context is passed and the fragment must exist. -/
def fragment : List Target → Except DeclarationFault Declaration
  | [] => .error (.noTarget .including)
  | first :: others => .ok (.including first others (some true) (some false))

/-- An import as engines declare it: the context is not passed. -/
def library (target : Target) (binding : Binding) : Declaration :=
  .importing target [] (some false) (some binding)

/-- Set whether the context is passed. Extending has no such attribute and stays as it is. -/
def setContext (d : Declaration) (value : Bool) : Declaration :=
  match d with
  | extending target => extending target
  | including first others _ ignoreMissing => including first others (some value) ignoreMissing
  | importing first others _ binding => importing first others (some value) binding

/-- Set whether a missing target is tolerated. Only including has this attribute. -/
def setIgnoreMissing (d : Declaration) (value : Bool) : Declaration :=
  match d with
  | including first others withContext _ => including first others withContext (some value)
  | other => other

/-! ## Reading declarations -/

/-- The kind of the edge. -/
def kind : Declaration → Kind
  | extending .. => .extending
  | including .. => .including
  | importing .. => .importing

/-- The targets, in the order in which they were declared. -/
def targets : Declaration → List Target
  | extending target => [target]
  | including first others _ _ => first :: others
  | importing first others _ _ => first :: others

/-- The target, if there is exactly one. -/
def target? (d : Declaration) : Option Target :=
  match d.targets with
  | [single] => some single
  | _ => none

/-- Whether the context is passed, where that was said. -/
def context? : Declaration → Option Bool
  | extending _ => none
  | including _ _ withContext _ => withContext
  | importing _ _ withContext _ => withContext

/-- Whether a missing target is tolerated, where that was said. -/
def ignoreMissing? : Declaration → Option Bool
  | including _ _ _ ignoreMissing => ignoreMissing
  | _ => none

/-- What is bound, where that was said. -/
def binding? : Declaration → Option Binding
  | importing _ _ _ binding => binding
  | _ => none

/-- The name under which the whole library is bound. -/
def boundAs? (d : Declaration) : Option String :=
  match d.binding? with
  | some (.whole name) => some name
  | _ => none

/-- The members that are bound. -/
def members? (d : Declaration) : Option (List String) :=
  match d.binding? with
  | some (.members names) => some names
  | _ => none

/-- Whether one of the targets is the literal `name`. -/
def names (d : Declaration) (name : String) : Bool :=
  d.targets.contains (.named name)

/-- The declaration as it is shown in a listing: its kind and its targets. -/
def display (d : Declaration) : String :=
  d.kind.word ++ " " ++ String.intercalate " | " (d.targets.map Target.display)

/-- A declaration names what is among its targets. -/
@[simp] theorem names_eq_true_iff {d : Declaration} {name : String} :
    d.names name = true ↔ Target.named name ∈ d.targets := by
  simp [names]

end Declaration

end TemplateDeps
