import TemplateDeps.Fault
import TemplateDeps.FilePath
import TemplateDeps.Manifest.TargetRef
import TemplateDeps.NameMap
import TemplateDeps.RenderMode

/-!
# Manifests

A manifest describes a tree of templates by name: for each its file, the parent it extends, the
fragments it includes and the libraries it imports. `RawManifest` is any such description. The check
`RawManifest.validate` reports the first entry, in the order of names, that makes no sense, and
`Manifest` is a description that passes it.

Targets that name no template of the manifest are allowed: whether a name exists matters only when a
render gets there.
-/

namespace TemplateDeps

/-- One include of an entry. -/
structure IncludeSpec where
  /-- The candidates; a render takes the first that exists. -/
  targets : List String
  withContext : Bool
  ignoreMissing : Bool
  deriving DecidableEq, Repr

/-- One import of an entry. -/
structure ImportSpec where
  target : String
  /-- The name under which the whole library is bound. -/
  boundAs : Option String
  /-- The members that are bound. -/
  members : Option (List String)
  withContext : Bool
  deriving DecidableEq, Repr

/-- What a manifest says about one template. -/
structure Entry where
  file : Option FilePath
  /-- The parent it extends. -/
  parent : Option String
  includes : List IncludeSpec
  imports : List ImportSpec
  deriving DecidableEq, Repr

/-- An entry that says nothing. -/
def Entry.empty : Entry := ⟨none, none, [], []⟩

/-- How an engine treats the renders of a manifest. -/
structure Settings where
  watchConcurrent : Bool
  mode : RenderMode
  deriving DecidableEq, Repr

/-- The settings of a manifest that names none. -/
def Settings.default : Settings := ⟨false, .sync⟩

/-- A description of templates that was not checked. -/
structure RawManifest where
  settings : Settings
  templates : NameMap Entry
  deriving DecidableEq, Repr

/-! ## The check -/

/-- A target must name something. -/
def checkTarget (owner : String) (kind : Kind) (raw : String) : Except ManifestFault Unit :=
  match TargetRef.parse? raw with
  | some _ => .ok ()
  | none => .error (.emptyTarget owner kind raw)

/-- An include must list candidates, each of which names something. -/
def IncludeSpec.check (owner : String) (spec : IncludeSpec) : Except ManifestFault Unit :=
  if spec.targets.isEmpty then .error (.noCandidates owner)
  else spec.targets.forM (checkTarget owner .including)

/-- An import must have a target and bind exactly one of the library and a list of its members. -/
def ImportSpec.check (owner : String) (spec : ImportSpec) : Except ManifestFault Unit := do
  checkTarget owner .importing spec.target
  match spec.boundAs, spec.members with
  | some _, some _ => .error (.bothBindings owner spec.target)
  | none, none => .error (.noBinding owner spec.target)
  | none, some [] => .error (.noMembers owner spec.target)
  | _, _ => .ok ()

/-- The check of one entry: its name, its parent, its includes, its imports. -/
def Entry.check (name : String) (entry : Entry) : Except ManifestFault Unit := do
  if (Text.trim name).isEmpty then .error .blankName
  entry.parent.toList.forM (checkTarget name .extending)
  entry.includes.forM (IncludeSpec.check name)
  entry.imports.forM (ImportSpec.check name)

/-- The check of a whole description. -/
def RawManifest.validate (raw : RawManifest) : Except ManifestFault Unit :=
  if raw.templates.entries.isEmpty then .error .noTemplates
  else raw.templates.entries.forM fun (name, entry) => entry.check name

/-- A description of templates that makes sense. -/
structure Manifest where
  raw : RawManifest
  /-- It passes the check. -/
  valid : raw.validate = .ok ()

namespace Manifest

/-- Check a description. -/
def ofRaw (raw : RawManifest) : Except Fault Manifest :=
  match h : raw.validate with
  | .ok () => .ok ⟨raw, h⟩
  | .error cause => .error (.manifest cause)

/-- How renders are treated. -/
def settings (m : Manifest) : Settings := m.raw.settings

/-- The entry of a template. -/
def get? (m : Manifest) (name : String) : Option Entry := m.raw.templates.get? name

/-- Whether the manifest describes a template. -/
def contains (m : Manifest) (name : String) : Bool := m.raw.templates.contains name

/-- The names of the templates, in increasing order. -/
def names (m : Manifest) : List String := m.raw.templates.keys

/-- Checking succeeds exactly on what passes the check, and keeps it as it is. -/
theorem ofRaw_eq_ok_iff {raw : RawManifest} {m : Manifest} : ofRaw raw = .ok m ↔ m.raw = raw := by
  constructor
  · intro h
    unfold ofRaw at h
    split at h
    · cases h; rfl
    · cases h
  · rintro rfl
    unfold ofRaw
    split
    · rfl
    · next cause h => rw [m.valid] at h; cases h

end Manifest

end TemplateDeps
