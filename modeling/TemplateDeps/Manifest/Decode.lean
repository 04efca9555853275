import TemplateDeps.Manifest.Basic
import TemplateDeps.Toml.Document

/-!
# Manifests as TOML documents

A manifest file is a TOML document with a table `config` and a table `template` of entries. Each record
of the manifest is written as a table of its fields, or as an array of them in a fixed order. Fields
that are left out have a default, except for the targets of an include and the target of an import.
Keys that the manifest does not know are passed over, but the numbers in them have to fit. What an array
has beyond the fields is not looked at. A date in the place of a record counts as a record without
fields.

The list of field names given to `fields?` is the order of the fields in an array.
-/

namespace TemplateDeps

open Toml (Value Entries)

namespace Decode

/-! ## Parts -/

/-- The value of each of the named fields of a record. -/
def fields? (names : List String) : Value → Option (List (Option Value))
  | .table _ entries =>
    let known := fun e : String × Value => names.contains e.1
    if Toml.entriesFit (entries.filter (!known ·)) then
      some (names.map (Toml.lookup · entries))
    else none
  | .array _ elements => some (names.zipIdx.map fun (_, i) => elements[i]?)
  | .datetime _ => some (names.map fun _ => none)
  | _ => none

/-- A field that may be left out. -/
def withDefault {α : Type} (default : α) (decode : Value → Option α) : Option Value → Option α
  | none => some default
  | some v => decode v

/-- A field that may be absent. -/
def absentOr {α : Type} (decode : Value → Option α) : Option Value → Option (Option α)
  | none => some none
  | some v => some <$> decode v

/-- A string. -/
def string? : Value → Option String
  | .string s => some s
  | _ => none

/-- A truth value. -/
def boolean? : Value → Option Bool
  | .boolean b => some b
  | _ => none

/-- An array. -/
def array? {α : Type} (decode : Value → Option α) : Value → Option (List α)
  | .array _ elements => elements.mapM decode
  | _ => none

/-- A mode by its word. -/
def modeOfWord? (word : String) : Option RenderMode :=
  [RenderMode.sync, .concurrent].find? (·.word = word)

/-- Whether the value is an array or a table with nothing in it. -/
def isEmpty : Value → Bool
  | .array _ [] => true
  | .table _ [] => true
  | _ => false

/-- A mode: its word, or a table in which the word is the only key and has nothing as its value. -/
def mode? : Value → Option RenderMode
  | .string word => modeOfWord? word
  | .table _ [(word, v)] => if isEmpty v then modeOfWord? word else none
  | _ => none

/-! ## Records -/

/-- The settings. -/
def settings? (v : Value) : Option Settings := do
  match ← fields? ["watch_concurrent_renders", "render_mode"] v with
  | [watch, mode] => do
    let watchConcurrent ← withDefault Settings.default.watchConcurrent boolean? watch
    let mode ← withDefault Settings.default.mode mode? mode
    some { watchConcurrent, mode }
  | _ => none

/-- An include. The context is passed unless that is denied. -/
def include? (v : Value) : Option IncludeSpec := do
  match ← fields? ["targets", "with_context", "ignore_missing"] v with
  | [targets, withContext, ignoreMissing] => do
    let targets ← array? string? (← targets)
    let withContext ← withDefault true boolean? withContext
    let ignoreMissing ← withDefault false boolean? ignoreMissing
    some { targets, withContext, ignoreMissing }
  | _ => none

/-- An import. The context is not passed unless that is asked for. -/
def import? (v : Value) : Option ImportSpec := do
  match ← fields? ["target", "as", "names", "with_context"] v with
  | [target, boundAs, members, withContext] => do
    let target ← string? (← target)
    let boundAs ← absentOr string? boundAs
    let members ← absentOr (array? string?) members
    let withContext ← withDefault false boolean? withContext
    some { target, boundAs, members, withContext }
  | _ => none

/-- An entry. -/
def entry? (v : Value) : Option Entry := do
  match ← fields? ["file", "extends", "include", "import"] v with
  | [file, parent, includes, imports] => do
    let file ← absentOr string? file
    let parent ← absentOr string? parent
    let includes ← withDefault [] (array? include?) includes
    let imports ← withDefault [] (array? import?) imports
    some { file, parent, includes, imports }
  | _ => none

/-- Entries by name. -/
def templates? : Value → Option (NameMap Entry)
  | .table _ entries =>
    .ofList <$> entries.mapM fun (name, v) => (name, ·) <$> entry? v
  | _ => none

/-- A manifest. -/
def manifest? (root : Entries) : Option RawManifest := do
  match ← fields? ["config", "template"] (.table .header root) with
  | [settings, templates] => do
    let settings ← withDefault Settings.default settings? settings
    let templates ← withDefault .empty templates? templates
    some { settings, templates }
  | _ => none

end Decode

namespace RawManifest

/-- The description in a TOML document. -/
def ofToml (s : String) : Except Fault RawManifest :=
  match Toml.parse? s >>= Decode.manifest? with
  | some raw => .ok raw
  | none => .error .malformedDocument

/-- The description in the content of a file, which has to be text. -/
def ofBytes (content : ByteArray) : Except Fault RawManifest :=
  match String.fromUTF8? content with
  | some s => ofToml s
  | none => .error (.unreadable .notText)

end RawManifest

end TemplateDeps
