import TemplateDeps.Text.Blank
import TemplateDeps.Text.Lowercase

/-!
# Render modes

Renders run one at a time, or several at once. Resolutions of renders that overlap cannot be told apart
inside one watch, so the mode decides whether they are recorded. A mode is written in any case and with
blanks around it; `async` is another word for the concurrent mode.
-/

namespace TemplateDeps

/-- Whether renders may overlap. -/
inductive RenderMode
  /-- One render at a time. -/
  | sync
  /-- Several renders at once. -/
  | concurrent
  deriving DecidableEq, Repr, Inhabited

namespace RenderMode

/-- The word for a mode. -/
def word : RenderMode → String
  | sync => "sync"
  | concurrent => "concurrent"

/-- A text that names no mode. -/
structure Unknown where
  /-- The text as it was compared: without blanks around it and in lower case. -/
  text : String
  deriving DecidableEq, Repr

/-- What is said about a text that names no mode. -/
def Unknown.message (u : Unknown) : String :=
  s!"invalid render_mode: {u.text} (expected \"sync\" or \"concurrent\")"

/-- Read a mode. -/
def parse (raw : String) : Except Unknown RenderMode :=
  match Text.lowercase (Text.trim raw) with
  | "sync" => .ok sync
  | "concurrent" => .ok concurrent
  | "async" => .ok concurrent
  | other => .error ⟨other⟩

end RenderMode

end TemplateDeps
