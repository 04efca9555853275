import TemplateDeps.Text.Quoted
import TemplateDeps.Text.Utf8

/-!
# Paths of files

To the system the path of a file is a sequence of bytes. Most paths are texts in UTF-8, and those that a
manifest gives always are (`FilePath.ofString`), but engines that load templates by themselves can meet others.

A path is shown as the text that its bytes are read as, with a replacement character for each broken piece.
So what is shown of a path that is a text is this text (`FilePath.display_ofString`), and different paths that
are no texts may be shown alike. Quoted, a path shows the broken bytes themselves.
-/

namespace TemplateDeps

open Text (Piece pieces escapeChar)

/-- The path of a file. -/
structure FilePath where
  bytes : List UInt8
  deriving DecidableEq, Repr

namespace FilePath

/-- The path that is given as a text. -/
def ofString (s : String) : FilePath :=
  ⟨Text.bytes s⟩

/-- What stands for a piece where a path is shown. -/
def shownChar : Piece → Char
  | .char c => c
  | .broken .. => '\uFFFD'

/-- The path as it is shown. -/
def display (p : FilePath) : String :=
  String.ofList ((pieces p.bytes).map shownChar)

/-- The number of a byte, in two upper-case hexadecimal digits. -/
def escapeByte (b : UInt8) : List Char :=
  ['\\', 'x', (b.toNat / 16).digitChar.toUpper, (b.toNat % 16).digitChar.toUpper]

/-- What stands for a piece between quotes. -/
def escapePiece : Piece → List Char
  | .char c => escapeChar c
  | .broken first others => (first :: others).flatMap escapeByte

/-- The path between double quotes. -/
def quote (p : FilePath) : String :=
  String.ofList ('"' :: (pieces p.bytes).flatMap escapePiece ++ ['"'])

/-! Where a path is expected, a text stands for the path that it gives, and where a text is expected, a path
stands for the text that is shown of it; so do they where there are several or may be none. -/

instance : Coe String FilePath := ⟨ofString⟩

instance {f : Type → Type} [Functor f] : Coe (f String) (f FilePath) := ⟨Functor.map ofString⟩

instance {f : Type → Type} [Functor f] : Coe (f FilePath) (f String) := ⟨Functor.map display⟩

/-- A path that is a text is shown as this text. -/
@[simp] theorem display_ofString (s : String) : (ofString s).display = s := by
  rw [display, ofString, Text.pieces_bytes, List.map_map]
  exact (congrArg String.ofList (List.map_id _)).trans String.ofList_toList

/-- It is quoted as this text, too. -/
@[simp] theorem quote_ofString (s : String) : (ofString s).quote = Text.quote s := by
  rw [quote, ofString, Text.pieces_bytes, List.flatMap_map]
  rfl

/-- The path is a text. -/
def IsText (p : FilePath) : Prop :=
  ∃ s, p = ofString s

/-- It is the one that is shown, then. -/
theorem isText_iff {p : FilePath} : p.IsText ↔ ofString p.display = p := by
  constructor
  · rintro ⟨s, rfl⟩
    rw [display_ofString]
  · exact fun h => ⟨p.display, h.symm⟩

instance (p : FilePath) : Decidable p.IsText :=
  decidable_of_iff _ isText_iff.symm

/-- What is shown of a path has a line break in it only if the path has one. -/
theorem newline_mem_of_mem_display {p : FilePath} (h : '\n' ∈ p.display.toList) : 0x0a ∈ p.bytes := by
  rw [display, String.toList_ofList] at h
  obtain ⟨piece, hpiece, hshown⟩ := List.mem_map.1 h
  rw [← Text.flatMap_bytes_pieces p.bytes]
  refine List.mem_flatMap.2 ⟨piece, hpiece, ?_⟩
  cases piece with
  | char c =>
    obtain rfl : c = '\n' := hshown
    decide
  | broken first others =>
    have hreplaced : '\uFFFD' = '\n' := hshown
    exact absurd hreplaced (by decide)

/-- No character can be read from a path of one high byte, whichever byte it is. -/
example : (⟨[0xff]⟩ : FilePath).display = "\uFFFD" ∧ (⟨[0xfe]⟩ : FilePath).display = "\uFFFD" ∧
    (⟨[0xff]⟩ : FilePath).quote = "\"\\xFF\"" := by
  decide

end FilePath

end TemplateDeps
