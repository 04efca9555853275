/-!
# Bytes read as text

The bytes of a text are those of its characters in UTF-8, one character after the other (`bytes`). Other bytes
come from no text. Read from the front, they fall into `pieces`: the characters that can be read, and broken
pieces in between. A byte that begins no character is broken by itself. A byte that begins one but is not
followed by all the bytes of it is broken together with those that are there, so that a character which was
cut off leaves one broken piece.

Nothing is lost: the pieces put together are the bytes again (`flatMap_bytes_pieces`), and the pieces of a text
are its characters (`pieces_bytes`).
-/

namespace TemplateDeps.Text

/-- The bytes of a text in UTF-8. -/
def bytes (s : String) : List UInt8 :=
  s.toList.flatMap String.utf8EncodeChar

/-! ## The first character -/

/-- The character that is read from the front of bytes. It has four bytes at most. -/
def firstChar? (bytes : List UInt8) : Option Char :=
  (bytes.take 4).toByteArray.utf8DecodeChar? 0

/-- A character is read when its bytes are in front. -/
theorem firstChar?_eq_some_iff {bytes : List UInt8} {c : Char} :
    firstChar? bytes = some c ↔ String.utf8EncodeChar c <+: bytes := by
  constructor
  · intro h
    obtain ⟨rest, hrest⟩ := ByteArray.exists_of_utf8DecodeChar?_eq_some h
    have hbytes : rest.data.toList.toByteArray = rest := by
      apply ByteArray.ext
      rw [List.data_toByteArray, Array.toArray_toList]
    have hprefix : String.utf8EncodeChar c <+: bytes.take 4 :=
      ⟨rest.data.toList, List.toByteArray_inj.1 (by rw [List.toByteArray_append, hbytes, hrest])⟩
    exact hprefix.trans (List.take_prefix 4 bytes)
  · rintro ⟨rest, rfl⟩
    have hlength : (String.utf8EncodeChar c).length ≤ 4 := by
      simpa using c.utf8Size_le_four
    rw [firstChar?, List.take_append, List.take_of_length_le hlength, List.toByteArray_append]
    exact ByteArray.utf8DecodeChar?_utf8EncodeChar_append

/-! ## Pieces -/

/-- A piece of a sequence of bytes. -/
inductive Piece
  /-- The bytes of a character. -/
  | char (c : Char)
  /-- Bytes from which no character can be read. -/
  | broken (first : UInt8) (others : List UInt8)
  deriving DecidableEq, Repr

/-- The bytes of a piece. -/
def Piece.bytes : Piece → List UInt8
  | char c => String.utf8EncodeChar c
  | broken first others => first :: others

/-- The bytes that a character may have behind its first one: the least and the greatest of each. There are
none for a byte that begins no character. -/
def followers (first : UInt8) : List (UInt8 × UInt8) :=
  if first < 0xc2 then []
  else if first ≤ 0xdf then [(0x80, 0xbf)]
  else if first ≤ 0xef then
    [(if first = 0xe0 then 0xa0 else 0x80, if first = 0xed then 0x9f else 0xbf), (0x80, 0xbf)]
  else if first ≤ 0xf4 then
    [(if first = 0xf0 then 0x90 else 0x80, if first = 0xf4 then 0x8f else 0xbf), (0x80, 0xbf), (0x80, 0xbf)]
  else []

/-- The bytes in front that lie within the bounds for them. -/
def takeWithin : List (UInt8 × UInt8) → List UInt8 → List UInt8
  | (low, high) :: bounds, b :: rest => if low ≤ b ∧ b ≤ high then b :: takeWithin bounds rest else []
  | _, _ => []

/-- The piece in front. -/
def firstPiece (first : UInt8) (rest : List UInt8) : Piece :=
  match firstChar? (first :: rest) with
  | some c => .char c
  | none => .broken first (takeWithin (followers first) rest)

/-- The pieces behind the first `skip` bytes. -/
def piecesAfter : (skip : Nat) → List UInt8 → List Piece
  | _, [] => []
  | skip + 1, _ :: rest => piecesAfter skip rest
  | 0, first :: rest =>
    let piece := firstPiece first rest
    piece :: piecesAfter (piece.bytes.length - 1) rest

/-- The pieces that bytes fall into. -/
def pieces (bytes : List UInt8) : List Piece :=
  piecesAfter 0 bytes

/-- What is taken was in front. -/
theorem takeWithin_prefix (bounds : List (UInt8 × UInt8)) (bytes : List UInt8) :
    takeWithin bounds bytes <+: bytes := by
  induction bytes generalizing bounds with
  | nil => cases bounds <;> exact List.prefix_refl []
  | cons b rest ih =>
    cases bounds with
    | nil => exact List.nil_prefix
    | cons bound bounds =>
      rw [takeWithin]
      split
      · exact List.cons_prefix_cons.2 ⟨rfl, ih bounds⟩
      · exact List.nil_prefix

/-- The piece in front is followed by the other bytes. -/
theorem bytes_firstPiece_append (first : UInt8) (rest : List UInt8) :
    (firstPiece first rest).bytes ++ rest.drop ((firstPiece first rest).bytes.length - 1) = first :: rest := by
  have hbytes : (firstPiece first rest).bytes ≠ [] ∧ (firstPiece first rest).bytes <+: first :: rest := by
    unfold firstPiece
    cases hfirst : firstChar? (first :: rest) with
    | some c => exact ⟨String.utf8EncodeChar_ne_nil, firstChar?_eq_some_iff.1 hfirst⟩
    | none => exact ⟨List.cons_ne_nil _ _, List.cons_prefix_cons.2 ⟨rfl, takeWithin_prefix _ rest⟩⟩
  obtain ⟨hne, others, hothers⟩ := hbytes
  obtain ⟨b, more, hcons⟩ := List.exists_cons_of_ne_nil hne
  rw [hcons] at hothers ⊢
  obtain ⟨rfl, rfl⟩ := List.cons.inj hothers
  simp

/-- Bytes can be skipped beforehand. -/
theorem piecesAfter_eq (skip : Nat) (bytes : List UInt8) :
    piecesAfter skip bytes = pieces (bytes.drop skip) := by
  induction bytes generalizing skip with
  | nil => cases skip <;> rfl
  | cons b rest ih =>
    cases skip with
    | zero => rfl
    | succ skip => exact ih skip

/-- The pieces of bytes, put together, are the bytes. -/
theorem flatMap_bytes_pieces (bytes : List UInt8) : (pieces bytes).flatMap Piece.bytes = bytes := by
  have hafter : ∀ skip, (piecesAfter skip bytes).flatMap Piece.bytes = bytes.drop skip := by
    induction bytes with
    | nil => intro skip; cases skip <;> rfl
    | cons b rest ih =>
      intro skip
      cases skip with
      | zero =>
        rw [piecesAfter, List.flatMap_cons, ih]
        exact bytes_firstPiece_append b rest
      | succ skip => exact ih skip
  exact hafter 0

/-- A character in front is the first piece. -/
theorem pieces_utf8EncodeChar_append (c : Char) (rest : List UInt8) :
    pieces (String.utf8EncodeChar c ++ rest) = .char c :: pieces rest := by
  have hfirst : firstChar? (String.utf8EncodeChar c ++ rest) = some c :=
    firstChar?_eq_some_iff.2 (List.prefix_append _ rest)
  obtain ⟨b, more, hbytes⟩ := List.exists_cons_of_ne_nil (String.utf8EncodeChar_ne_nil (c := c))
  rw [hbytes, List.cons_append] at hfirst
  have hpiece : firstPiece b (more ++ rest) = .char c := by
    rw [firstPiece, hfirst]
  rw [hbytes, pieces, List.cons_append, piecesAfter, hpiece, piecesAfter_eq, Piece.bytes, hbytes]
  simp

/-- The pieces of a text are its characters. -/
theorem pieces_bytes (s : String) : pieces (bytes s) = s.toList.map .char := by
  unfold bytes
  induction s.toList with
  | nil => rfl
  | cons c cs ih => rw [List.flatMap_cons, pieces_utf8EncodeChar_append, ih, List.map_cons]

/-- A character that was cut off is one piece, and what cannot begin one is a piece by itself. -/
example : pieces [0x61, 0xe2, 0x82, 0x62, 0xff, 0xfe] =
    [.char 'a', .broken 0xe2 [0x82], .char 'b', .broken 0xff [], .broken 0xfe []] := by
  decide

end TemplateDeps.Text
