import BlackHoleScene.Stencil.Tag

/-!
# Pieces

A text is cut, from the left, into tags and the gaps of plain text between them.
Nothing is lost by the cut: `flatMap_source_pieces`.
-/

namespace BlackHoleScene
namespace Stencil

/-- A tag, or a gap of plain text between tags. -/
inductive Piece
  | gap (characters : List Char)
  | mark (tag : Tag)
  deriving DecidableEq

namespace Piece

/-- The text of a piece. -/
def source : Piece → List Char
  | .gap characters => characters
  | .mark tag => tag.source

/-- Put a character of plain text in front of pieces, into the first gap if a
gap comes first. -/
def consPlain (c : Char) : List Piece → List Piece
  | .gap characters :: rest => .gap (c :: characters) :: rest
  | rest => .gap [c] :: rest

@[simp] theorem flatMap_source_consPlain
    (c : Char)
    (rest : List Piece) :
    (consPlain c rest).flatMap source = c :: rest.flatMap source := by
  unfold consPlain
  split <;> simp [source]

end Piece

/-- Cut a text into pieces: the tag that starts here, or else one more character
of the gap. -/
def pieces (text : List Char) : List Piece :=
  match _found : Tag.read? text with
  | some (tag, after) => .mark tag :: pieces after
  | none =>
      match text with
      | [] => []
      | c :: rest => Piece.consPlain c (pieces rest)
termination_by text.length
decreasing_by
  · exact Tag.length_lt_of_read? _found
  · simp

/-- The pieces of a text, one after the other, are the text. -/
theorem flatMap_source_pieces (text : List Char) :
    (pieces text).flatMap Piece.source = text := by
  fun_induction pieces text with
  | case1 text tag after found ih =>
      rw [Tag.eq_append_of_read? found]
      simp [Piece.source, ih]
  | case2 => rfl
  | case3 c rest found ih => simp [ih]

end Stencil
end BlackHoleScene
