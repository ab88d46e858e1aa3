import BlackHoleScene.Proofs.Stencil.Offset

/-!
# Every occurrence of a tag is found

Inside the written form of a tag no other tag begins, so cutting a text from the
left never cuts through a tag: wherever the written form of a tag occurs, the
text is cut there, and what stands before and after it is cut as if it stood
alone (`pieces_append_tag`).
-/

namespace BlackHoleScene
namespace Stencil

namespace Tag

/-- What follows the opening braces of a tag. -/
def body (tag : Tag) : List Char :=
  tag.role.sigil ++ (tag.key.characters ++ ['}', '}'])

theorem source_eq (tag : Tag) : tag.source = '{' :: '{' :: tag.body := rfl

/-- The written form of a tag is not empty. -/
theorem length_source_pos (tag : Tag) : 0 < tag.source.length := by
  simp [source]

/-- After its opening braces a tag holds no other opening brace. -/
theorem brace_not_mem_body (tag : Tag) : '{' ∉ tag.body := by
  have sigil : '{' ∉ tag.role.sigil := by
    rcases tag.role with _ | (_ | _) | _ <;> decide
  have key : '{' ∉ tag.key.characters := by
    intro member
    have identifier := tag.key.isKey_characters
    cases characters : tag.key.characters with
    | nil => simp [characters] at member
    | cons first rest =>
        simp only [characters, isKey, Bool.and_eq_true,
          List.all_eq_true] at identifier
        rw [characters] at member
        rcases List.mem_cons.1 member with isFirst | inRest
        · exact absurd (isFirst ▸ identifier.1) (by decide)
        · exact absurd (identifier.2 _ inRest) (by decide)
  simp [body, sigil, key]

/-- A tag has more to it than its opening braces. -/
theorem exists_body_eq_cons (tag : Tag) : ∃ c rest, tag.body = c :: rest := by
  apply List.exists_cons_of_ne_nil
  simp [body]

/-- No tag begins inside the written form of a tag. -/
theorem not_starts_inside
    {tag other : Tag}
    {before inside after rest : List Char}
    (cut : tag.source = before ++ inside)
    (later : before ≠ [])
    (nonempty : inside ≠ []) :
    other.source ++ rest ≠ inside ++ after := by
  intro begun
  obtain ⟨first, before, rfl⟩ := List.exists_cons_of_ne_nil later
  obtain ⟨c, inside, rfl⟩ := List.exists_cons_of_ne_nil nonempty
  obtain ⟨rfl, second⟩ :
      '{' = c ∧ '{' :: (other.body ++ rest) = inside ++ after := by
    simpa [source_eq] using begun
  rw [source_eq, List.cons_append, List.cons.injEq] at cut
  apply tag.brace_not_mem_body
  cases before with
  | nil =>
      obtain ⟨c, body, isBody⟩ := tag.exists_body_eq_cons
      obtain ⟨_, rfl⟩ : '{' = '{' ∧ tag.body = inside := by
        simpa using cut.2
      rw [isBody, List.cons_append, List.cons.injEq] at second
      rw [isBody, second.1]
      exact List.mem_cons_self
  | cons brace before =>
      obtain ⟨_, isBody⟩ :
          '{' = brace ∧ tag.body = before ++ '{' :: inside := by
        simpa using cut.2
      rw [isBody]
      exact List.mem_append_right before List.mem_cons_self

/-- A tag that begins somewhere after a tag begins after its written form. -/
theorem exists_eq_source_append
    {tag other : Tag}
    {before after rest : List Char}
    (starts : before ++ (other.source ++ rest) = tag.source ++ after)
    (later : before ≠ []) :
    ∃ between,
      before = tag.source ++ between ∧
        after = between ++ (other.source ++ rest) := by
  rcases List.append_eq_append_iff.1 starts with ⟨inside, cut, begun⟩ |
    ⟨between, cut, left⟩
  · by_cases empty : inside = []
    · subst empty
      exact ⟨[], by simpa using cut.symm, by simpa using begun.symm⟩
    · exact absurd begun (not_starts_inside cut later empty)
  · exact ⟨between, cut, left⟩

/-- Text in front of a tag starts with no tag if it does not do so alone. -/
theorem read?_append_source_eq_none
    {before : List Char}
    (nonempty : before ≠ [])
    (unread : read? before = none)
    (other : Tag)
    (rest : List Char) :
    read? (before ++ (other.source ++ rest)) = none := by
  cases found : read? (before ++ (other.source ++ rest)) with
  | none => rfl
  | some result =>
      obtain ⟨tag, after⟩ := result
      obtain ⟨between, begins, _⟩ :=
        exists_eq_source_append (eq_append_of_read? found) nonempty
      cases unread.symm.trans (read?_eq_some_iff.2 begins)

end Tag

namespace Piece

/-- Plain text joins a gap, and no tag. -/
theorem consPlain_append_mark
    (c : Char)
    (before after : List Piece)
    (tag : Tag) :
    consPlain c (before ++ .mark tag :: after) =
      consPlain c before ++ .mark tag :: after := by
  cases before with
  | nil => rfl
  | cons piece rest => cases piece <;> rfl

end Piece

@[simp] theorem pieces_nil : pieces [] = [] := by
  rw [pieces]
  rfl

/-- A text that starts with a tag is cut after it. -/
theorem pieces_source_append
    (tag : Tag)
    (after : List Char) :
    pieces (tag.source ++ after) = .mark tag :: pieces after := by
  have read : Tag.read? (tag.source ++ after) = some (tag, after) :=
    Tag.read?_eq_some_iff.2 rfl
  rw [pieces]
  split
  · next found =>
      cases found.symm.trans read
      rfl
  · next unread => cases unread.symm.trans read

/-- A text that starts with no tag starts with plain text. -/
theorem pieces_cons_of_read?_eq_none
    {c : Char}
    {rest : List Char}
    (unread : Tag.read? (c :: rest) = none) :
    pieces (c :: rest) = Piece.consPlain c (pieces rest) := by
  rw [pieces]
  split
  · next found => cases found.symm.trans unread
  · rfl

/-- No piece of a text is empty. -/
theorem source_ne_nil_of_mem_pieces
    {text : List Char}
    {piece : Piece}
    (member : piece ∈ pieces text) :
    piece.source ≠ [] := by
  induction text using pieces.induct with
  | case1 text tag rest found ih =>
      rw [Tag.eq_append_of_read? found, pieces_source_append] at member
      rcases List.mem_cons.1 member with rfl | later
      · exact List.cons_ne_nil _ _
      · exact ih later
  | case2 unread => simp at member
  | case3 c rest unread ih =>
      rw [pieces_cons_of_read?_eq_none unread] at member
      unfold Piece.consPlain at member
      split at member
      · next characters others cut =>
          rcases List.mem_cons.1 member with rfl | later
          · exact List.cons_ne_nil c characters
          · exact ih (cut ▸ List.mem_cons_of_mem _ later)
      · rcases List.mem_cons.1 member with rfl | later
        · exact List.cons_ne_nil c []
        · exact ih later

/-- A text is cut at every tag in it, and what stands before and after the tag
is cut as if it stood alone. -/
theorem pieces_append_tag
    (before : List Char)
    (tag : Tag)
    (after : List Char) :
    pieces (before ++ (tag.source ++ after)) =
      pieces before ++ .mark tag :: pieces after := by
  induction before using pieces.induct with
  | case1 before first rest found ih =>
      rw [Tag.eq_append_of_read? found, List.append_assoc, pieces_source_append,
        pieces_source_append, ih, List.cons_append]
  | case2 unread => simp [pieces_source_append]
  | case3 c rest unread ih =>
      have apart : Tag.read? (c :: (rest ++ (tag.source ++ after))) = none :=
        Tag.read?_append_source_eq_none
          (List.cons_ne_nil c rest) unread tag after
      rw [List.cons_append, pieces_cons_of_read?_eq_none apart,
        pieces_cons_of_read?_eq_none unread, ih, Piece.consPlain_append_mark]

/-- Where the written form of a tag occurs in a text, the tag is one of its
pieces. -/
theorem mem_locateAll_of_occurs
    {text before after : List Char}
    {tag : Tag}
    (occurs : text = before ++ (tag.source ++ after)) :
    ⟨before.length, .mark tag⟩ ∈ Piece.locateAll 0 (pieces text) := by
  rw [occurs, pieces_append_tag, Piece.locateAll_append, flatMap_source_pieces]
  simp

end Stencil
end BlackHoleScene
