import BlackHoleScene.Proofs.Stencil.ReadBack

/-!
# Tags found by scanning

Cutting a text from the left finds everything in it that has the form of a tag.
No two of these overlap, whatever braces stand around them, so none is skipped
and none is cut through. Between the tags are gaps that hold no tag, and there
is no other way to cut the text like this: `scanned_pieces`.
-/

namespace BlackHoleScene
namespace Stencil

/-! ### The form of a tag -/

/-- The characters are a key between double braces, with at most one sigil in
front of the key. -/
def HasTagForm (characters : List Char) : Prop :=
  ∃ sigil ∈ [[], ['#'], ['^'], ['/']], ∃ key : List Char,
    isKey key = true ∧ characters = ['{', '{'] ++ sigil ++ key ++ ['}', '}']

theorem Role.exists_sigil_eq_iff {sigil : List Char} :
    (∃ role : Role, role.sigil = sigil) ↔
      sigil ∈ [[], ['#'], ['^'], ['/']] := by
  constructor
  · rintro ⟨role, rfl⟩
    rcases role with _ | (_ | _) | _ <;> simp [sigil]
  · simp only [List.mem_cons, List.not_mem_nil, or_false]
    rintro (rfl | rfl | rfl | rfl)
    · exact ⟨.value, rfl⟩
    · exact ⟨.opener false, rfl⟩
    · exact ⟨.opener true, rfl⟩
    · exact ⟨.closer, rfl⟩

/-- What has the form of a tag is the written form of one. -/
theorem hasTagForm_iff {characters : List Char} :
    HasTagForm characters ↔ ∃ tag : Tag, tag.source = characters := by
  constructor
  · rintro ⟨sigil, marks, key, identifier, rfl⟩
    obtain ⟨role, rfl⟩ := Role.exists_sigil_eq_iff.2 marks
    exact ⟨⟨role, key, identifier⟩, by simp [Tag.source]⟩
  · rintro ⟨⟨role, key, identifier⟩, rfl⟩
    exact ⟨role.sigil, Role.exists_sigil_eq_iff.1 ⟨role, rfl⟩, key,
      identifier,
      by simp [Tag.source]⟩

theorem tagless_iff {characters : List Char} :
    Tagless characters ↔
      ∀ word, HasTagForm word → ¬word <:+: characters := by
  simp [Tagless, hasTagForm_iff]

/-! ### Where tags stand -/

/-- The tags of a text are its marks, where they stand. -/
theorem mem_locateAll_pieces_iff
    {text : List Char}
    {offset : Nat}
    {tag : Tag} :
    ⟨offset, .mark tag⟩ ∈ Piece.locateAll 0 (pieces text) ↔
      StandsAt offset tag.source 0 text := by
  constructor
  · intro member
    have stands := Piece.standsAt_of_mem_locateAll member
    rwa [flatMap_source_pieces] at stands
  · rintro ⟨before, after, occurs, place⟩
    rw [place, Nat.zero_add]
    exact mem_locateAll_of_occurs occurs

/-- Two pieces in a row are the same, or one ends before the other begins. -/
theorem eq_or_apart_of_mem_locateAll
    {row : List Piece}
    {first second : Located Piece}
    (member : first ∈ Piece.locateAll 0 row)
    (memberToo : second ∈ Piece.locateAll 0 row) :
    first = second ∨
      first.offset + first.item.source.length ≤ second.offset ∨
      second.offset + second.item.source.length ≤ first.offset := by
  have ordered := List.pairwise_iff_getElem.1 (Piece.pairwise_locateAll 0 row)
  obtain ⟨i, inRow, rfl⟩ := List.getElem_of_mem member
  obtain ⟨j, inRowToo, rfl⟩ := List.getElem_of_mem memberToo
  rcases Nat.lt_trichotomy i j with before | rfl | after
  · exact .inr (.inl (ordered i j inRow inRowToo before))
  · exact .inl rfl
  · exact .inr (.inr (ordered j i inRowToo inRow after))

/-- Two tags in a text are the same, or one ends before the other begins. -/
theorem eq_or_apart_of_standsAt
    {text : List Char}
    {first second : Tag}
    {offset offsetToo : Nat}
    (stands : StandsAt offset first.source 0 text)
    (standsToo : StandsAt offsetToo second.source 0 text) :
    (offset = offsetToo ∧ first = second) ∨
      offset + first.source.length ≤ offsetToo ∨
        offsetToo + second.source.length ≤ offset := by
  have member := mem_locateAll_pieces_iff.2 stands
  have memberToo := mem_locateAll_pieces_iff.2 standsToo
  simpa [Piece.source] using eq_or_apart_of_mem_locateAll member memberToo

/-! ### Cuts of a text -/

/-- One of two pieces is a tag. -/
def Piece.Apart (first second : Piece) : Prop :=
  (∃ tag, first = .mark tag) ∨ ∃ tag, second = .mark tag

/-- Next to a gap there is a tag. -/
theorem Piece.Apart.exists_eq_mark
    {characters : List Char}
    {next : Piece}
    (apart : (gap characters).Apart next) :
    ∃ tag, next = .mark tag := by
  rcases apart with ⟨tag, same⟩ | marked
  · cases same
  · exact marked

/-- The pieces are a text, cut into tags and into gaps that are not empty, hold
no tag and do not follow each other. -/
structure Cut (text : List Char) (row : List Piece) : Prop where
  lossless : row.flatMap Piece.source = text
  nonempty : ∀ characters, .gap characters ∈ row → characters ≠ []
  tagless :
    ∀ characters,
      .gap characters ∈ row → ∀ word, HasTagForm word →
        ¬word <:+: characters
  apart : row.IsChain Piece.Apart

/-- A gap of a text holds no tag, since it would be found there. -/
theorem tagless_of_gap_mem_pieces
    {text characters : List Char}
    (member : .gap characters ∈ pieces text) :
    Tagless characters := by
  rintro tag ⟨earlier, later, rfl⟩
  obtain ⟨before, after, cut⟩ := List.append_of_mem member
  let begins := (before.flatMap Piece.source).length
  have gap :
      ⟨begins, .gap (earlier ++ tag.source ++ later)⟩ ∈
        Piece.locateAll 0 (pieces text) := by
    rw [cut, Piece.locateAll_append, Nat.zero_add]
    exact List.mem_append_right _ List.mem_cons_self
  have whole := flatMap_source_pieces text
  rw [cut, List.flatMap_append, List.flatMap_cons] at whole
  have stands : StandsAt (begins + earlier.length) tag.source 0 text :=
    ⟨before.flatMap Piece.source ++ earlier,
      later ++ after.flatMap Piece.source,
      by simp [← whole, Piece.source], by simp [begins]⟩
  have nonempty := tag.length_source_pos
  rcases eq_or_apart_of_mem_locateAll gap
    (mem_locateAll_pieces_iff.2 stands) with
    same | apart | apart
  · cases congrArg Located.item same
  · simp only [Piece.source, List.length_append] at apart
    omega
  · simp only [Piece.source] at apart
    omega

/-- Plain text in front of pieces does not bring two gaps together. -/
theorem Piece.isChain_consPlain
    {row : List Piece}
    (apart : row.IsChain Apart)
    (c : Char) :
    (consPlain c row).IsChain Apart := by
  cases row with
  | nil => exact .singleton _
  | cons piece rest =>
      cases piece with
      | gap characters =>
          obtain ⟨next, later⟩ := List.isChain_cons.1 apart
          exact List.isChain_cons.2
            ⟨fun second follows => .inr (next second follows).exists_eq_mark,
              later⟩
      | mark tag =>
          exact List.isChain_cons_cons.2 ⟨.inr ⟨tag, rfl⟩, apart⟩

/-- Scanning a text cuts it. -/
theorem cut_pieces (text : List Char) : Cut text (pieces text) where
  lossless := flatMap_source_pieces text
  nonempty := fun _ member => source_ne_nil_of_mem_pieces member
  tagless := fun _ member => tagless_iff.1 (tagless_of_gap_mem_pieces member)
  apart := by
    induction text using pieces.induct with
    | case1 text tag rest found ih =>
        rw [Tag.eq_append_of_read? found, pieces_source_append]
        exact List.isChain_cons.2 ⟨fun _ _ => .inl ⟨tag, rfl⟩, ih⟩
    | case2 => simp
    | case3 c rest unread ih =>
        rw [pieces_cons_of_read?_eq_none unread]
        exact Piece.isChain_consPlain ih c

/-- There is no other way to cut a text. -/
theorem Cut.eq_pieces
    {text : List Char}
    {row : List Piece}
    (cut : Cut text row) :
    row = pieces text := by
  obtain ⟨lossless, nonempty, tagless, apart⟩ := cut
  subst lossless
  induction row with
  | nil => simp
  | cons piece rest ih =>
      have later : rest = pieces (rest.flatMap Piece.source) :=
        ih (fun _ member => nonempty _ (List.mem_cons_of_mem _ member))
          (fun _ member => tagless _ (List.mem_cons_of_mem _ member))
          (List.isChain_cons.1 apart).2
      cases piece with
      | mark tag =>
          rw [List.flatMap_cons, Piece.source, pieces_source_append, ← later]
      | gap characters =>
          have alone : pieces characters = [.gap characters] :=
            pieces_of_tagless (nonempty _ List.mem_cons_self)
              (tagless_iff.2 (tagless _ List.mem_cons_self))
          cases rest with
          | nil => simp [Piece.source, alone]
          | cons next more =>
              obtain ⟨tag, rfl⟩ :=
                (List.isChain_cons_cons.1 apart).1.exists_eq_mark
              rw [List.flatMap_cons, List.flatMap_cons, Piece.source,
                Piece.source, pieces_append_tag, alone,
                ← pieces_source_append]
              rw [List.flatMap_cons, Piece.source] at later
              rw [← later]
              rfl

/-! ### Everything is found -/

/-- A text is cut at exactly what has the form of a tag in it. -/
structure Scanned (text : List Char) (row : List Piece) : Prop where
  cut : Cut text row
  unique : ∀ other, Cut text other → other = row
  /-- What has the form of a tag is a mark where it stands, and every mark
  stands there. -/
  found :
    ∀ offset word,
      StandsAt offset word 0 text ∧ HasTagForm word ↔
        ∃ tag,
          tag.source = word ∧
            ⟨offset, .mark tag⟩ ∈ Piece.locateAll 0 row
  /-- No two things of this form overlap. -/
  apart :
    ∀ first second : Located (List Char),
      StandsAt first.offset first.item 0 text → HasTagForm first.item →
        StandsAt second.offset second.item 0 text → HasTagForm second.item →
          first = second ∨
            first.offset + first.item.length ≤ second.offset ∨
            second.offset + second.item.length ≤ first.offset

/-- Scanning a text finds every tag. -/
theorem scanned_pieces (text : List Char) : Scanned text (pieces text) where
  cut := cut_pieces text
  unique := fun _ cut => cut.eq_pieces
  found := by
    intro offset word
    rw [hasTagForm_iff]
    constructor
    · rintro ⟨stands, tag, rfl⟩
      exact ⟨tag, rfl, mem_locateAll_pieces_iff.2 stands⟩
    · rintro ⟨tag, rfl, member⟩
      exact ⟨mem_locateAll_pieces_iff.1 member, tag, rfl⟩
  apart := by
    rintro ⟨offset, first⟩ ⟨offsetToo, second⟩ stands form standsToo
      formToo
    obtain ⟨tag, rfl⟩ := hasTagForm_iff.1 form
    obtain ⟨tagToo, rfl⟩ := hasTagForm_iff.1 formToo
    refine (eq_or_apart_of_standsAt stands standsToo).imp_left ?_
    rintro ⟨rfl, rfl⟩
    rfl

/-- A brace in front of a tag belongs to the gap, and so does one behind it. -/
example :
    pieces ['{', '{', '{', '^', 'x', '}', '}', '}'] =
      [.gap ['{'], .mark ⟨.opener true, ⟨['x'], rfl⟩⟩, .gap ['}']] := by
  cbv

end Stencil
end BlackHoleScene
