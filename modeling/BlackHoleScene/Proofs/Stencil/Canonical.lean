import BlackHoleScene.Proofs.Stencil.Spelling

/-!
# The canonical form of a text

The nodes of a text are a lossless and tidy account of it: written one after the
other they are the text, every node stands where it is located, between tags
that the scan of the text found there under its own key, and no text holds a
value tag (`canonical_nodesOf`).
-/

namespace BlackHoleScene
namespace Stencil

/-- Scanning the text finds the tag at the offset and takes the characters for
it. -/
structure FoundAt
    (offset : Nat)
    (tag : Tag)
    (matched text : List Char) : Prop where
  scanned : ⟨offset, .mark tag⟩ ∈ Piece.locateAll 0 (pieces text)
  taken :
    ∃ after,
      text.drop offset = matched ++ after ∧
        Tag.read? (text.drop offset) = some (tag, after)

/-- A tag is found where its written form stands. -/
theorem StandsAt.foundAt
    {offset : Nat}
    {tag : Tag}
    {text : List Char}
    (stands : StandsAt offset tag.source 0 text) :
    FoundAt offset tag tag.source text := by
  obtain ⟨before, after, occurs, place⟩ := stands
  rw [Nat.zero_add] at place
  have rest : text.drop offset = tag.source ++ after := by
    rw [occurs, place, List.drop_left]
  exact
    { scanned := place ▸ mem_locateAll_of_occurs occurs
      taken := ⟨after, rest, Tag.read?_eq_some_iff.2 rest⟩ }

/-- The tags found around the node have its key between double braces. A section
opens with the sigil of its kind. -/
def Located.MarkedByKey (text : List Char) : Located Node → Prop
  | ⟨_, .text _⟩ => True
  | ⟨offset, .value key⟩ =>
      FoundAt offset ⟨.value, key⟩
        (['{', '{'] ++ key.characters ++ ['}', '}']) text
  | ⟨offset, .block key inverted children⟩ =>
      let opener :=
        ['{', '{', if inverted then '^' else '#'] ++ key.characters ++
          ['}', '}']
      let inside := Node.sourceAll children
      FoundAt offset ⟨.opener inverted, key⟩ opener text ∧
        FoundAt (offset + opener.length + inside.length) ⟨.closer, key⟩
          (['{', '{', '/'] ++ key.characters ++ ['}', '}']) text

/-- Where a node stands, its tags are found. -/
theorem StandsAt.markedByKey
    {text : List Char}
    {located : Located Node}
    (stands : StandsAt located.offset located.item.source 0 text) :
    located.MarkedByKey text := by
  obtain ⟨offset, node⟩ := located
  cases node with
  | text characters => trivial
  | value key => exact stands.foundAt
  | block key inverted children =>
      have opener := stands.left.left.foundAt
      have closer := stands.right.foundAt
      rw [List.length_append, ← Nat.add_assoc] at closer
      cases inverted
      · exact ⟨opener, closer⟩
      · exact ⟨opener, closer⟩

namespace Node

/-- The nodes are a lossless and tidy account of a text. -/
structure Canonical (text : List Char) (nodes : List Node) : Prop where
  /-- Written one after the other, the nodes are the text. -/
  lossless : sourceAll nodes = text
  /-- No text of a row is empty or next to another one. -/
  tidy : TidyRow nodes
  /-- Every node stands in the text where it is located, between tags that are
  found there under its own key. -/
  marked :
    ∀ located ∈ locateAll 0 nodes,
      StandsAt located.offset located.item.source 0 text ∧
        located.MarkedByKey text
  /-- No text holds a value tag. -/
  plain :
    ∀ offset characters,
      ⟨offset, .text characters⟩ ∈ locateAll 0 nodes →
      ∀ key, ¬(Tag.mk .value key).source <:+: characters

end Node

/-- Written one after the other, the nodes of a text are the text. -/
theorem sourceAll_nodesOf (text : List Char) :
    Node.sourceAll (nodesOf text) = text := by
  rw [(spells_nodesOf text).sourceAll_eq, flatMap_source_pieces]

/-- Every node of a text stands where it is located. -/
theorem standsAt_of_mem_nodesOf
    {text : List Char}
    {located : Located Node}
    (member : located ∈ Node.locateAll 0 (nodesOf text)) :
    StandsAt located.offset located.item.source 0 text := by
  have stands := Node.standsAt_of_mem_locateAll member
  rwa [sourceAll_nodesOf] at stands

/-- A text among the nodes of a text holds no value tag. -/
theorem not_isInfix_of_mem_nodesOf
    {text characters : List Char}
    {offset : Nat}
    (member :
      ⟨offset, .text characters⟩ ∈ Node.locateAll 0 (nodesOf text))
    (key : Key) :
    ¬(Tag.mk .value key).source <:+: characters := by
  rintro ⟨earlier, later, rfl⟩
  obtain ⟨before, after, written, place⟩ := standsAt_of_mem_nodesOf member
  have occurs :
      text =
        (before ++ earlier) ++
          ((Tag.mk .value key).source ++ (later ++ after)) := by
    simpa using written
  obtain ⟨node, located, shows⟩ :=
    (spells_nodesOf text).exists_shows (mem_locateAll_of_occurs occurs)
  have different :
      node ≠
        ⟨offset,
          .text (earlier ++ (Tag.mk .value key).source ++ later)⟩ := by
    rintro rfl
    exact shows.1 key rfl
  have outside := shows.before_or_after_text located member different
  have length := (Tag.mk .value key).length_source_pos
  simp only [Piece.source, List.length_append] at outside place
  omega

/-- The nodes of a text are its canonical form. -/
theorem canonical_nodesOf (text : List Char) :
    Node.Canonical text (nodesOf text) where
  lossless := sourceAll_nodesOf text
  tidy := Node.tidyRow_nodesOf text
  marked := by
    intro located member
    have stands := standsAt_of_mem_nodesOf member
    exact ⟨stands, stands.markedByKey⟩
  plain := fun _ _ member key => not_isInfix_of_mem_nodesOf member key

end Stencil
end BlackHoleScene
