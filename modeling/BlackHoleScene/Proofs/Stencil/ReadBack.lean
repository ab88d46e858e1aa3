import BlackHoleScene.Proofs.Stencil.Occurrence
import BlackHoleScene.Proofs.Stencil.Tidy
import BlackHoleScene.Stencil.Rendering

/-!
# Reading back what was written

The written form of a row of nodes is cut into exactly the tags that the nodes
were written with, if the row is tidy and no tag is written in its plain text;
braces may stand anywhere else in it. Read from these pieces, every section is
closed by its own closing tag, since all sections inside it are closed by then.
So the written form reads back as the row: `Node.nodesOf_sourceAll`.
-/

namespace BlackHoleScene
namespace Stencil

/-- No tag is written among the characters. -/
def Tagless (characters : List Char) : Prop :=
  ∀ tag : Tag, ¬tag.source <:+: characters

/-- No tag fits into three characters. -/
theorem tagless_of_length_lt
    {characters : List Char}
    (short : characters.length < 4) :
    Tagless characters := by
  intro tag occurs
  have fits := occurs.length_le
  simp only [Tag.source, List.length_cons, List.length_append,
    List.length_nil] at fits
  omega

/-- Characters without a tag are one gap. -/
theorem pieces_of_tagless
    {characters : List Char}
    (nonempty : characters ≠ [])
    (tagless : Tagless characters) :
    pieces characters = [.gap characters] := by
  induction characters with
  | nil => exact absurd rfl nonempty
  | cons c rest ih =>
      have unread : Tag.read? (c :: rest) = none := by
        cases found : Tag.read? (c :: rest) with
        | none => rfl
        | some result =>
            have written := Tag.eq_append_of_read? found
            exact absurd ⟨[], result.2, by simpa using written.symm⟩
              (tagless result.1)
      have later : Tagless rest := by
        intro tag occurs
        exact tagless tag (occurs.trans (List.suffix_cons c rest).isInfix)
      rw [pieces_cons_of_read?_eq_none unread]
      by_cases ended : rest = []
      · rw [ended, pieces_nil]
        rfl
      · rw [ih ended later]
        rfl

namespace Node

mutual

/-- The texts of a node and of those inside it, in order. -/
def texts : Node → List (List Char)
  | .text characters => [characters]
  | .value _ => []
  | .block _ _ children => textsAll children

/-- The texts of a row and of the rows inside it, in order. -/
def textsAll : List Node → List (List Char)
  | [] => []
  | node :: rest => node.texts ++ textsAll rest

end

mutual

/-- The pieces that a node is written in. -/
def writtenPieces : Node → List Piece
  | .text characters => [.gap characters]
  | .value key => [.mark ⟨.value, key⟩]
  | .block key inverted children =>
      .mark ⟨.opener inverted, key⟩ ::
        (writtenPiecesAll children ++ [.mark ⟨.closer, key⟩])

/-- The pieces that a row is written in. -/
def writtenPiecesAll : List Node → List Piece
  | [] => []
  | node :: rest => node.writtenPieces ++ writtenPiecesAll rest

end

section Rows

variable {characters : List Char} {key : Key} {inverted : Bool}
  {children before after rest : List Node}

@[simp] theorem textsAll_nil : textsAll [] = [] := rfl

@[simp] theorem textsAll_text :
    textsAll (.text characters :: rest) = characters :: textsAll rest := rfl

@[simp] theorem textsAll_value :
  textsAll (.value key :: rest) = textsAll rest := rfl

@[simp] theorem textsAll_block :
    textsAll (.block key inverted children :: rest) =
      textsAll children ++ textsAll rest := rfl

@[simp] theorem textsAll_append :
    textsAll (before ++ after) = textsAll before ++ textsAll after := by
  induction before with
  | nil => rfl
  | cons node rest ih => simp [textsAll, ih]

@[simp] theorem writtenPiecesAll_nil : writtenPiecesAll [] = [] := rfl

@[simp] theorem writtenPiecesAll_text :
    writtenPiecesAll (.text characters :: rest) =
      .gap characters :: writtenPiecesAll rest := rfl

@[simp] theorem writtenPiecesAll_value :
    writtenPiecesAll (.value key :: rest) =
      .mark ⟨.value, key⟩ :: writtenPiecesAll rest := rfl

@[simp] theorem writtenPiecesAll_block :
    writtenPiecesAll (.block key inverted children :: rest) =
      .mark ⟨.opener inverted, key⟩ ::
        (writtenPiecesAll children ++
          .mark ⟨.closer, key⟩ :: writtenPiecesAll rest) := by
  simp [writtenPiecesAll, writtenPieces]

theorem writtenPiecesAll_append :
    writtenPiecesAll (before ++ after) =
      writtenPiecesAll before ++ writtenPiecesAll after := by
  induction before with
  | nil => rfl
  | cons node rest ih => simp [writtenPiecesAll, ih]

end Rows

/-- The rest of a tidy row is tidy. -/
theorem TidyRow.tail
    {node : Node}
    {rest : List Node}
    (tidy : TidyRow (node :: rest)) :
    TidyRow rest where
  each := (List.forall_mem_cons.1 tidy.each).2
  apart := (List.isChain_cons.1 tidy.apart).2

/-- What follows a text in a tidy row begins with a tag. -/
theorem TidyRow.exists_source_of_text
    {characters : List Char}
    {rest : List Node}
    (tidy : TidyRow (.text characters :: rest)) :
    rest = [] ∨
      ∃ (tag : Tag) (after : List Char),
        sourceAll rest = tag.source ++ after := by
  cases rest with
  | nil => exact .inl rfl
  | cons node others =>
      have apart := (List.isChain_cons.1 tidy.apart).1 node rfl
      right
      cases node with
      | text later => exact absurd apart id
      | value key => exact ⟨⟨.value, key⟩, sourceAll others, rfl⟩
      | block key inverted children =>
          exact ⟨⟨.opener inverted, key⟩, _,
            by rw [sourceAll_cons, source_block]; simp; rfl⟩

/-- The written form of a tidy row is cut at the tags of its nodes and nowhere
else, if no tag is written in its texts. -/
theorem pieces_sourceAll
    {nodes : List Node}
    (tidy : TidyRow nodes)
    (tagless : ∀ characters ∈ textsAll nodes, Tagless characters) :
    pieces (sourceAll nodes) = writtenPiecesAll nodes := by
  induction nodes using rowInduction with
  | nil => exact pieces_nil
  | text characters rest ih =>
      obtain ⟨first, later⟩ := List.forall_mem_cons.1 tagless
      have nonempty : characters ≠ [] := tidy.each _ List.mem_cons_self
      have alone := pieces_of_tagless nonempty first
      have following := ih tidy.tail later
      rw [sourceAll_cons, source_text, writtenPiecesAll_text]
      rcases tidy.exists_source_of_text with rfl | ⟨tag, after, begins⟩
      · simpa using alone
      · rw [begins, pieces_append_tag, alone, ← following, begins,
          pieces_source_append]
        rfl
  | value key rest ih =>
      rw [sourceAll_cons, source_value, pieces_source_append,
        ih tidy.tail tagless]
      rfl
  | block key inverted children rest inside ih =>
      obtain ⟨taglessInside, taglessRest⟩ :=
        List.forall_mem_append.1 tagless
      have tidyInside : TidyRow children :=
        tidy_block_iff.1 (tidy.each _ List.mem_cons_self)
      rw [sourceAll_cons, source_block, writtenPiecesAll_block,
        List.append_assoc, List.append_assoc, pieces_source_append,
        pieces_append_tag, inside tidyInside taglessInside,
        ih tidy.tail taglessRest]

/-- Push nodes one after the other. -/
def pushAll (nodes row : List Node) : List Node :=
  nodes.foldl (fun row node => push node row) row

@[simp] theorem pushAll_nil (row : List Node) : pushAll [] row = row := rfl

@[simp] theorem pushAll_cons
    (node : Node)
    (rest row : List Node) :
    pushAll (node :: rest) row = pushAll rest (push node row) := rfl

/-- Nothing is merged when a tidy node is pushed onto a row that it may follow.
-/
theorem push_eq_cons
    {node : Node}
    {row : List Node}
    (tidy : node.Tidy)
    (apart : ∀ last ∈ row.head?, last.Apart node) :
    push node row = node :: row := by
  cases node with
  | value key => rfl
  | block key inverted children => rfl
  | text characters =>
      rw [push, pushText.eq_def]
      split
      · exact absurd rfl tidy
      · exact absurd (apart _ rfl) id
      · rfl

/-- A tidy row stays as it is when it is pushed node by node. -/
theorem pushAll_of_tidy
    {nodes row : List Node}
    (each : ∀ node ∈ nodes, node.Tidy)
    (apart : (row.reverse ++ nodes).IsChain Apart) :
    pushAll nodes row = nodes.reverse ++ row := by
  induction nodes generalizing row with
  | nil => rfl
  | cons node rest ih =>
      obtain ⟨tidy, others⟩ := List.forall_mem_cons.1 each
      have follows : ∀ last ∈ row.head?, last.Apart node := by
        intro last isLast
        have joins := (List.isChain_append.1 apart).2.2
        exact joins last (by simpa using isLast) node rfl
      rw [pushAll_cons, push_eq_cons tidy follows,
        ih others (by simpa using apart)]
      simp

theorem TidyRow.pushAll_eq
    {nodes : List Node}
    (tidy : TidyRow nodes) :
    pushAll nodes [] = nodes.reverse := by
  rw [pushAll_of_tidy tidy.each (by simpa using tidy.apart), List.append_nil]

/-- Reading the pieces of tidy nodes pushes the nodes onto the innermost row,
whatever sections are open around it. -/
theorem foldl_read_writtenPiecesAll
    {nodes : List Node}
    (each : ∀ node ∈ nodes, node.Tidy)
    (before : List Node)
    (waiting : List OpenBlock) :
    (writtenPiecesAll nodes).foldl Nesting.read ⟨before, waiting⟩ =
      ⟨pushAll nodes before, waiting⟩ := by
  induction nodes using rowInduction generalizing before waiting with
  | nil => rfl
  | text characters rest ih =>
      exact ih (List.forall_mem_cons.1 each).2 _ waiting
  | value key rest ih => exact ih (List.forall_mem_cons.1 each).2 _ waiting
  | block key inverted children rest inside ih =>
      obtain ⟨tidyBlock, others⟩ := List.forall_mem_cons.1 each
      have tidyInside : TidyRow children := tidy_block_iff.1 tidyBlock
      let opened : OpenBlock := ⟨key, inverted, before⟩
      have within := inside tidyInside.each [] (opened :: waiting)
      rw [tidyInside.pushAll_eq] at within
      have closed : Nesting.close? key children.reverse (opened :: waiting) =
          some ⟨.block key inverted children :: before, waiting⟩ := by
        simp [Nesting.close?, opened, OpenBlock.close]
      have closes :
          Nesting.read ⟨children.reverse, opened :: waiting⟩
          (.mark ⟨.closer, key⟩) =
          ⟨.block key inverted children :: before, waiting⟩ := by
        rw [Nesting.read, closed]
      rw [writtenPiecesAll_block, List.foldl_cons, List.foldl_append,
        List.foldl_cons]
      change (writtenPiecesAll rest).foldl Nesting.read
        (((writtenPiecesAll children).foldl Nesting.read
          ⟨[], opened :: waiting⟩).read
          (.mark ⟨.closer, key⟩)) = _
      rw [within, closes, ih others]
      rfl

/-- The written form of a tidy row reads back as the row, if no tag is written
in its texts. -/
theorem nodesOf_sourceAll
    {nodes : List Node}
    (tidy : TidyRow nodes)
    (tagless : ∀ characters ∈ textsAll nodes, Tagless characters) :
    nodesOf (sourceAll nodes) = nodes := by
  rw [nodesOf, pieces_sourceAll tidy tagless,
    foldl_read_writtenPiecesAll tidy.each, tidy.pushAll_eq]
  simp [Nesting.finish]

/-- Reading can have led to the row: no text of it, or of a row inside it, is
empty, next to another text, or holds a tag. -/
structure Readable (nodes : List Node) : Prop where
  tidy : TidyRow nodes
  tagless : ∀ characters ∈ textsAll nodes, Tagless characters

end Node

/-- A stencil is read back from its source. -/
theorem ofString_source
    {stencil : Stencil}
    (readable : Node.Readable stencil.nodes) :
    ofString stencil.source = stencil := by
  obtain ⟨nodes⟩ := stencil
  rw [ofString, source, String.toList_ofList,
    Node.nodesOf_sourceAll readable.tidy readable.tagless]

/-- Sections of one key inside each other, with braces in the text around all of
their tags. -/
def bracedNodes : List Node :=
  let key : Key := ⟨['x'], rfl⟩
  [.text ['{'],
    .block key false
      [.text ['}', '}'],
        .block key true [.text ['{', '{', 'x'], .value key],
        .text ['{', '{']],
    .text ['}', '}']]

/-- The braces are not taken for tags, nor a section for the one around it. -/
theorem ofString_source_bracedNodes :
    Node.Readable bracedNodes ∧
      ofString (source ⟨bracedNodes⟩) = ⟨bracedNodes⟩ := by
  have readable : Node.Readable bracedNodes := by
    refine ⟨⟨?each, ?apart⟩, ?tagless⟩
    case each => simp [bracedNodes, Node.Tidy, Node.TidyEach, Node.Apart]
    case apart => simp [bracedNodes, Node.Apart]
    case tagless =>
      intro characters member
      apply tagless_of_length_lt
      simp only [bracedNodes, Node.textsAll_text, Node.textsAll_block,
        Node.textsAll_value, Node.textsAll_nil, List.cons_append,
        List.nil_append, List.mem_cons, List.not_mem_nil, or_false] at member
      rcases member with rfl | rfl | rfl | rfl | rfl <;> decide
  exact ⟨readable, ofString_source readable⟩

end Stencil
end BlackHoleScene
