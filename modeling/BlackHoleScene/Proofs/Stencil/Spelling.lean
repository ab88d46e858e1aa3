import BlackHoleScene.Proofs.Stencil.Merging
import BlackHoleScene.Proofs.Stencil.Occurrence
import BlackHoleScene.Proofs.Stencil.Tidy

/-!
# How pieces spell nodes

Pieces spell a row of nodes when each text of the row is a run of them without
value tags, each place for a scalar is a value tag, and each section is an
opening tag, pieces that spell what is inside, and a closing tag of the same
key. Reading keeps to this at every piece, so the pieces of a text spell its
nodes (`spells_nodesOf`), and nothing of the text is lost, moved or made up:
`canonical_nodesOf`.
-/

namespace BlackHoleScene
namespace Stencil

/-- The pieces, in order, are those that the nodes were read from. -/
inductive Spells : List Piece → List Node → Prop
  | nil : Spells [] []
  /-- A run of pieces without value tags is a text. -/
  | text
      {segment later : List Piece}
      {rest : List Node}
      (plain : ∀ key, .mark ⟨.value, key⟩ ∉ segment)
      (spells : Spells later rest) :
      Spells (segment ++ later) (.text (segment.flatMap Piece.source) :: rest)
  | value
      {later : List Piece}
      {rest : List Node}
      (key : Key)
      (spells : Spells later rest) :
      Spells (.mark ⟨.value, key⟩ :: later) (.value key :: rest)
  | block
      {inside later : List Piece}
      {children rest : List Node}
      (key : Key)
      (inverted : Bool)
      (inner : Spells inside children)
      (spells : Spells later rest) :
      Spells
        (.mark ⟨.opener inverted, key⟩ ::
          (inside ++ .mark ⟨.closer, key⟩ :: later))
        (.block key inverted children :: rest)

namespace Spells

/-- The pieces have the written form of the nodes. -/
theorem sourceAll_eq
    {pieces : List Piece}
    {nodes : List Node}
    (spells : Spells pieces nodes) :
    Node.sourceAll nodes = pieces.flatMap Piece.source := by
  induction spells with
  | nil => rfl
  | text plain spells ih => simp [ih]
  | value key spells ih => simp [ih, Piece.source]
  | block key inverted inner spells inside ih => simp [inside, ih, Piece.source]

/-- A plain piece is a text. -/
theorem single
    {piece : Piece}
    (plain : ∀ key, piece ≠ .mark ⟨.value, key⟩) :
    Spells [piece] [.text piece.source] := by
  have alone : ∀ key, .mark ⟨.value, key⟩ ∉ [piece] := by
    intro key member
    exact plain key (List.mem_singleton.1 member).symm
  simpa using Spells.text alone .nil

/-- Rows spelled by pieces that follow each other follow each other. -/
theorem append
    {before after : List Piece}
    {nodes rest : List Node}
    (left : Spells before nodes)
    (right : Spells after rest) :
    Spells (before ++ after) (nodes ++ rest) := by
  induction left with
  | nil => exact right
  | text plain spells ih =>
      rw [List.append_assoc]
      exact .text plain ih
  | value key spells ih => exact .value key ih
  | block key inverted inner spells inside ih =>
      simp only [List.cons_append, List.append_assoc]
      exact .block key inverted inner ih

/-- The pieces of two rows are those of the first and then those of the second.
-/
theorem exists_of_append
    {pieces : List Piece}
    {nodes rest : List Node}
    (spells : Spells pieces (nodes ++ rest)) :
    ∃ before after,
      pieces = before ++ after ∧ Spells before nodes ∧
        Spells after rest := by
  induction nodes generalizing pieces with
  | nil => exact ⟨[], pieces, rfl, .nil, spells⟩
  | cons node others ih =>
      cases spells with
      | @text segment _ _ plain spells =>
          obtain ⟨before, after, rfl, left, right⟩ := ih spells
          exact ⟨segment ++ before, after, by simp, .text plain left, right⟩
      | value key spells =>
          obtain ⟨before, after, rfl, left, right⟩ := ih spells
          exact ⟨_, after, rfl, .value key left, right⟩
      | @block inside _ _ _ key inverted inner spells =>
          obtain ⟨before, after, rfl, left, right⟩ := ih spells
          refine ⟨_, after, ?_, .block key inverted inner left, right⟩
          simp

/-- The pieces of a row that begins with text begin with a plain run of its
characters. -/
theorem exists_of_text
    {pieces : List Piece}
    {characters : List Char}
    {rest : List Node}
    (spells : Spells pieces (.text characters :: rest)) :
    ∃ segment later,
      pieces = segment ++ later ∧
        characters = segment.flatMap Piece.source ∧
        (∀ key, .mark ⟨.value, key⟩ ∉ segment) ∧
          Spells later rest := by
  cases spells with
  | text plain spells => exact ⟨_, _, rfl, rfl, plain, spells⟩

/-- Pieces that spell a row spell it with its text merged, if none of them is
empty. -/
theorem merge
    {pieces : List Piece}
    {nodes merged : List Node}
    (spells : Spells pieces nodes)
    (merges : Merges nodes merged)
    (nonempty : ∀ piece ∈ pieces, piece.source ≠ []) :
    Spells pieces merged := by
  induction merges generalizing pieces with
  | refl nodes => exact spells
  | trans left right first second =>
      exact second (first spells nonempty) nonempty
  | append left right first second =>
      obtain ⟨before, after, rfl, spellsBefore, spellsAfter⟩ :=
        spells.exists_of_append
      obtain ⟨fullBefore, fullAfter⟩ := List.forall_mem_append.1 nonempty
      exact (first spellsBefore fullBefore).append
        (second spellsAfter fullAfter)
  | join earlier later =>
      obtain ⟨first, others, rfl, rfl, plainFirst, spellsOthers⟩ :=
        spells.exists_of_text
      obtain ⟨second, rest, rfl, rfl, plainSecond, spellsRest⟩ :=
        spellsOthers.exists_of_text
      have plain : ∀ key, .mark ⟨.value, key⟩ ∉ first ++ second := by
        simpa using fun key => ⟨plainFirst key, plainSecond key⟩
      simpa using Spells.text plain spellsRest
  | empty =>
      obtain ⟨segment, rest, rfl, written, _, spellsRest⟩ :=
        spells.exists_of_text
      obtain ⟨fullSegment, _⟩ := List.forall_mem_append.1 nonempty
      cases segment with
      | nil => exact spellsRest
      | cons piece others =>
          have empty : piece.source = [] :=
            (List.append_eq_nil_iff.1 written.symm).1
          exact absurd empty (fullSegment piece List.mem_cons_self)

end Spells

/-- Opening tags with what is read before and between them, innermost last. -/
inductive Opens : List Piece → List OpenBlock → Prop
  | nil : Opens [] []
  | cons
      {earlier before : List Piece}
      {innermost : OpenBlock}
      {outer : List OpenBlock}
      (opens : Opens earlier outer)
      (spells : Spells before innermost.before.reverse) :
      Opens (earlier ++ (before ++ [.mark innermost.opener]))
        (innermost :: outer)

namespace Nesting

/-- The pieces, in order, are those that have been read. -/
def HasRead (nesting : Nesting) (pieces : List Piece) : Prop :=
  ∃ opened rest,
    pieces = opened ++ rest ∧ Opens opened nesting.waiting ∧
      Spells rest nesting.nodes.reverse

section HasRead

variable {pieces : List Piece} {nodes : List Node}

/-- Giving up the innermost section keeps what has been read. -/
theorem HasRead.dissolve
    {innermost : OpenBlock}
    {outer : List OpenBlock}
    (read : HasRead ⟨nodes, innermost :: outer⟩ pieces)
    (nonempty : ∀ piece ∈ pieces, piece.source ≠ []) :
    HasRead ⟨innermost.dissolve nodes, outer⟩ pieces := by
  obtain ⟨_, rest, rfl, opens, spells⟩ := read
  cases opens with
  | @cons earlier before _ _ opens spellsBefore =>
      have opener :
          Spells [.mark innermost.opener] [.text innermost.opener.source] :=
        .single (by simp [OpenBlock.opener])
      have split : Spells (before ++ [.mark innermost.opener] ++ rest)
          (innermost.outline ++ nodes.reverse) :=
        (spellsBefore.append opener).append spells
      refine ⟨earlier, before ++ [.mark innermost.opener] ++ rest, by simp,
        opens, ?_⟩
      refine split.merge (innermost.merges_dissolve nodes) ?_
      intro piece member
      apply nonempty piece
      simp only [List.mem_append] at member ⊢
      tauto

/-- Giving up sections keeps what has been read. -/
theorem HasRead.dissolveAll
    {inner outer : List OpenBlock}
    (read : HasRead ⟨nodes, inner ++ outer⟩ pieces)
    (nonempty : ∀ piece ∈ pieces, piece.source ≠ []) :
    HasRead ⟨OpenBlock.dissolveAll inner nodes, outer⟩ pieces := by
  induction inner generalizing nodes with
  | nil => exact read
  | cons innermost rest ih => exact ih (read.dissolve nonempty)

/-- Closing a section reads its closing tag. -/
theorem HasRead.close?
    {key : Key}
    {waiting : List OpenBlock}
    {closed : Nesting}
    (read : HasRead ⟨nodes, waiting⟩ pieces)
    (nonempty : ∀ piece ∈ pieces, piece.source ≠ [])
    (found : Nesting.close? key nodes waiting = some closed) :
    closed.HasRead (pieces ++ [.mark ⟨.closer, key⟩]) := by
  obtain ⟨inner, closing, outer, rfl, _, same, rfl⟩ :=
    exists_of_close? found
  obtain ⟨_, inside, rfl, opens, spells⟩ := read.dissolveAll nonempty
  cases opens with
  | @cons earlier before _ _ opens spellsBefore =>
      have closes :=
        spellsBefore.append (.block closing.key closing.inverted spells .nil)
      refine ⟨earlier,
        before ++
          .mark closing.opener :: (inside ++ [.mark ⟨.closer, key⟩]), ?_,
          opens, ?_⟩
      · simp
      · simpa [OpenBlock.close, OpenBlock.opener, same] using closes

/-- A piece without a value tag joins the nodes as text. -/
theorem HasRead.pushText
    {waiting : List OpenBlock}
    {piece : Piece}
    (read : HasRead ⟨nodes, waiting⟩ pieces)
    (nonempty : ∀ piece ∈ pieces, piece.source ≠ [])
    (full : piece.source ≠ [])
    (plain : ∀ key, piece ≠ .mark ⟨.value, key⟩) :
    HasRead ⟨Stencil.pushText piece.source nodes, waiting⟩
      (pieces ++ [piece]) := by
  obtain ⟨opened, rest, rfl, opens, spells⟩ := read
  refine ⟨opened, rest ++ [piece], by simp, opens, ?_⟩
  refine (spells.append (.single plain)).merge
    (merges_pushText piece.source nodes) ?_
  intro other member
  rcases List.mem_append.1 member with earlier | last
  · exact nonempty other (List.mem_append_right opened earlier)
  · rwa [List.mem_singleton.1 last]

/-- Reading one more piece adds it to what has been read. -/
theorem HasRead.read
    {nesting : Nesting}
    {piece : Piece}
    (read : nesting.HasRead pieces)
    (nonempty : ∀ piece ∈ pieces, piece.source ≠ [])
    (full : piece.source ≠ []) :
    (nesting.read piece).HasRead (pieces ++ [piece]) := by
  rcases piece with characters | ⟨_ | inverted | _, key⟩
  · exact read.pushText nonempty full (by simp)
  · obtain ⟨opened, rest, rfl, opens, spells⟩ := read
    refine ⟨opened, rest ++ [.mark ⟨.value, key⟩], by simp, opens, ?_⟩
    simpa [Nesting.read] using spells.append (.value key .nil)
  · obtain ⟨opened, rest, rfl, opens, spells⟩ := read
    let innermost : OpenBlock := ⟨key, inverted, nesting.nodes⟩
    have opensMore : Opens (opened ++ (rest ++ [.mark innermost.opener]))
        (innermost :: nesting.waiting) := .cons opens spells
    exact ⟨_, [], by simp [innermost, OpenBlock.opener], opensMore, .nil⟩
  · rw [Nesting.read]
    split
    · next closed found => exact read.close? nonempty found
    · exact read.pushText nonempty full (by simp)

/-- Reading pieces adds them to what has been read. -/
theorem HasRead.foldl_read
    {nesting : Nesting}
    {later : List Piece}
    (read : nesting.HasRead pieces)
    (nonempty : ∀ piece ∈ pieces ++ later, piece.source ≠ []) :
    (later.foldl Nesting.read nesting).HasRead (pieces ++ later) := by
  induction later generalizing nesting pieces with
  | nil => simpa using read
  | cons piece rest ih =>
      obtain ⟨fullBefore, fullAfter⟩ := List.forall_mem_append.1 nonempty
      obtain ⟨full, _⟩ := List.forall_mem_cons.1 fullAfter
      have more := ih (read.read fullBefore full) (by simpa using nonempty)
      simpa using more

/-- The pieces that were read spell the nodes of everything read. -/
theorem HasRead.finish
    {nesting : Nesting}
    (read : nesting.HasRead pieces)
    (nonempty : ∀ piece ∈ pieces, piece.source ≠ []) :
    Spells pieces nesting.finish := by
  have all : HasRead ⟨nesting.nodes, nesting.waiting ++ []⟩ pieces := by
    simpa using read
  obtain ⟨_, rest, rfl, opens, spells⟩ := all.dissolveAll nonempty
  cases opens
  exact spells

end HasRead

end Nesting

/-- The pieces of a text spell its nodes. -/
theorem spells_nodesOf (text : List Char) :
    Spells (pieces text) (nodesOf text) := by
  have beginning : Nesting.HasRead {} [] := ⟨[], [], rfl, .nil, .nil⟩
  have nonempty : ∀ piece ∈ pieces text, piece.source ≠ [] :=
    fun _ => source_ne_nil_of_mem_pieces
  have read : ((pieces text).foldl Nesting.read {}).HasRead (pieces text) :=
    beginning.foldl_read nonempty
  exact read.finish nonempty

/-- The piece is one that the node was read from, apart from those that the
nodes inside it were read from. -/
def Located.Shows (node : Located Node) (piece : Located Piece) : Prop :=
  match node with
  | ⟨offset, .text characters⟩ =>
      (∀ key, piece.item ≠ .mark ⟨.value, key⟩) ∧
        StandsAt piece.offset piece.item.source offset characters
  | ⟨offset, .value key⟩ => piece = ⟨offset, .mark ⟨.value, key⟩⟩
  | ⟨offset, .block key inverted children⟩ =>
      let opener := Tag.mk (.opener inverted) key
      piece = ⟨offset, .mark opener⟩ ∨
        piece =
          ⟨offset + opener.source.length + (Node.sourceAll children).length,
            .mark ⟨.closer, key⟩⟩

/-- A node shows only pieces that lie within it. -/
theorem Located.Shows.bounds
    {node : Located Node}
    {piece : Located Piece}
    (shows : node.Shows piece) :
    node.offset ≤ piece.offset ∧
      piece.offset + piece.item.source.length ≤ node.ending := by
  rcases node with
    ⟨offset, characters | key | ⟨key, inverted, children⟩⟩
  · exact shows.2.bounds
  · cases shows
    exact ⟨Nat.le_refl _, Nat.le_refl _⟩
  · simp only [ending, Node.source_block, List.length_append]
    rcases shows with rfl | rfl
    all_goals simp only [Piece.source]; omega

/-- A piece that another node shows lies before a text or after it. -/
theorem Located.Shows.before_or_after_text
    {nodes : List Node}
    {start offset : Nat}
    {characters : List Char}
    {node : Located Node}
    {piece : Located Piece}
    (shows : node.Shows piece)
    (member : node ∈ Node.locateAll start nodes)
    (text : ⟨offset, .text characters⟩ ∈ Node.locateAll start nodes)
    (different : node ≠ ⟨offset, .text characters⟩) :
    piece.offset + piece.item.source.length ≤ offset ∨
      offset + characters.length ≤ piece.offset := by
  have within := shows.bounds
  rcases Node.nested_of_mem_locateAll nodes start node member _ text with
    same | before | after | inText | around
  · exact absurd same different
  · exact .inl (Nat.le_trans within.2 before)
  · exact .inr (Nat.le_trans after within.1)
  · cases inText
  · rcases node with ⟨place, _ | _ | ⟨key, inverted, children⟩⟩
    · cases around
    · cases around
    · have between := Node.bounds_of_mem_locateAll around
      rcases shows with rfl | rfl
      · exact .inl between.1
      · exact .inr between.2

/-- Every piece is shown by a node, where it stands. -/
theorem Spells.exists_shows
    {pieces : List Piece}
    {nodes : List Node}
    {start : Nat}
    {piece : Located Piece}
    (spells : Spells pieces nodes)
    (member : piece ∈ Piece.locateAll start pieces) :
    ∃ node ∈ Node.locateAll start nodes, node.Shows piece := by
  induction spells generalizing start with
  | nil => cases member
  | @text segment later rest plain spells ih =>
      rw [Piece.locateAll_append] at member
      rcases List.mem_append.1 member with here | later
      · refine ⟨_, List.mem_cons_self, ?_,
          Piece.standsAt_of_mem_locateAll here⟩
        intro key isValue
        exact plain key (isValue ▸ Piece.mem_of_mem_locateAll here)
      · obtain ⟨node, located, shows⟩ := ih later
        exact ⟨node, List.mem_cons_of_mem _ located, shows⟩
  | @value later rest key spells ih =>
      rcases List.mem_cons.1 member with rfl | later
      · exact ⟨_, List.mem_cons_self, rfl⟩
      · obtain ⟨node, located, shows⟩ := ih later
        exact ⟨node, List.mem_cons_of_mem _ located, shows⟩
  | @block inside after children rest key inverted inner spells insideIh ih =>
      rw [Node.locateAll_block]
      rw [Piece.locateAll_cons, Piece.locateAll_append,
        Piece.locateAll_cons] at member
      rw [← inner.sourceAll_eq] at member
      rcases List.mem_cons.1 member with rfl | member
      · exact ⟨_, List.mem_append_right _ List.mem_cons_self, .inl rfl⟩
      · rcases List.mem_append.1 member with within | member
        · obtain ⟨node, located, shows⟩ := insideIh within
          exact ⟨node, List.mem_append_left _ located, shows⟩
        · rcases List.mem_cons.1 member with rfl | later
          · exact ⟨_, List.mem_append_right _ List.mem_cons_self, .inr rfl⟩
          · have beyond : piece ∈ Piece.locateAll
                (start + (Node.block key inverted children).source.length)
                  after := by
              simpa [Piece.source, Nat.add_assoc] using later
            obtain ⟨node, located, shows⟩ := ih beyond
            exact ⟨node,
              List.mem_append_right _ (List.mem_cons_of_mem _ located), shows⟩

end Stencil
end BlackHoleScene
