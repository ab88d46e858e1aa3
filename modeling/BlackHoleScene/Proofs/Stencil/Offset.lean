import BlackHoleScene.Stencil.Nesting

/-!
# Where pieces and nodes begin

The written forms of pieces, and those of nodes, follow each other in a text, so
each of them stands at an offset in it. `Piece.locateAll` finds the offsets of
pieces in a row, and `Node.locateAll` those of nodes in a row and of all nodes
inside them. Nodes never cross: of any two, one ends before the other begins, or
one is inside the other (`Node.nested_of_mem_locateAll`).
-/

namespace BlackHoleScene
namespace Stencil

/-- Something with the offset at which its written form begins. -/
structure Located (β : Type) where
  offset : Nat
  item : β
  deriving DecidableEq

/-- The characters stand at an offset in a text that begins at `start`. -/
def StandsAt
    (offset : Nat)
    (characters : List Char)
    (start : Nat)
    (text : List Char) : Prop :=
  ∃ before after,
    text = before ++ (characters ++ after) ∧ offset = start + before.length

namespace StandsAt

variable {offset start : Nat} {characters text : List Char}

/-- What a text begins with stands at its beginning. -/
theorem self
    (start : Nat)
    (characters after : List Char) :
    StandsAt start characters start (characters ++ after) :=
  ⟨[], after, rfl, rfl⟩

/-- What stands in a text stands in it when more follows. -/
theorem followed
    (stands : StandsAt offset characters start text)
    (more : List Char) :
    StandsAt offset characters start (text ++ more) := by
  obtain ⟨before, after, rfl, place⟩ := stands
  exact ⟨before, after ++ more, by simp, place⟩

/-- What stands in the rest of a text stands in the text. -/
theorem preceded
    {first : List Char}
    (stands : StandsAt offset characters (start + first.length) text) :
    StandsAt offset characters start (first ++ text) := by
  obtain ⟨before, after, rfl, place⟩ := stands
  refine ⟨first ++ before, after, by simp, ?_⟩
  rw [place, List.length_append, Nat.add_assoc]

/-- The first of two parts stands where both do. -/
theorem left
    {first second : List Char}
    (stands : StandsAt offset (first ++ second) start text) :
    StandsAt offset first start text := by
  obtain ⟨before, after, rfl, place⟩ := stands
  exact ⟨before, second ++ after, by simp, place⟩

/-- The second of two parts stands behind the first. -/
theorem right
    {first second : List Char}
    (stands : StandsAt offset (first ++ second) start text) :
    StandsAt (offset + first.length) second start text := by
  obtain ⟨before, after, rfl, place⟩ := stands
  refine ⟨before ++ first, after, by simp, ?_⟩
  rw [place, List.length_append, Nat.add_assoc]

/-- What stands in a text lies between its beginning and its end. -/
theorem bounds (stands : StandsAt offset characters start text) :
    start ≤ offset ∧
      offset + characters.length ≤ start + text.length := by
  obtain ⟨before, after, rfl, place⟩ := stands
  simp only [place, List.length_append]
  omega

end StandsAt

namespace Piece

/-- Pieces one after the other, from an offset on. -/
def locateAll (start : Nat) : List Piece → List (Located Piece)
  | [] => []
  | piece :: rest =>
      ⟨start, piece⟩ :: locateAll (start + piece.source.length) rest

@[simp] theorem locateAll_nil (start : Nat) : locateAll start [] = [] := rfl

@[simp] theorem locateAll_cons
    (start : Nat)
    (piece : Piece)
    (rest : List Piece) :
    locateAll start (piece :: rest) =
      ⟨start, piece⟩ :: locateAll (start + piece.source.length) rest := rfl

theorem locateAll_append
    (start : Nat)
    (before after : List Piece) :
    locateAll start (before ++ after) =
      locateAll start before ++
        locateAll (start + (before.flatMap source).length) after := by
  induction before generalizing start with
  | nil => simp
  | cons piece rest ih => simp [ih, Nat.add_assoc]

section Member

variable {start : Nat} {pieces : List Piece} {located : Located Piece}

/-- A located piece is one of the pieces. -/
theorem mem_of_mem_locateAll (member : located ∈ locateAll start pieces) :
    located.item ∈ pieces := by
  induction pieces generalizing start with
  | nil => cases member
  | cons piece rest ih =>
      rcases List.mem_cons.1 member with rfl | later
      · exact List.mem_cons_self
      · exact List.mem_cons_of_mem piece (ih later)

/-- Every piece stands where it is located. -/
theorem standsAt_of_mem_locateAll
    (member : located ∈ locateAll start pieces) :
    StandsAt located.offset located.item.source start
      (pieces.flatMap source) := by
  induction pieces generalizing start with
  | nil => cases member
  | cons piece rest ih =>
      rw [List.flatMap_cons]
      rcases List.mem_cons.1 member with rfl | later
      · exact .self start piece.source _
      · exact (ih later).preceded

end Member

/-- Each piece ends before the next one begins. -/
theorem pairwise_locateAll
    (start : Nat)
    (pieces : List Piece) :
    (locateAll start pieces).Pairwise fun first second =>
      first.offset + first.item.source.length ≤ second.offset := by
  induction pieces generalizing start with
  | nil => exact .nil
  | cons piece rest ih =>
      refine List.pairwise_cons.2 ⟨?_, ih _⟩
      intro later member
      exact (standsAt_of_mem_locateAll member).bounds.1

end Piece

namespace Node

/-- What holds of the empty row, and of a row if it holds of what follows its
first node and of what is inside it, holds of every row. -/
@[elab_as_elim]
theorem rowInduction
    {motive : List Node → Prop}
    (nil : motive [])
    (text :
      ∀ characters rest, motive rest → motive (.text characters :: rest))
    (value : ∀ key rest, motive rest → motive (.value key :: rest))
    (block : ∀ key inverted children rest,
      motive children → motive rest →
        motive (.block key inverted children :: rest)) :
    ∀ nodes, motive nodes
  | [] => nil
  | .text characters :: rest =>
      text characters rest (rowInduction nil text value block rest)
  | .value key :: rest =>
      value key rest (rowInduction nil text value block rest)
  | .block key inverted children :: rest =>
      block key inverted children rest
        (rowInduction nil text value block children)
        (rowInduction nil text value block rest)

@[simp] theorem sourceAll_nil : sourceAll [] = [] := rfl

@[simp] theorem sourceAll_cons
    (node : Node)
    (rest : List Node) :
    sourceAll (node :: rest) = node.source ++ sourceAll rest := rfl

@[simp] theorem sourceAll_append (before after : List Node) :
    sourceAll (before ++ after) = sourceAll before ++ sourceAll after := by
  induction before with
  | nil => rfl
  | cons node rest ih => simp [ih]

@[simp] theorem source_text (characters : List Char) :
    (text characters).source = characters := rfl

@[simp] theorem source_value (key : Key) :
    (value key).source = (Tag.mk .value key).source := rfl

@[simp] theorem source_block
    (key : Key)
    (inverted : Bool)
    (children : List Node) :
    (block key inverted children).source =
      (Tag.mk (.opener inverted) key).source ++ sourceAll children ++
        (Tag.mk .closer key).source := rfl

mutual

/-- A node that begins at an offset, after all the nodes inside it. -/
def locate (start : Nat) : Node → List (Located Node)
  | .text characters => [⟨start, .text characters⟩]
  | .value key => [⟨start, .value key⟩]
  | .block key inverted children =>
      locateAll
        (start + (Tag.mk (.opener inverted) key).source.length) children ++
        [⟨start, .block key inverted children⟩]

/-- Nodes one after the other, from an offset on, each after all the nodes
inside it. -/
def locateAll (start : Nat) : List Node → List (Located Node)
  | [] => []
  | node :: rest =>
      node.locate start ++ locateAll (start + node.source.length) rest

end

section LocateAll

variable (start : Nat)

@[simp] theorem locateAll_nil : locateAll start [] = [] := rfl

@[simp] theorem locateAll_text
    (characters : List Char)
    (rest : List Node) :
    locateAll start (.text characters :: rest) =
      ⟨start, .text characters⟩ ::
        locateAll (start + characters.length) rest := rfl

@[simp] theorem locateAll_value
    (key : Key)
    (rest : List Node) :
    locateAll start (.value key :: rest) =
      ⟨start, .value key⟩ ::
        locateAll (start + (Tag.mk .value key).source.length) rest := rfl

@[simp] theorem locateAll_block
    (key : Key)
    (inverted : Bool)
    (children rest : List Node) :
    locateAll start (.block key inverted children :: rest) =
      locateAll
        (start + (Tag.mk (.opener inverted) key).source.length) children ++
        ⟨start, .block key inverted children⟩ ::
          locateAll
            (start + (block key inverted children).source.length) rest := by
  simp [locateAll, locate]

theorem locateAll_append (before after : List Node) :
    locateAll start (before ++ after) =
      locateAll start before ++
        locateAll (start + (sourceAll before).length) after := by
  induction before generalizing start with
  | nil => simp
  | cons node rest ih => simp [locateAll, ih, Nat.add_assoc]

end LocateAll

/-- Every node stands where it is located. -/
theorem standsAt_of_mem_locateAll
    {start : Nat}
    {nodes : List Node}
    {located : Located Node}
    (member : located ∈ locateAll start nodes) :
    StandsAt located.offset located.item.source start (sourceAll nodes) := by
  induction nodes using rowInduction generalizing start with
  | nil => cases member
  | text characters rest ih =>
      rcases List.mem_cons.1 member with rfl | later
      · exact .self start characters _
      · exact (ih later).preceded
  | value key rest ih =>
      rcases List.mem_cons.1 member with rfl | later
      · exact .self start _ _
      · exact (ih later).preceded
  | block key inverted children rest inside ih =>
      rw [locateAll_block] at member
      rw [sourceAll_cons]
      rcases List.mem_append.1 member with inner | outer
      · exact ((inside inner).preceded.followed _).followed _
      · rcases List.mem_cons.1 outer with rfl | later
        · exact .self start _ _
        · exact (ih later).preceded

end Node

namespace Located

/-- The offset at which the written form of a node ends. -/
def ending (located : Located Node) : Nat :=
  located.offset + located.item.source.length

/-- The nodes inside a section, where they stand; none for other nodes. -/
def inside : Located Node → List (Located Node)
  | ⟨offset, .block key inverted children⟩ =>
      Node.locateAll
        (offset + (Tag.mk (.opener inverted) key).source.length) children
  | _ => []

/-- Of the two nodes, one ends before the other begins, or one is inside the
other. -/
def Nested (first second : Located Node) : Prop :=
  first = second ∨ first.ending ≤ second.offset ∨
    second.ending ≤ first.offset ∨
    first ∈ second.inside ∨ second ∈ first.inside

theorem Nested.symm
    {first second : Located Node}
    (nested : first.Nested second) :
    second.Nested first := by
  rcases nested with same | before | after | inner | outer
  · exact .inl same.symm
  · exact .inr (.inr (.inl before))
  · exact .inr (.inl after)
  · exact .inr (.inr (.inr (.inr inner)))
  · exact .inr (.inr (.inr (.inl outer)))

end Located

namespace Node

/-- A node of a row lies between the beginning and the end of the row. -/
theorem bounds_of_mem_locateAll
    {start : Nat}
    {nodes : List Node}
    {located : Located Node}
    (member : located ∈ locateAll start nodes) :
    start ≤ located.offset ∧
      located.ending ≤ start + (sourceAll nodes).length :=
  (standsAt_of_mem_locateAll member).bounds

/-- Nodes of a row that follow each other do not cross if those of its first
node and those of the rest do not. -/
theorem nested_of_cons
    {start : Nat}
    {node : Node}
    {rest : List Node}
    (within :
      ∀ first ∈ node.locate start, ∀ second ∈ node.locate start,
        first.Nested second)
    (later : ∀ first ∈ locateAll (start + node.source.length) rest,
      ∀ second ∈ locateAll (start + node.source.length) rest,
        first.Nested second) :
    ∀ first ∈ locateAll start (node :: rest),
      ∀ second ∈ locateAll start (node :: rest), first.Nested second := by
  have apart : ∀ first ∈ node.locate start,
      ∀ second ∈ locateAll (start + node.source.length) rest,
        first.Nested second := by
    intro first left second right
    have alone : first ∈ locateAll start [node] := by
      simpa [locateAll] using left
    have ends := (bounds_of_mem_locateAll alone).2
    have begins := (bounds_of_mem_locateAll right).1
    have length : (sourceAll [node]).length = node.source.length := by simp
    rw [length] at ends
    exact .inr (.inl (Nat.le_trans ends begins))
  intro first left second right
  rcases List.mem_append.1 left with inFirst | inRest
  · rcases List.mem_append.1 right with inFirst' | inRest'
    · exact within first inFirst second inFirst'
    · exact apart first inFirst second inRest'
  · rcases List.mem_append.1 right with inFirst' | inRest'
    · exact (apart second inFirst' first inRest).symm
    · exact later first inRest second inRest'

/-- Nodes of a row never cross. -/
theorem nested_of_mem_locateAll
    (nodes : List Node)
    (start : Nat) :
    ∀ first ∈ locateAll start nodes, ∀ second ∈ locateAll start nodes,
      first.Nested second := by
  induction nodes using rowInduction generalizing start with
  | nil =>
      intro first left
      cases left
  | text characters rest ih =>
      refine nested_of_cons ?_ (ih _)
      intro first left second right
      rw [List.mem_singleton.1 left, List.mem_singleton.1 right]
      exact .inl rfl
  | value key rest ih =>
      refine nested_of_cons ?_ (ih _)
      intro first left second right
      rw [List.mem_singleton.1 left, List.mem_singleton.1 right]
      exact .inl rfl
  | block key inverted children rest inside ih =>
      refine nested_of_cons ?_ (ih _)
      intro first left second right
      rcases List.mem_append.1 left with inner | outer
      · rcases List.mem_append.1 right with inner' | outer'
        · exact inside _ first inner second inner'
        · rw [List.mem_singleton.1 outer']
          exact .inr (.inr (.inr (.inl inner)))
      · rw [List.mem_singleton.1 outer]
        rcases List.mem_append.1 right with inner' | outer'
        · exact .inr (.inr (.inr (.inr inner')))
        · exact .inl (List.mem_singleton.1 outer').symm

end Node

end Stencil
end BlackHoleScene
