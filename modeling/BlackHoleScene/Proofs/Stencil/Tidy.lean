import BlackHoleScene.Proofs.Stencil.Merging
import Mathlib.Data.List.Chain

/-!
# Tidy rows

A row of nodes is tidy when no text in it is empty or next to another text, and
the same holds inside every section. Reading pieces keeps every row tidy, so the
nodes of a text form a tidy row: `Node.tidyRow_nodesOf`.
-/

namespace BlackHoleScene
namespace Stencil

namespace Node

/-- Not both of the nodes are text. -/
def Apart : Node → Node → Prop
  | .text _, .text _ => False
  | _, _ => True

theorem Apart.symm
    {first second : Node}
    (apart : first.Apart second) :
    second.Apart first := by
  cases first <;> cases second <;> exact apart

mutual

/-- The node is no empty text, and the row inside it is tidy. -/
def Tidy : Node → Prop
  | .text characters => characters ≠ []
  | .value _ => True
  | .block _ _ children => TidyEach children ∧ children.IsChain Apart

/-- Every node of the row is tidy. -/
def TidyEach : List Node → Prop
  | [] => True
  | node :: rest => node.Tidy ∧ TidyEach rest

end

/-- No text of the row, or of a row inside it, is empty or next to another text.
-/
structure TidyRow (nodes : List Node) : Prop where
  each : ∀ node ∈ nodes, node.Tidy
  apart : nodes.IsChain Apart

theorem tidyEach_iff {nodes : List Node} :
    TidyEach nodes ↔ ∀ node ∈ nodes, node.Tidy := by
  induction nodes with
  | nil => simp [TidyEach]
  | cons node rest ih => simp [TidyEach, ih]

theorem tidy_block_iff
    {key : Key}
    {inverted : Bool}
    {children : List Node} :
    (block key inverted children).Tidy ↔ TidyRow children := by
  rw [Tidy, tidyEach_iff]
  exact ⟨fun tidy => ⟨tidy.1, tidy.2⟩,
    fun tidy => ⟨tidy.each, tidy.apart⟩⟩

namespace TidyRow

theorem nil : TidyRow [] := ⟨by simp, .nil⟩

/-- A row is as tidy from its end as from its beginning. -/
theorem reverse
    {nodes : List Node}
    (tidy : TidyRow nodes) :
    TidyRow nodes.reverse where
  each := by simpa using tidy.each
  apart := List.isChain_reverse.2 (tidy.apart.imp fun _ _ => Apart.symm)

/-- What is no text may follow any node. -/
theorem cons
    {node : Node}
    {nodes : List Node}
    (tidy : TidyRow nodes)
    (tidyNode : node.Tidy)
    (apart : ∀ other : Node, node.Apart other) :
    TidyRow (node :: nodes) where
  each := List.forall_mem_cons.2 ⟨tidyNode, tidy.each⟩
  apart := List.isChain_cons.2 ⟨fun other _ => apart other, tidy.apart⟩

/-- Pushing text keeps a row tidy. -/
theorem pushText
    {nodes : List Node}
    (tidy : TidyRow nodes)
    (characters : List Char) :
    TidyRow (pushText characters nodes) := by
  unfold Stencil.pushText
  split
  · exact tidy
  · next earlier rest nonempty =>
      obtain ⟨_, others⟩ := List.forall_mem_cons.1 tidy.each
      obtain ⟨apart, chain⟩ := List.isChain_cons.1 tidy.apart
      refine ⟨List.forall_mem_cons.2 ⟨?_, others⟩,
        List.isChain_cons.2 ⟨?_, chain⟩⟩
      · intro empty
        exact nonempty (List.append_eq_nil_iff.1 empty).2
      · intro other first
        have textApart := apart other first
        cases other <;> exact textApart
  · next nonempty notText =>
      refine ⟨List.forall_mem_cons.2 ⟨nonempty, tidy.each⟩,
        List.isChain_cons.2 ⟨?_, tidy.apart⟩⟩
      intro other first
      cases other with
      | text earlier =>
          obtain ⟨rest, rfl⟩ := List.head?_eq_some_iff.1 first
          exact absurd rfl (notText earlier rest)
      | value key => trivial
      | block key inverted children => trivial

/-- Pushing a tidy node keeps a row tidy. -/
theorem push
    {node : Node}
    {nodes : List Node}
    (tidy : TidyRow nodes)
    (tidyNode : node.Tidy) :
    TidyRow (push node nodes) := by
  cases node with
  | text characters => exact tidy.pushText characters
  | value key => exact tidy.cons tidyNode fun _ => trivial
  | block key inverted children => exact tidy.cons tidyNode fun _ => trivial

/-- Giving up a section keeps the rows around and inside it tidy. -/
theorem dissolve
    {waiting : OpenBlock}
    {inside : List Node}
    (before : TidyRow waiting.before)
    (tidy : TidyRow inside) :
    TidyRow (waiting.dissolve inside) := by
  have opened := before.pushText waiting.opener.source
  have pushed : ∀ nodes : List Node, (∀ node ∈ nodes, node.Tidy) →
      TidyRow
        (nodes.foldr Stencil.push
          (Stencil.pushText waiting.opener.source waiting.before)) := by
    intro nodes each
    induction nodes with
    | nil => exact opened
    | cons node rest ih =>
        obtain ⟨first, others⟩ := List.forall_mem_cons.1 each
        exact (ih others).push first
  exact pushed inside tidy.each

end TidyRow

end Node

namespace Nesting

/-- All rows read so far are tidy. -/
structure Tidy (nesting : Nesting) : Prop where
  nodes : Node.TidyRow nesting.nodes
  before : ∀ waiting ∈ nesting.waiting, Node.TidyRow waiting.before

namespace Tidy

/-- Giving up sections keeps all rows tidy. -/
theorem dissolveAll
    {nodes : List Node}
    {inner outer : List OpenBlock}
    (tidy : Tidy ⟨nodes, inner ++ outer⟩) :
    Tidy ⟨OpenBlock.dissolveAll inner nodes, outer⟩ := by
  induction inner generalizing nodes with
  | nil => exact tidy
  | cons innermost rest ih =>
      obtain ⟨before, others⟩ := List.forall_mem_cons.1 tidy.before
      exact ih ⟨before.dissolve tidy.nodes, others⟩

/-- Closing a section keeps all rows tidy. -/
theorem close?
    {key : Key}
    {nodes : List Node}
    {waiting : List OpenBlock}
    {closed : Nesting}
    (tidy : Tidy ⟨nodes, waiting⟩)
    (found : Nesting.close? key nodes waiting = some closed) :
    closed.Tidy := by
  obtain ⟨inner, closing, outer, rfl, _, _, rfl⟩ := exists_of_close? found
  have given := tidy.dissolveAll
  obtain ⟨before, others⟩ := List.forall_mem_cons.1 given.before
  have inside : Node.Tidy (.block closing.key closing.inverted
      (OpenBlock.dissolveAll inner nodes).reverse) :=
    Node.tidy_block_iff.2 given.nodes.reverse
  exact ⟨before.cons inside fun _ => trivial, others⟩

/-- Reading one more piece keeps all rows tidy. -/
theorem read
    {nesting : Nesting}
    (tidy : nesting.Tidy)
    (piece : Piece) :
    (nesting.read piece).Tidy := by
  rcases piece with characters | ⟨_ | inverted | _, key⟩
  · exact ⟨tidy.nodes.pushText characters, tidy.before⟩
  · exact ⟨tidy.nodes.cons trivial fun _ => trivial, tidy.before⟩
  · exact ⟨.nil, List.forall_mem_cons.2 ⟨tidy.nodes, tidy.before⟩⟩
  · rw [Nesting.read]
    split
    · next closed found => exact tidy.close? found
    · exact ⟨tidy.nodes.pushText _, tidy.before⟩

/-- Reading pieces keeps all rows tidy. -/
theorem foldl_read
    {nesting : Nesting}
    (tidy : nesting.Tidy)
    (pieces : List Piece) :
    (pieces.foldl Nesting.read nesting).Tidy := by
  induction pieces generalizing nesting with
  | nil => exact tidy
  | cons piece rest ih => exact ih (tidy.read piece)

/-- The nodes of everything read form a tidy row. -/
theorem finish
    {nesting : Nesting}
    (tidy : nesting.Tidy) :
    Node.TidyRow nesting.finish := by
  have all : Tidy ⟨nesting.nodes, nesting.waiting ++ []⟩ := by
    simpa using tidy
  rw [finish_eq]
  exact all.dissolveAll.nodes.reverse

end Tidy

end Nesting

/-- The nodes of a text form a tidy row. -/
theorem Node.tidyRow_nodesOf (text : List Char) : TidyRow (nodesOf text) := by
  have beginning : Nesting.Tidy {} := ⟨.nil, by simp⟩
  exact (beginning.foldl_read (pieces text)).finish

end Stencil
end BlackHoleScene
