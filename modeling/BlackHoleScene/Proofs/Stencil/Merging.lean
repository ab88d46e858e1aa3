import BlackHoleScene.Proofs.Stencil.Offset

/-!
# Merging text

Reading a stencil puts plain text next to plain text, where the two are merged,
and gives up open sections, whose tags and nodes then join the row around them.
Up to the merging of text, giving up sections only puts rows one after the
other: `OpenBlock.merges_dissolveAll`. A closing tag gives up those inside the
section that it closes: `Nesting.exists_of_close?`.
-/

namespace BlackHoleScene
namespace Stencil

/-- The second row is the first one with text merged in places. -/
inductive Merges : List Node → List Node → Prop
  | refl (nodes : List Node) : Merges nodes nodes
  | trans
      {first second third : List Node}
      (left : Merges first second)
      (right : Merges second third) :
      Merges first third
  | append
      {before merged after joined : List Node}
      (left : Merges before merged)
      (right : Merges after joined) :
      Merges (before ++ after) (merged ++ joined)
  /-- Text after text is one text. -/
  | join (earlier later : List Char) :
      Merges [.text earlier, .text later] [.text (earlier ++ later)]
  /-- Empty text is no node. -/
  | empty : Merges [.text []] []

namespace Merges

theorem of_eq
    {first second : List Node}
    (same : first = second) :
    Merges first second := same ▸ .refl first

/-- Merging leaves the written form as it is. -/
theorem sourceAll_eq
    {nodes merged : List Node}
    (merges : Merges nodes merged) :
    Node.sourceAll merged = Node.sourceAll nodes := by
  induction merges with
  | refl nodes => rfl
  | trans left right first second => rw [second, first]
  | append left right first second =>
      rw [Node.sourceAll_append, Node.sourceAll_append, first, second]
  | join earlier later => simp
  | empty => rfl

end Merges

/-- Pushed text follows the row. -/
theorem merges_pushText
    (characters : List Char)
    (nodes : List Node) :
    Merges (nodes.reverse ++ [.text characters])
      (pushText characters nodes).reverse := by
  unfold pushText
  split
  · simpa using Merges.append (.refl nodes.reverse) .empty
  · next earlier rest _ =>
      simpa using Merges.append (.refl rest.reverse) (.join earlier characters)
  · simpa using Merges.refl (nodes.reverse ++ [.text characters])

/-- A pushed node follows the row. -/
theorem merges_push
    (node : Node)
    (nodes : List Node) :
    Merges (nodes.reverse ++ [node]) (push node nodes).reverse := by
  cases node with
  | text characters => exact merges_pushText characters nodes
  | value key => simpa [push] using Merges.refl (nodes.reverse ++ [.value key])
  | block key inverted children =>
      simpa [push] using
        Merges.refl (nodes.reverse ++ [.block key inverted children])

/-- Nodes pushed one after the other follow the row. -/
theorem merges_foldr_push (inside nodes : List Node) :
    Merges (nodes.reverse ++ inside.reverse)
      (inside.foldr push nodes).reverse := by
  induction inside with
  | nil => simpa using Merges.refl nodes.reverse
  | cons node rest ih =>
      have pushed := merges_push node (rest.foldr push nodes)
      have followed : Merges (nodes.reverse ++ rest.reverse ++ [node])
          ((rest.foldr push nodes).reverse ++ [node]) :=
        ih.append (.refl [node])
      simpa using followed.trans pushed

namespace OpenBlock

/-- The nodes before an open section, and its opening tag as text. -/
def outline (waiting : OpenBlock) : List Node :=
  waiting.before.reverse ++ [.text waiting.opener.source]

/-- The nodes of a section that is given up follow its opening tag. -/
theorem merges_dissolve
    (waiting : OpenBlock)
    (inside : List Node) :
    Merges (waiting.outline ++ inside.reverse)
      (waiting.dissolve inside).reverse := by
  have opened := merges_pushText waiting.opener.source waiting.before
  have followed : Merges (waiting.outline ++ inside.reverse)
      ((pushText waiting.opener.source waiting.before).reverse ++
        inside.reverse) :=
    opened.append (.refl inside.reverse)
  exact followed.trans (merges_foldr_push inside _)

/-- Give up sections, innermost first. -/
def dissolveAll (waiting : List OpenBlock) (nodes : List Node) : List Node :=
  waiting.foldl (fun nodes innermost => innermost.dissolve nodes) nodes

@[simp] theorem dissolveAll_nil (nodes : List Node) :
    dissolveAll [] nodes = nodes := rfl

@[simp] theorem dissolveAll_cons
    (innermost : OpenBlock)
    (outer : List OpenBlock)
    (nodes : List Node) :
    dissolveAll (innermost :: outer) nodes =
      dissolveAll outer (innermost.dissolve nodes) := rfl

/-- The nodes before and between open sections, with their opening tags as text.
-/
def outlineAll : List OpenBlock → List Node
  | [] => []
  | innermost :: outer => outlineAll outer ++ innermost.outline

@[simp] theorem outlineAll_nil : outlineAll [] = [] := rfl

@[simp] theorem outlineAll_cons
    (innermost : OpenBlock)
    (outer : List OpenBlock) :
    outlineAll (innermost :: outer) = outlineAll outer ++ innermost.outline :=
  rfl

theorem outlineAll_append (inner outer : List OpenBlock) :
    outlineAll (inner ++ outer) = outlineAll outer ++ outlineAll inner := by
  induction inner with
  | nil => simp
  | cons innermost rest ih => simp [ih]

/-- The nodes of sections that are given up follow their opening tags. -/
theorem merges_dissolveAll
    (waiting : List OpenBlock)
    (nodes : List Node) :
    Merges (outlineAll waiting ++ nodes.reverse)
      (dissolveAll waiting nodes).reverse := by
  induction waiting generalizing nodes with
  | nil => simpa using Merges.refl nodes.reverse
  | cons innermost outer ih =>
      have followed :
          Merges (outlineAll outer ++ (innermost.outline ++ nodes.reverse))
          (outlineAll outer ++ (innermost.dissolve nodes).reverse) :=
        .append (.refl _) (innermost.merges_dissolve nodes)
      simpa using followed.trans (ih (innermost.dissolve nodes))

end OpenBlock

namespace Nesting

theorem finish_eq (nesting : Nesting) :
    nesting.finish =
      (OpenBlock.dissolveAll nesting.waiting nesting.nodes).reverse := rfl

/-- What is closed is the innermost open section of the key, after all sections
inside it were given up. -/
theorem exists_of_close?
    {key : Key}
    {nodes : List Node}
    {waiting : List OpenBlock}
    {closed : Nesting}
    (found : close? key nodes waiting = some closed) :
    ∃ inner closing outer,
      waiting = inner ++ closing :: outer ∧
        (∀ other ∈ inner, other.key ≠ key) ∧
        closing.key = key ∧
        closed =
          ⟨closing.close (OpenBlock.dissolveAll inner nodes), outer⟩ := by
  induction waiting generalizing nodes with
  | nil => cases found
  | cons innermost outer ih =>
      rw [close?] at found
      split at found
      · next same =>
          cases found
          exact ⟨[], innermost, outer, rfl, by simp, same, rfl⟩
      · next different =>
          obtain ⟨inner, closing, others, rfl, absent, same, rfl⟩ :=
            ih found
          refine ⟨innermost :: inner, closing, others, rfl, ?_, same, rfl⟩
          exact List.forall_mem_cons.2 ⟨different, absent⟩

/-- Nothing is closed only when no section of the key is open. -/
theorem key_ne_of_close?
    {key : Key}
    {nodes : List Node}
    {waiting : List OpenBlock}
    (missing : close? key nodes waiting = none) :
    ∀ other ∈ waiting, other.key ≠ key := by
  induction waiting generalizing nodes with
  | nil => simp
  | cons innermost outer ih =>
      rw [close?] at missing
      split at missing
      · cases missing
      · next different =>
          exact List.forall_mem_cons.2 ⟨different, ih missing⟩

end Nesting

end Stencil
end BlackHoleScene
