import BlackHoleScene.Stencil.Node

/-!
# From pieces to nodes

Pieces are read from left to right. An opening tag opens a section; a closing
tag closes the innermost open section of its key. Whatever finds no partner is
plain text: a closing tag of a key that is not open, and every opening tag that
is crossed by the closing of a section around it or is still open at the end.
The nodes inside such a section then belong to what surrounds it.

While reading, rows of nodes are held newest first.
-/

namespace BlackHoleScene
namespace Stencil

/-- Add plain text after nodes, newest first. Empty text adds nothing, and text
after text is merged with it. -/
def pushText (characters : List Char) (nodes : List Node) : List Node :=
  match characters, nodes with
  | [], nodes => nodes
  | characters, .text earlier :: rest => .text (earlier ++ characters) :: rest
  | characters, nodes => .text characters :: nodes

/-- Add a node after nodes, newest first. -/
def push : Node → List Node → List Node
  | .text characters, nodes => pushText characters nodes
  | node, nodes => node :: nodes

/-- A section that waits for its closing tag. -/
structure OpenBlock where
  key : Key
  inverted : Bool
  /-- The nodes before the opening tag, newest first. -/
  before : List Node

namespace OpenBlock

/-- The opening tag. -/
def opener (waiting : OpenBlock) : Tag :=
  ⟨.opener waiting.inverted, waiting.key⟩

/-- Give up on the section: its opening tag becomes text between the nodes
before it and those inside. -/
def dissolve (waiting : OpenBlock) (inside : List Node) : List Node :=
  inside.foldr push (pushText waiting.opener.source waiting.before)

/-- Close the section around the nodes inside. -/
def close (waiting : OpenBlock) (inside : List Node) : List Node :=
  .block waiting.key waiting.inverted inside.reverse :: waiting.before

end OpenBlock

/-- What has been read so far: the nodes since the innermost open tag, newest
first, and the open sections, innermost first. -/
structure Nesting where
  nodes : List Node := []
  waiting : List OpenBlock := []

namespace Nesting

/-- Close the innermost open section of a key, dissolving those inside it;
`none` when no such section is open. -/
def close?
    (key : Key)
    (nodes : List Node) :
    List OpenBlock → Option Nesting
  | [] => none
  | innermost :: outer =>
      if innermost.key = key then some ⟨innermost.close nodes, outer⟩
      else close? key (innermost.dissolve nodes) outer

/-- Take in one more piece. -/
def read (nesting : Nesting) : Piece → Nesting
  | .gap characters =>
      { nesting with nodes := pushText characters nesting.nodes }
  | .mark ⟨.value, key⟩ =>
      { nesting with nodes := .value key :: nesting.nodes }
  | .mark ⟨.opener inverted, key⟩ =>
      ⟨[], ⟨key, inverted, nesting.nodes⟩ :: nesting.waiting⟩
  | .mark ⟨.closer, key⟩ =>
      match close? key nesting.nodes nesting.waiting with
      | some closed => closed
      | none =>
          { nesting with
            nodes := pushText (Tag.mk .closer key).source nesting.nodes }

/-- The nodes of everything read, oldest first; sections still open dissolve. -/
def finish (nesting : Nesting) : List Node :=
  (nesting.waiting.foldl (fun nodes waiting => waiting.dissolve nodes)
    nesting.nodes).reverse

end Nesting

/-- The nodes of a text. -/
def nodesOf (text : List Char) : List Node :=
  ((pieces text).foldl Nesting.read {}).finish

end Stencil
end BlackHoleScene
