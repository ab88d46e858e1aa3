import BlackHoleScene.Stencil.Piece

/-!
# Nodes

A stencil is a list of nodes: plain text, places for scalars, and sections that
hold nodes of their own. `Node.source` prints a node in the form it is read
from.
-/

namespace BlackHoleScene
namespace Stencil

/-- A part of a stencil. -/
inductive Node
  | text (characters : List Char)
  /-- The place of the scalar bound to the key. -/
  | value (key : Key)
  /-- A section, from its opening tag to its closing one. -/
  | block
      (key : Key)
      (inverted : Bool)
      (children : List Node)

namespace Node

mutual

/-- The written form of a node. -/
def source : Node → List Char
  | .text characters => characters
  | .value key => (Tag.mk .value key).source
  | .block key inverted children =>
      (Tag.mk (.opener inverted) key).source ++ sourceAll children ++
        (Tag.mk .closer key).source

/-- The written form of nodes in a row. -/
def sourceAll : List Node → List Char
  | [] => []
  | node :: rest => source node ++ sourceAll rest

end

end Node

end Stencil
end BlackHoleScene
