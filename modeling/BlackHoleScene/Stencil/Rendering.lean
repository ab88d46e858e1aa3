import BlackHoleScene.Stencil.Nesting

/-!
# Rendering

A stencil is rendered against flags, which decide which sections stay, and
scalars, whose text takes the place of value tags. A tag whose key is not bound
stays as it is written, and what a section of an unbound key holds is rendered
all the same.
-/

namespace BlackHoleScene

/-- Bindings of a stencil: the truth of the flags and the text of the scalars,
for the keys that are bound. -/
structure Bindings where
  flag? : Stencil.Key → Option Bool
  scalar? : Stencil.Key → Option (List Char)

namespace Bindings

/-- Bindings from lists of names with what they are bound to. -/
def ofLists
    (flags : List (String × Bool))
    (scalars : List (String × String)) : Bindings where
  flag? := fun key => flags.lookup key.name
  scalar? := fun key => (scalars.lookup key.name).map String.toList

end Bindings

namespace Stencil

namespace Node

mutual

/-- The text of a node under bindings. -/
def render (bindings : Bindings) : Node → List Char
  | .text characters => characters
  | .value key => (bindings.scalar? key).getD (Tag.mk .value key).source
  | .block key inverted children =>
      match bindings.flag? key with
      | some holds =>
          if holds = inverted then [] else renderAll bindings children
      | none =>
          (Tag.mk (.opener inverted) key).source ++
            renderAll bindings children ++
            (Tag.mk .closer key).source

/-- The text of nodes in a row. -/
def renderAll (bindings : Bindings) : List Node → List Char
  | [] => []
  | node :: rest => render bindings node ++ renderAll bindings rest

end

end Node

/-- Render a text as a stencil. -/
def renderText (bindings : Bindings) (text : List Char) : List Char :=
  Node.renderAll bindings (nodesOf text)

end Stencil

/-- Program text with tags in it, cut into nodes once and for all. -/
structure Stencil where
  nodes : List Stencil.Node

namespace Stencil

/-- The stencil of a text. -/
def ofString (text : String) : Stencil := ⟨nodesOf text.toList⟩

/-- The text of a stencil under bindings. -/
def render (stencil : Stencil) (bindings : Bindings) : String :=
  String.ofList (Node.renderAll bindings stencil.nodes)

/-- The text that a stencil is read from. -/
def source (stencil : Stencil) : String :=
  String.ofList (Node.sourceAll stencil.nodes)

end Stencil

end BlackHoleScene
