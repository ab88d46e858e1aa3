import BlackHoleScene.Decimal.Shortest
import BlackHoleScene.Text.Quoted
import BlackHoleScene.Value.Basic

/-!
# Written values

`Value.written` shows a value inside a message, with texts quoted.
`Value.scalarText` is the text that stands for a value in program source, where
texts stand for themselves and truth values are in small letters. Both are
for values with `Value.isWritable`; a refusal that would show another one stops:
`Control.refuse`.
-/

namespace BlackHoleScene

/-- A number with its kind visible: whole scalars keep a point. Integers are
written up to the digit limit. -/
def Number.written : Number Float → String
  | .truth holds => if holds then "True" else "False"
  | .whole n => toString n
  | .real x => Decimal.shortest x

namespace Value

mutual

/-- A writable value inside a message. -/
def written : Value Float → String
  | .none => "None"
  | .number x => x.written
  | .text characters => String.ofList (Text.quoted characters.toList)
  | .list items => "[" ++ ", ".intercalate (writtenItems items) ++ "]"

/-- The items of a list inside a message. -/
def writtenItems : List (Value Float) → List String
  | [] => []
  | v :: items => written v :: writtenItems items

end

/-- The text of a writable value in program source. -/
def scalarText : Value Float → String
  | .number (.truth holds) => if holds then "true" else "false"
  | .text characters => characters
  | other => other.written

end Value

end BlackHoleScene
