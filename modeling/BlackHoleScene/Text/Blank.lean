import BlackHoleScene.Text.CodeRange

/-!
# Blank characters

The characters that count as white space in text from outside: the ASCII
controls for tabs, line ends and separators, and the blank characters of
Unicode.
-/

namespace BlackHoleScene
namespace Text

/-- Runs of blank characters. -/
def blankRuns : List CodeRange :=
  CodeRange.ofPairs [
    (0x9, 0xd), (0x1c, 0x20), (0x85, 0x85), (0xa0, 0xa0), (0x1680, 0x1680),
    (0x2000, 0x200a),
    (0x2028, 0x2029), (0x202f, 0x202f), (0x205f, 0x205f), (0x3000, 0x3000)]

/-- The character is white space. -/
def isBlank (c : Char) : Bool :=
  CodeRange.anyContains blankRuns c

/-- Drop the characters of a class at both ends of a text. -/
def trimBy (drop : Char → Bool) (text : List Char) : List Char :=
  ((text.dropWhile drop).reverse.dropWhile drop).reverse

/-- Drop the blanks at both ends of a text. -/
def trim (text : List Char) : List Char := trimBy isBlank text

example : trim "\t on\n".toList = "on".toList := by decide +kernel

end Text
end BlackHoleScene
