import BlackHoleScene.Text.Printable

/-!
# Quoted text

Text inside a message stands between quotes. Single quotes are the rule; text
that holds a single quote and no double one goes between double quotes. Inside,
the quote and the backslash are escaped, line ends and tabs have short escapes,
and every other character that is not printable is given by its code point in
two, four or eight hexadecimal digits.
-/

namespace BlackHoleScene
namespace Text

/-- The quote that a text is put between. -/
def quoteFor (text : List Char) : Char :=
  if text.contains '\'' && !text.contains '"' then '"' else '\''

/-- Hexadecimal digits of a code point, at least `width` of them. -/
def hexDigits (width code : Nat) : List Char :=
  let written := Nat.toDigits 16 code
  List.replicate (width - written.length) '0' ++ written

/-- Escape of a character by its code point. -/
def escapeCode (c : Char) : List Char :=
  if c.toNat < 0x100 then '\\' :: 'x' :: hexDigits 2 c.toNat
  else if c.toNat < 0x10000 then '\\' :: 'u' :: hexDigits 4 c.toNat
  else '\\' :: 'U' :: hexDigits 8 c.toNat

/-- One character of a text that stands between the given quotes. -/
def quoteChar (quote c : Char) : List Char :=
  if c = quote ∨ c = '\\' then ['\\', c]
  else if c = '\n' then ['\\', 'n']
  else if c = '\t' then ['\\', 't']
  else if c = '\r' then ['\\', 'r']
  else if isPrintable c then [c]
  else escapeCode c

/-- A text between quotes. -/
def quoted (text : List Char) : List Char :=
  let quote := quoteFor text
  quote :: (text.flatMap (quoteChar quote) ++ [quote])

example : quoted ['a', '\'', 'b'] = ['"', 'a', '\'', 'b', '"'] := by
  decide +kernel

end Text
end BlackHoleScene
