import Reckoner.Text.CodeSet

/-!
# Quoted text

How a message quotes text: between apostrophes, or between quotation marks when the text holds an
apostrophe and no quotation mark. The quoting mark, the backslash and everything that is not
printable are escaped.
-/

namespace Reckoner

namespace Text

/-- The mark that quotes the text with the fewest escapes. -/
def quoteMark (text : Text) : CodePoint :=
  if ('\'' : CodePoint) ∈ text ∧ ('"' : CodePoint) ∉ text then '"' else '\''

/-- A code point between the marks. -/
def quotedPoint (mark c : CodePoint) : Text :=
  if c = mark ∨ c = '\\' then ['\\', c]
  else if c = '\t' then "\\t"
  else if c = '\n' then "\\n"
  else if c = '\r' then "\\r"
  else if isPrintable c then [c]
  else if c.toNat < 0x100 then "\\x" ++ hex 2 c.toNat
  else if c.toNat < 0x10000 then "\\u" ++ hex 4 c.toNat
  else "\\U" ++ hex 8 c.toNat

/-- Text in quotes, with escapes for what would be misread or not seen. -/
def quoted (text : Text) : Text :=
  let mark := quoteMark text
  mark :: text.flatMap (quotedPoint mark) ++ [mark]

end Text

end Reckoner
