import LogShipper.Text.Hexadecimal
import LogShipper.Text.Printable

/-!
# Quoted text

Messages show a text between quotes, on one line and without doubt about what it holds.  The quote
is the single one unless the text holds that and not the double one.  A backslash and the quote
are escaped, line feed, carriage return and tab have letters, and what is not printable is shown
by its number with two, four or eight hexadecimal digits.
-/

namespace LogShipper.Text

/-- How a code point is shown between the given quotes. -/
def showQuoted (quote : Char) (c : CodePoint) : Text :=
  if c = .char quote ∨ c = .char '\\' then [.char '\\', c]
  else if c = .char '\n' then "\\n"
  else if c = .char '\r' then "\\r"
  else if c = .char '\t' then "\\t"
  else if c.isPrintable then [c]
  else if c.value < 0x100 then "\\x" ++ hex false 2 c.value
  else if c.value < 0x10000 then "\\u" ++ hex false 4 c.value
  else "\\U" ++ hex false 8 c.value

/-- The quote that needs fewer escapes. -/
def quoteFor (t : Text) : Char :=
  if .char '\'' ∈ t ∧ .char '"' ∉ t then '"' else '\''

/-- The text between quotes. -/
def quoted (t : Text) : Text :=
  let quote := quoteFor t
  .char quote :: t.flatMap (showQuoted quote) ++ [.char quote]

end LogShipper.Text
