import LogShipper.Text.CodePoint

/-!
# Lines

A line ends with a line feed; the last one may lack it.  Files and standard input also end lines
with a carriage return, alone or before a line feed, so these become line feeds first.
-/

namespace LogShipper.Text

/-- The lines of a text, without their line feeds. -/
def lines (t : Text) : List Text :=
  let pieces := splitOn '\n' t
  if pieces.getLast? = some [] then pieces.dropLast else pieces

/-- The lines that are ended by a line feed. -/
def endedLines (t : Text) : List Text :=
  (splitOn '\n' t).dropLast

/-- Every carriage return, with the line feed after it if there is one, becomes a line feed. -/
def unifyLineEnds : Text → Text
  | [] => []
  | .char '\r' :: .char '\n' :: rest => .char '\n' :: unifyLineEnds rest
  | .char '\r' :: rest => .char '\n' :: unifyLineEnds rest
  | c :: rest => c :: unifyLineEnds rest

/-- Takes off a carriage return at the end, of which it is open whether a line feed follows. -/
def dropOpenReturn (t : Text) : Text :=
  if t.getLast? = some (.char '\r') then t.dropLast else t

theorem lines_empty : lines [] = [] := rfl

example : lines "a\n\nb" = (["a", "", "b"] : List Text) := rfl

end LogShipper.Text
