import LogShipper.Number.Integer
import LogShipper.Text.Hexadecimal

/-!
# ASCII

Header values are sent in ASCII, and a text that is not is refused at its first run of code points
past it.
-/

namespace LogShipper.Ascii

/-- The first run of code points past ASCII in a text: its position, its first code point and its
length. -/
structure Fault where
  position : Nat
  first : CodePoint
  length : Nat
  deriving DecidableEq, Repr

/-- A code point by its number, with as many digits as it needs of two, four and eight. -/
def escaped (c : CodePoint) : Text :=
  if c.value < 0x100 then "\\x" ++ Text.hex false 2 c.value
  else if c.value < 0x10000 then "\\u" ++ Text.hex false 4 c.value
  else "\\U" ++ Text.hex false 8 c.value

/-- One code point is shown by its number, more of them by their positions. -/
def Fault.message (fault : Fault) : Text :=
  let place : Text :=
    if fault.length = 1 then
      "character '" ++ escaped fault.first ++ "' in position " ++ Integer.toText fault.position
    else
      "characters in position " ++ Integer.toText fault.position ++ "-" ++
        Integer.toText (fault.position + fault.length - 1)
  "'ascii' codec can't encode " ++ place ++ ": ordinal not in range(128)"

/-- The first run past ASCII. -/
def fault? (t : Text) : Option Fault :=
  match t.span CodePoint.isAscii with
  | (_, []) => none
  | (before, c :: rest) =>
    some ⟨before.length, c, (rest.takeWhile (!·.isAscii)).length + 1⟩

end LogShipper.Ascii
