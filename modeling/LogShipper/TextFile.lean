import LogShipper.Text.Lines
import LogShipper.Text.Utf8

/-!
# Text files

A file of text is UTF-8, and every kind of line end counts as a line feed.  It is read in portions,
and each is decoded as a whole: a fault in it is noticed when all lines that the portions before it
complete have been read, and its position is counted from where that portion begins, or from the
character that the portion before it has left incomplete.
-/

namespace LogShipper

namespace Utf8

/-- Whether bytes are a surrogate but for its last byte.  It is no character, but that is noticed
only when more bytes follow, or none do. -/
def isCutSurrogate : Bytes → Bool
  | [b₀, b₁] => b₀ == 0xED && 0xA0 ≤ b₁ && b₁ < 0xC0
  | _ => false

/-- The bytes of a portion with which the next one has to begin: those of a character that breaks
off at the end.  There is no next portion if anything else is wrong. -/
def pending? (bytes : Bytes) : Option Bytes :=
  match (read bytes).fault with
  | none => some []
  | some fault =>
    let left := bytes.drop fault.position
    if fault.reason = .endOfData ∨ isCutSurrogate left then some left else none

end Utf8

/-- What can be read of a file: its lines, and what is wrong behind them. -/
structure TextFile where
  lines : List Text
  fault : Option DecodeFault
  deriving Repr

namespace TextFile

/-- How many bytes of a file are read at a time. -/
def portionSize : Nat := 8192

/-- The portions in which a file is read. -/
def portions (bytes : Bytes) : List Bytes :=
  if bytes.isEmpty then [] else bytes.take portionSize :: portions (bytes.drop portionSize)
termination_by bytes.length
decreasing_by
  rename_i hsome
  have hpos : 0 < bytes.length := List.length_pos_iff.2 fun hnil => hsome (List.isEmpty_iff.2 hnil)
  rw [List.length_drop]
  exact Nat.sub_lt hpos (by decide)

/-- Reads portions one after the other, before the first of which some bytes are pending.  Of a
portion in which a fault is met nothing is read. -/
def readPortions (pending : Bytes) : List Bytes → Utf8.Reading
  | [] => Utf8.read pending
  | portion :: later =>
    let bytes := pending ++ portion
    let reading := Utf8.read bytes
    match Utf8.pending? bytes with
    | none => ⟨[], reading.fault⟩
    | some pending =>
      let rest := readPortions pending later
      { rest with text := reading.text ++ rest.text }

/-- The lines of a file.  A line that has not ended when a fault is met is lost. -/
def ofPortions (portions : List Bytes) : TextFile :=
  let reading := readPortions [] portions
  match reading.fault with
  | none => ⟨(Text.unifyLineEnds reading.text).lines, none⟩
  | some fault =>
    ⟨(Text.unifyLineEnds (Text.dropOpenReturn reading.text)).endedLines, some fault⟩

def ofBytes (bytes : Bytes) : TextFile :=
  ofPortions (portions bytes)

/-- The whole text of a file. -/
def content (bytes : Bytes) : Except DecodeFault Text :=
  let reading := readPortions [] (portions bytes)
  match reading.fault with
  | none => .ok (Text.unifyLineEnds reading.text)
  | some fault => .error fault

end TextFile

end LogShipper
