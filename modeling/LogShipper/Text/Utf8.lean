import LogShipper.Text.DecodeFault

/-!
# UTF-8

`Utf8.encode` writes a text and refuses it at its first run of surrogates; `Utf8.decode` reads
bytes and refuses them at the first place where no character begins or where one breaks off.  A
lenient reading also takes the three-byte forms of surrogates.
-/

namespace LogShipper.Utf8

/-! ## 1. Writing -/

/-- The bytes of one character. -/
def encodeChar (c : Char) : Bytes :=
  let n := c.toNat
  if n < 0x80 then [n.toUInt8]
  else if n < 0x800 then [(0xC0 + n / 0x40).toUInt8, (0x80 + n % 0x40).toUInt8]
  else if n < 0x10000 then
    [(0xE0 + n / 0x1000).toUInt8, (0x80 + n / 0x40 % 0x40).toUInt8, (0x80 + n % 0x40).toUInt8]
  else
    [(0xF0 + n / 0x40000).toUInt8, (0x80 + n / 0x1000 % 0x40).toUInt8,
      (0x80 + n / 0x40 % 0x40).toUInt8, (0x80 + n % 0x40).toUInt8]

/-- The first run of surrogates in a text: its position, its first surrogate and its length. -/
structure EncodeFault where
  position : Nat
  first : Fin 2048
  length : Nat
  deriving DecidableEq, Repr

namespace EncodeFault

/-- One surrogate is shown by its number, more of them by their positions. -/
def message (fault : EncodeFault) : Text :=
  let place : Text :=
    if fault.length = 1 then
      "character '\\u" ++ Text.hex false 4 (0xD800 + fault.first) ++ "' in position " ++
        Integer.toText fault.position
    else
      "characters in position " ++ Integer.toText fault.position ++ "-" ++
        Integer.toText (fault.position + fault.length - 1)
  "'utf-8' codec can't encode " ++ place ++ ": surrogates not allowed"

end EncodeFault

/-- Writes the text, whose first code point has the given position. -/
def encodeFrom (position : Nat) : Text → Except EncodeFault Bytes
  | [] => .ok []
  | .char c :: rest => (encodeFrom (position + 1) rest).map (encodeChar c ++ ·)
  | .surrogate s :: rest =>
    .error ⟨position, s, (rest.takeWhile CodePoint.isSurrogate).length + 1⟩

/-- The UTF-8 form of a text without surrogates. -/
def encode (t : Text) : Except EncodeFault Bytes :=
  encodeFrom 0 t

/-! ## 2. Reading one character -/

def isContinuation (b : UInt8) : Bool :=
  0x80 ≤ b && b < 0xC0

/-- Whether the second byte of a character may follow its first: it must not make the form longer
than needed, name a surrogate, or pass the last code point. -/
def isSecond (first second : UInt8) : Bool :=
  isContinuation second &&
    !(first == 0xE0 && second < 0xA0) && !(first == 0xED && 0xA0 ≤ second) &&
    !(first == 0xF0 && second < 0x90) && !(first == 0xF4 && 0x90 ≤ second)

/-- How many bytes a character with this first byte has; with the others none begins. -/
def width? (first : UInt8) : Option Nat :=
  if first < 0x80 then some 1
  else if first < 0xC2 then none
  else if first < 0xE0 then some 2
  else if first < 0xF0 then some 3
  else if first < 0xF5 then some 4
  else none

/-- The bits that a continuation byte carries. -/
def payload (b : UInt8) : Nat :=
  b.toNat % 0x40

/-- What stands at the beginning of some bytes. -/
inductive Head where
  | point (c : CodePoint) (rest : Bytes)
  | broken (bytes : Bytes) (reason : DecodeReason)

/-- Reads one character of more than one byte, given its first byte. -/
def headMulti (first : UInt8) (width : Nat) (rest : Bytes) : Head :=
  match rest with
  | [] => .broken [first] .endOfData
  | b₁ :: rest =>
    if !isSecond first b₁ then .broken [first] .continuationByte
    else if width = 2 then
      .point (Char.ofNat (first.toNat % 0x20 * 0x40 + payload b₁)) rest
    else
      match rest with
      | [] => .broken [first, b₁] .endOfData
      | b₂ :: rest =>
        if !isContinuation b₂ then .broken [first, b₁] .continuationByte
        else if width = 3 then
          .point (Char.ofNat (first.toNat % 0x10 * 0x1000 + payload b₁ * 0x40 + payload b₂)) rest
        else
          match rest with
          | [] => .broken [first, b₁, b₂] .endOfData
          | b₃ :: rest =>
            if !isContinuation b₃ then .broken [first, b₁, b₂] .continuationByte
            else
              .point
                (Char.ofNat (first.toNat % 0x08 * 0x40000 + payload b₁ * 0x1000
                  + payload b₂ * 0x40 + payload b₃)) rest

/-- The surrogate whose three-byte form stands here. -/
def surrogate? (first : UInt8) : Bytes → Option (CodePoint × Bytes)
  | b₁ :: b₂ :: rest =>
    if first == 0xED && 0xA0 ≤ b₁ && b₁ < 0xC0 && isContinuation b₂ then
      some (.ofNat (0xD000 + payload b₁ * 0x40 + payload b₂), rest)
    else none
  | _ => none

/-- Reads what stands at the beginning of a byte and the bytes after it. -/
def head (lenient : Bool) (first : UInt8) (rest : Bytes) : Head :=
  match if lenient then surrogate? first rest else none with
  | some (c, after) => .point c after
  | none =>
    match width? first with
    | none => .broken [first] .startByte
    | some 1 => .point (Char.ofNat first.toNat) rest
    | some width => headMulti first width rest

theorem headMulti_shorter {first : UInt8} {width : Nat} {rest after : Bytes} {c : CodePoint}
    (h : headMulti first width rest = .point c after) : after.length < rest.length + 1 := by
  unfold headMulti at h
  repeat' split at h
  all_goals first
    | (simp only [Head.point.injEq] at h
       obtain ⟨_, rfl⟩ := h
       simp only [List.length_cons]
       omega)
    | simp at h

theorem surrogate?_shorter {first : UInt8} {rest after : Bytes} {c : CodePoint}
    (h : surrogate? first rest = some (c, after)) : after.length < rest.length + 1 := by
  unfold surrogate? at h
  split at h
  · split at h
    · simp only [Option.some.injEq, Prod.mk.injEq] at h
      obtain ⟨_, rfl⟩ := h
      simp only [List.length_cons]
      omega
    · simp at h
  · simp at h

theorem head_shorter {lenient : Bool} {first : UInt8} {rest after : Bytes} {c : CodePoint}
    (h : head lenient first rest = .point c after) : after.length < rest.length + 1 := by
  unfold head at h
  split at h
  next found =>
    simp only [Head.point.injEq] at h
    obtain ⟨rfl, rfl⟩ := h
    cases lenient
    · simp at found
    · exact surrogate?_shorter (by simpa using found)
  next =>
    split at h
    · simp at h
    · simp only [Head.point.injEq] at h
      obtain ⟨_, rfl⟩ := h
      omega
    · exact headMulti_shorter h

/-! ## 3. Reading -/

/-- What was read of some bytes: the text before the first fault, and the fault. -/
structure Reading where
  text : Text
  fault : Option DecodeFault
  deriving Repr

/-- Reads bytes, the first of which has the given position, up to the first fault. -/
def readFrom (lenient : Bool) (position : Nat) : Bytes → Reading
  | [] => ⟨[], none⟩
  | first :: rest =>
    match h : head lenient first rest with
    | .broken bytes reason => ⟨[], some ⟨.utf8, position, bytes, reason⟩⟩
    | .point c after =>
      let reading := readFrom lenient (position + (rest.length + 1 - after.length)) after
      { reading with text := c :: reading.text }
termination_by bytes => bytes.length
decreasing_by simpa using head_shorter h

/-- Reads bytes up to the first fault. -/
def read (bytes : Bytes) : Reading :=
  readFrom false 0 bytes

/-- The text, if nothing is wrong. -/
def Reading.result (reading : Reading) : Except DecodeFault Text :=
  match reading.fault with
  | none => .ok reading.text
  | some fault => .error fault

/-- The text of well-formed bytes. -/
def decode (bytes : Bytes) : Except DecodeFault Text :=
  (read bytes).result

/-- The text of bytes that are well-formed but for the forms of surrogates. -/
def decodeLenient (bytes : Bytes) : Except DecodeFault Text :=
  (readFrom true 0 bytes).result

end LogShipper.Utf8
