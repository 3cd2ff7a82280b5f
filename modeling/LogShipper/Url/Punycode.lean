import LogShipper.Text.CodePoint

/-!
# Punycode

A label with code points past ASCII is written in ASCII: its ASCII code points, a hyphen if there
are any, and then the others in ascending order, each as the distance from the one before it in the
sequence of all insertions.  A distance is a number of variable length in base 36 whose digit
thresholds adapt to the distances seen.
-/

namespace LogShipper.Url.Punycode

/-! ## 1. Digits and thresholds -/

def digitChar (d : Nat) : Char :=
  if d < 26 then Char.ofNat ('a'.toNat + d) else Char.ofNat ('0'.toNat + (d - 26))

def digitValue? : CodePoint → Option Nat
  | .char c =>
    if 'a' ≤ c ∧ c ≤ 'z' then some (c.toNat - 'a'.toNat)
    else if 'A' ≤ c ∧ c ≤ 'Z' then some (c.toNat - 'A'.toNat)
    else if '0' ≤ c ∧ c ≤ '9' then some (c.toNat - '0'.toNat + 26)
    else none
  | .surrogate _ => none

/-- The threshold of the digit with the given place, counted in steps of 36 from 36. -/
def threshold (place bias : Nat) : Nat :=
  if place ≤ bias + 1 then 1 else if bias + 26 ≤ place then 26 else place - bias

theorem threshold_pos (place bias : Nat) : 0 < threshold place bias := by
  unfold threshold
  split
  · omega
  · split <;> omega

theorem threshold_le (place bias : Nat) : threshold place bias ≤ 26 := by
  unfold threshold
  split
  · omega
  · split <;> omega

/-- Divides until the distance is small, counting places. -/
def scaleDown (delta place : Nat) : Nat × Nat :=
  if 455 < delta then scaleDown (delta / 35) (place + 36) else (delta, place)
termination_by delta

/-- The bias after a distance, given how many code points stand by then. -/
def adapt (delta count : Nat) (isFirst : Bool) : Nat :=
  let delta := if isFirst then delta / 700 else delta / 2
  let (delta, place) := scaleDown (delta + delta / count) 0
  place + 36 * delta / (delta + 38)

/-! ## 2. Writing -/

/-- The digits of a distance. -/
def writeDistance (bias place distance : Nat) : List Char :=
  let t := threshold place bias
  if distance < t then [digitChar distance]
  else
    digitChar (t + (distance - t) % (36 - t)) ::
      writeDistance bias (place + 36) ((distance - t) / (36 - t))
termination_by distance
decreasing_by
  have hpos := threshold_pos place bias
  have hle := threshold_le place bias
  have : (distance - threshold place bias) / (36 - threshold place bias)
      ≤ distance - threshold place bias := Nat.div_le_self _ _
  omega

/-- Where writing stands: the next number to look at, the distance since the last insertion, the
bias, and how many code points are written. -/
structure State where
  next : Nat
  delta : Nat
  bias : Nat
  written : Nat

/-- Writes what one code point of the label means for the number that is looked at. -/
def writeStep (basics : Nat) (progress : List Char × State) (n : Nat) : List Char × State :=
  let (out, s) := progress
  if n < s.next then (out, { s with delta := s.delta + 1 })
  else if n = s.next then
    (out ++ writeDistance s.bias 36 s.delta,
      { s with
        delta := 0
        bias := adapt s.delta (s.written + 1) (s.written = basics)
        written := s.written + 1 })
  else (out, s)

/-- Writes the insertions of one number, in the order of its places in the label. -/
def writeNumber (label : List Nat) (basics : Nat) (state : State) : List Char × State :=
  label.foldl (writeStep basics) ([], state)

/-- Writes the insertions of the given numbers, ascending and each once. -/
def writeNumbers (label : List Nat) (basics : Nat) : List Nat → State → List Char
  | [], _ => []
  | n :: rest, s =>
    let (out, s) := writeNumber label basics
      { s with next := n, delta := s.delta + (n - s.next) * (s.written + 1) }
    out ++ writeNumbers label basics rest { s with next := n + 1, delta := s.delta + 1 }

/-- The ASCII form of a label. -/
def encode (label : Text) : Text :=
  let numbers := label.map CodePoint.value
  let basics := label.filter CodePoint.isAscii
  let others := ((numbers.filter (0x80 ≤ ·)).mergeSort).eraseDups
  let lead : Text := if basics.isEmpty then [] else basics ++ "-"
  lead ++ Text.ofChars (writeNumbers numbers basics.length others ⟨0x80, 0, 72, basics.length⟩)

/-! ## 3. Reading -/

/-- Reads a distance; `weight` is that of the next digit. -/
def readDistance (bias place weight sum : Nat) : Text → Option (Nat × Text)
  | [] => none
  | c :: rest =>
    match digitValue? c with
    | none => none
    | some d =>
      let t := threshold place bias
      let sum := sum + d * weight
      if d < t then some (sum, rest)
      else readDistance bias (place + 36) (weight * (36 - t)) sum rest

theorem readDistance_shorter {bias place weight sum distance : Nat} {t rest : Text}
    (h : readDistance bias place weight sum t = some (distance, rest)) :
    rest.length < t.length := by
  induction t generalizing place weight sum with
  | nil => simp [readDistance] at h
  | cons c t ih =>
    simp only [readDistance] at h
    split at h
    · simp at h
    · split at h
      · simp only [Option.some.injEq, Prod.mk.injEq] at h
        obtain ⟨_, rfl⟩ := h
        simp
      · have := ih h
        simp only [List.length_cons]
        omega

/-- Inserts the code points that the distances describe; `place` is where the last insertion would
be followed. -/
def insertAll (label : Text) (next place bias : Nat) (isFirst : Bool) (t : Text) : Option Text :=
  match t with
  | [] => some label
  | c :: rest =>
    match h : readDistance bias 36 1 0 (c :: rest) with
    | none => none
    | some (distance, after) =>
      let total := place + distance
      let next := next + total / (label.length + 1)
      let place := total % (label.length + 1)
      if 0x10FFFF < next then none
      else
        insertAll (label.insertIdx place (.ofNat next)) next (place + 1)
          (adapt distance (label.length + 1) isFirst) false after
termination_by t.length
decreasing_by exact readDistance_shorter h

/-- The label whose ASCII form is given. -/
def decode? (t : Text) : Option Text :=
  let extended := (t.reverse.takeWhile (· ≠ .char '-')).reverse
  insertAll (t.take (t.length - extended.length - 1)) 0x80 0 72 true extended

end LogShipper.Url.Punycode
