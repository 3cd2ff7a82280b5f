/-!
# Code points and text

A text is a sequence of Unicode code points.  Beside the characters it may hold surrogates that
stand alone: a JSON escape can name one, and only writing such a text as UTF-8 fails.  Everything
else treats them like any other code point, so a surrogate is a constructor of its own and the
characters keep Lean's `Char`.
-/

namespace LogShipper

/-- A code point: a character, or a surrogate (counted from U+D800) that stands alone. -/
inductive CodePoint where
  | char (c : Char)
  | surrogate (offset : Fin 2048)
  deriving DecidableEq, Repr, Inhabited

namespace CodePoint

instance : Coe Char CodePoint := ⟨.char⟩

/-- The number of the code point, below 0x110000. -/
def value : CodePoint → Nat
  | .char c => c.toNat
  | .surrogate s => 0xD800 + s.val

/-- The code point of a number below 0x110000. -/
def ofNat (n : Nat) : CodePoint :=
  if h : 0xD800 ≤ n ∧ n < 0xE000 then .surrogate ⟨n - 0xD800, by omega⟩ else .char (Char.ofNat n)

theorem value_lt (c : CodePoint) : c.value < 0x110000 := by
  cases c with
  | char c =>
    have hvalid : c.toNat < 0xD800 ∨ 0xDFFF < c.toNat ∧ c.toNat < 0x110000 := c.valid
    simp only [value]
    omega
  | surrogate s =>
    have hs := s.isLt
    simp only [value]
    omega

@[simp]
theorem ofNat_value (c : CodePoint) : ofNat c.value = c := by
  cases c with
  | char c =>
    have hvalid : c.toNat < 0xD800 ∨ 0xDFFF < c.toNat ∧ c.toNat < 0x110000 := c.valid
    rw [ofNat, dif_neg (by simp only [value]; omega)]
    simp [value]
  | surrogate s =>
    have hs := s.isLt
    rw [ofNat, dif_pos (by simp only [value]; omega)]
    simp [value]

/-- A property of characters, which no surrogate has. -/
def satisfies (p : Char → Bool) : CodePoint → Bool
  | .char c => p c
  | .surrogate _ => false

def isAscii (c : CodePoint) : Bool :=
  c.value < 0x80

def isSurrogate : CodePoint → Bool
  | .char _ => false
  | .surrogate _ => true

/-- Lower case within ASCII; any other code point is kept. -/
def asciiLower : CodePoint → CodePoint
  | .char c => .char c.toLower
  | .surrogate s => .surrogate s

end CodePoint

/-- A sequence of code points. -/
abbrev Text := List CodePoint

namespace Text

/-- The text of a string. -/
def ofString (s : String) : Text :=
  s.toList.map .char

instance : Coe String Text := ⟨ofString⟩

/-- The text of a sequence of characters. -/
def ofChars (cs : List Char) : Text :=
  cs.map .char

/-- The string that shows a text: a surrogate is shown as the replacement character. -/
def toShown (t : Text) : String :=
  String.ofList (t.map fun
    | .char c => c
    | .surrogate _ => '\uFFFD')

def isAscii (t : Text) : Bool :=
  t.all CodePoint.isAscii

/-- The pieces between the occurrences of a separator; one more than there are separators. -/
def splitOn (separator : CodePoint) : Text → List Text
  | [] => [[]]
  | c :: rest =>
    if c = separator then [] :: splitOn separator rest
    else
      match splitOn separator rest with
      | [] => [[c]]
      | piece :: pieces => (c :: piece) :: pieces

/-- The texts, with a separator between each two neighbours. -/
def joinWith (separator : Text) : List Text → Text
  | [] => []
  | [t] => t
  | t :: ts => t ++ separator ++ joinWith separator ts

/-- The part before the first occurrence of a code point and the part after it, if it occurs. -/
def cutAt? (mark : CodePoint) : Text → Option (Text × Text)
  | [] => none
  | c :: rest =>
    if c = mark then some ([], rest)
    else (cutAt? mark rest).map fun (before, after) => (c :: before, after)

/-- What follows a given beginning, if the text begins so. -/
def dropStart? : Text → Text → Option Text
  | [], rest => some rest
  | _ :: _, [] => none
  | b :: beginning, c :: rest => if b = c then dropStart? beginning rest else none

/-- Whether a text begins with another. -/
def startsWith (beginning t : Text) : Bool :=
  (dropStart? beginning t).isSome

@[simp] theorem ofString_empty : ofString "" = [] := rfl

theorem splitOn_ne_nil (separator : CodePoint) (t : Text) : splitOn separator t ≠ [] := by
  cases t with
  | nil => simp [splitOn]
  | cons c rest =>
    simp only [splitOn]
    split
    · simp
    · split <;> simp

/-- Splitting loses nothing: the pieces, joined again, are the text. -/
theorem joinWith_splitOn (separator : CodePoint) (t : Text) :
    joinWith [separator] (splitOn separator t) = t := by
  induction t with
  | nil => rfl
  | cons c rest ih =>
    have hne := splitOn_ne_nil separator rest
    cases hs : splitOn separator rest with
    | nil => exact absurd hs hne
    | cons piece pieces =>
      rw [hs] at ih
      by_cases hc : c = separator
      · simp [splitOn, hc, hs, joinWith, ih]
      · cases pieces with
        | nil => simpa [splitOn, hc, hs, joinWith] using ih
        | cons p ps => simpa [splitOn, hc, hs, joinWith] using ih

theorem dropStart?_append (beginning rest : Text) :
    dropStart? beginning (beginning ++ rest) = some rest := by
  induction beginning with
  | nil => rfl
  | cons b beginning ih => simp [dropStart?, ih]

theorem eq_append_of_dropStart? {beginning t rest : Text} (h : dropStart? beginning t = some rest) :
    t = beginning ++ rest := by
  induction beginning generalizing t with
  | nil => exact Option.some.inj h
  | cons b beginning ih =>
    cases t with
    | nil => cases h
    | cons c t =>
      rw [dropStart?] at h
      split at h
      · rename_i hbc
        rw [hbc, ih h, List.cons_append]
      · cases h

end Text

end LogShipper
