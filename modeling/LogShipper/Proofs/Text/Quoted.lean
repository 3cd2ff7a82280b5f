import LogShipper.Text.DecimalDigit
import LogShipper.Text.Quoted
import Mathlib.Algebra.Group.Nat.Defs
import Mathlib.Tactic.SplitIfs

/-!
# Reading quoted text

What stands between quotes begins with a code point that can be told from it, whatever follows: by
itself, by the letter of an escape, or by its number.  So no two texts are quoted in the same way.
-/

namespace LogShipper.Text

/-! ## 1. Hexadecimal digits -/

/-- The number of hexadecimal digits. -/
def hexValue (digits : Text) : Nat :=
  digits.foldl (fun n c => n * 16 + c.hexDigit?.getD 0) 0

theorem hexDigit?_hexDigit : ∀ v < 16, (CodePoint.char (hexDigit false v)).hexDigit? = some v := by
  decide

theorem hexValue_hex (width n : Nat) : hexValue (hex false width n) = n % 16 ^ width := by
  induction width generalizing n with
  | zero => simp [hexValue, hex, Nat.mod_one]
  | succ width ih =>
    have hdigit := hexDigit?_hexDigit (n % 16) (Nat.mod_lt _ (by decide))
    have hleading := ih (n / 16)
    unfold hexValue at hleading ⊢
    rw [hex, List.foldl_append, hleading, List.foldl_cons, List.foldl_nil, hdigit,
      Option.getD_some, Nat.pow_succ', Nat.mod_mul, Nat.add_comm, Nat.mul_comm]

theorem take_hex_append (width n : Nat) (rest : Text) :
    (hex false width n ++ rest).take width = hex false width n :=
  List.take_left' (length_hex false width n)

/-! ## 2. Quoted texts -/

/-- The code point of an escape, read from behind the backslash. -/
def escape? : Text → Option CodePoint
  | [] => none
  | letter :: rest =>
    if letter = 'n' then some '\n'
    else if letter = 'r' then some '\r'
    else if letter = 't' then some '\t'
    else if letter = 'x' then some (.ofNat (hexValue (rest.take 2)))
    else if letter = 'u' then some (.ofNat (hexValue (rest.take 4)))
    else if letter = 'U' then some (.ofNat (hexValue (rest.take 8)))
    else some letter

/-- The code point that stands first between quotes. -/
def shown? : Text → Option CodePoint
  | [] => none
  | c :: rest => if c = '\\' then escape? rest else some c

variable {quote : Char} {c : CodePoint}

theorem ofNat_hexValue (hwidth : c.value < 16 ^ width) (rest : Text) :
    CodePoint.ofNat (hexValue ((hex false width c.value ++ rest).take width)) = c := by
  rw [take_hex_append, hexValue_hex, Nat.mod_eq_of_lt hwidth, CodePoint.ofNat_value]

theorem shown?_showQuoted (hquote : quote = '\'' ∨ quote = '"') (c : CodePoint) (rest : Text) :
    shown? (showQuoted quote c ++ rest) = some c := by
  unfold showQuoted
  split_ifs with hescaped hfeed hreturn htab hprintable hsmall hmiddle
  · -- The backslash and the quotes are no letters of other escapes.
    have hletter : c = .char '\\' ∨ c = .char '\'' ∨ c = .char '"' := by
      rcases hescaped with rfl | rfl
      · rcases hquote with rfl | rfl
        · exact .inr (.inl rfl)
        · exact .inr (.inr rfl)
      · exact .inl rfl
    rcases hletter with rfl | rfl | rfl <;> rfl
  · rw [hfeed]
    rfl
  · rw [hreturn]
    rfl
  · rw [htab]
    rfl
  · rw [List.singleton_append, shown?, if_neg fun hc => hescaped (.inr hc)]
  · show some (CodePoint.ofNat (hexValue ((hex false 2 c.value ++ rest).take 2))) = some c
    rw [ofNat_hexValue hsmall]
  · show some (CodePoint.ofNat (hexValue ((hex false 4 c.value ++ rest).take 4))) = some c
    rw [ofNat_hexValue hmiddle]
  · show some (CodePoint.ofNat (hexValue ((hex false 8 c.value ++ rest).take 8))) = some c
    rw [ofNat_hexValue (Nat.lt_trans c.value_lt (by decide))]

/-- Codes whose item can be told from any text that begins with them can be told one after the
other. -/
theorem flatMap_injective {α β : Type} {code : α → Text} {key : α → β} {first? : Text → Option β}
    (hkey : Function.Injective key) (hempty : first? [] = none)
    (hfirst : ∀ a rest, first? (code a ++ rest) = some (key a)) :
    Function.Injective fun items : List α => items.flatMap code := by
  intro items items' h
  have hne (a : α) (rest : Text) : code a ++ rest ≠ [] := by
    intro hnil
    have hread := hfirst a rest
    rw [hnil, hempty] at hread
    cases hread
  dsimp only at h
  induction items generalizing items' with
  | nil =>
    cases items' with
    | nil => rfl
    | cons b items' => exact absurd h.symm (hne b _)
  | cons a items ih =>
    cases items' with
    | nil => exact absurd h (hne a _)
    | cons b items' =>
      rw [List.flatMap_cons, List.flatMap_cons] at h
      -- The first code can be read off the text, and is taken from both sides.
      have hread := hfirst a (items.flatMap code)
      rw [h, hfirst b] at hread
      obtain rfl := hkey (Option.some.inj hread).symm
      rw [ih (List.append_cancel_left h)]

theorem quoteFor_cases (t : Text) : quoteFor t = '\'' ∨ quoteFor t = '"' := by
  unfold quoteFor
  split
  · exact .inr rfl
  · exact .inl rfl

theorem quoted_injective : Function.Injective quoted := by
  intro t t' h
  obtain ⟨hquote, hrest⟩ := List.cons.inj h
  rw [CodePoint.char.inj hquote] at hrest
  exact flatMap_injective Function.injective_id rfl (shown?_showQuoted (quoteFor_cases t'))
    (List.append_cancel_right hrest)

end LogShipper.Text
