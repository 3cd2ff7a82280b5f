import LogShipper.Proofs.Json.LongIntegers

/-!
# The bound of the reader

Readers go on with what others leave of a text, which is its end.  At most three calls stand inside
each other for each code point that is read, so a bound above three times the length is never used
up: with any such bound a text is read, or stops the reading, in the same way.
-/

namespace LogShipper.Json

/-- One more call inside each other changes nothing for the texts that the bound is enough for. -/
structure IsSettled (bound : Nat) : Prop where
  value : ∀ depth (t : Text), 3 * t.length < bound →
    readValue (bound + 1) depth t = readValue bound depth t
  object : ∀ depth (t : Text), 3 * t.length + 2 < bound →
    readObject (bound + 1) depth t = readObject bound depth t
  array : ∀ depth (t : Text), 3 * t.length + 2 < bound →
    readArray (bound + 1) depth t = readArray bound depth t
  members : ∀ depth (t : Text), 3 * t.length + 1 < bound →
    readMembers (bound + 1) depth t = readMembers bound depth t
  elements : ∀ depth (t : Text), 3 * t.length + 1 < bound →
    readElements (bound + 1) depth t = readElements bound depth t

theorem isSettled_zero : IsSettled 0 where
  value _ _ h := absurd h (Nat.not_lt_zero _)
  object _ _ h := absurd h (Nat.not_lt_zero _)
  array _ _ h := absurd h (Nat.not_lt_zero _)
  members _ _ h := absurd h (Nat.not_lt_zero _)
  elements _ _ h := absurd h (Nat.not_lt_zero _)

/-- Behind the first mark that is no space less is left. -/
theorem length_lt_of_skipSpaces {t rest : Text} {c : CodePoint} (h : skipSpaces t = c :: rest) :
    rest.length < t.length := by
  have hspaces := (skipSpaces_suffix t).length_le
  rw [h, List.length_cons] at hspaces
  exact hspaces

theorem Traces.length_le {α : Type} {kind : α → Prop} {t rest : Text} {a : α}
    {result : Except Stop (α × Text)} (h : Traces kind t result)
    (hresult : result = .ok (a, rest)) : rest.length ≤ t.length := by
  rw [hresult] at h
  exact h.2.length_le

theorem isSettled_succ {bound : Nat} (ih : IsSettled bound) : IsSettled (bound + 1) where
  value depth t h := by
    cases t with
    | nil => rw [readValue, readValue]
    | cons c rest =>
      rw [List.length_cons] at h
      rw [readValue, readValue, ih.object depth rest (by omega), ih.array depth rest (by omega)]
  object depth t h := by
    cases depth with
    | zero => rw [readObject, readObject]
    | succ depth =>
      have hspaces := (skipSpaces_suffix t).length_le
      rw [readObject, readObject]
      split
      · rfl
      · rw [ih.members depth _ (by omega)]
  array depth t h := by
    cases depth with
    | zero => rw [readArray, readArray]
    | succ depth =>
      have hspaces := (skipSpaces_suffix t).length_le
      rw [readArray, readArray]
      split
      · rfl
      · rw [ih.elements depth _ (by omega)]
  members depth t h := by
    rw [readMembers.eq_def (bound + 1 + 1), readMembers.eq_def (bound + 1)]
    dsimp only
    split
    · rename_i rest
      rw [List.length_cons] at h
      apply bind_congr_of_ok
      rintro ⟨name, after⟩ hname
      have hlength := (traces_readText _ rest).length_le hname
      dsimp only
      split
      · rename_i behind heq
        have hbehind := length_lt_of_skipSpaces heq
        have hspaces := (skipSpaces_suffix behind).length_le
        rw [ih.value depth _ (by omega)]
        apply bind_congr_of_ok
        rintro ⟨value, after⟩ hvalue
        have hlength := ((readsOn bound).value depth _).length_le hvalue
        dsimp only
        -- A brace or a comma comes behind the value, and only the comma is read on from.
        split
        · rfl
        · rename_i rest heq
          have hrest := length_lt_of_skipSpaces heq
          have hspaces := (skipSpaces_suffix rest).length_le
          rw [ih.members depth _ (by omega)]
        · rfl
      · rfl
    · rfl
  elements depth t h := by
    rw [readElements, readElements, ih.value depth t (by omega)]
    apply bind_congr_of_ok
    rintro ⟨value, after⟩ hvalue
    have hlength := ((readsOn bound).value depth t).length_le hvalue
    dsimp only
    split
    · rfl
    · rename_i rest heq
      have hrest := length_lt_of_skipSpaces heq
      have hspaces := (skipSpaces_suffix rest).length_le
      rw [ih.elements depth _ (by omega)]
    · rfl

theorem isSettled (bound : Nat) : IsSettled bound := by
  induction bound with
  | zero => exact isSettled_zero
  | succ bound ih => exact isSettled_succ ih

theorem readValue_eq_of_le {bound : Nat} {t : Text} (h : 3 * t.length + 1 ≤ bound) (depth : Nat) :
    readValue bound depth t = readValue (3 * t.length + 1) depth t := by
  induction bound, h using Nat.le_induction with
  | base => rfl
  | succ bound hle ih => rw [(isSettled bound).value depth t (by omega), ih]

/-- The bound that is set for a text decides nothing: with any greater one it is read in the same
way. -/
theorem parse_eq_of_le {bound : Nat} {t : Text} (h : 3 * t.length + 1 ≤ bound) :
    parse t = (do
      let (value, after) ← readValue bound maxDepth (skipSpaces t)
      match skipSpaces after with
      | [] => return value
      | rest => .error (.malformed .extra rest)) := by
  have hspaces := (skipSpaces_suffix t).length_le
  have hvalue : readValue (3 * t.length + 1) maxDepth (skipSpaces t) =
      readValue bound maxDepth (skipSpaces t) := by
    rw [readValue_eq_of_le (by omega : 3 * (skipSpaces t).length + 1 ≤ 3 * t.length + 1),
      readValue_eq_of_le (by omega : 3 * (skipSpaces t).length + 1 ≤ bound)]
  exact hvalue ▸ rfl

end LogShipper.Json
