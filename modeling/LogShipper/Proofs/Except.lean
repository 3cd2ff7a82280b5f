import Mathlib.Data.List.Forall2

/-!
# Computations that succeed

A sequence of computations succeeds exactly if each of them does.
-/

namespace LogShipper

variable {ε α β : Type}

theorem ok_bind (a : α) (f : α → Except ε β) : ((.ok a : Except ε α) >>= f) = f a := rfl

theorem eq_ok_of_toOption {x : Except ε α} {a : α} (h : x.toOption = some a) : x = .ok a := by
  cases x with
  | error e => cases h
  | ok found => exact congrArg Except.ok (Option.some.inj h)

theorem bind_eq_ok_iff {x : Except ε α} {f : α → Except ε β} {b : β} :
    (x >>= f) = .ok b ↔ ∃ a, x = .ok a ∧ f a = .ok b := by
  cases x with
  | error e =>
    constructor
    · intro h
      cases h
    · rintro ⟨a, ha, -⟩
      cases ha
  | ok a =>
    constructor
    · exact fun h => ⟨a, rfl, h⟩
    · rintro ⟨a', ha, h⟩
      obtain rfl := Except.ok.inj ha
      exact h

theorem map_eq_ok_iff {x : Except ε α} {f : α → β} {b : β} :
    x.map f = .ok b ↔ ∃ a, x = .ok a ∧ f a = b := by
  cases x <;> simp [Except.map]

theorem bind_eq_error_iff {x : Except ε α} {f : α → Except ε β} {e : ε} :
    (x >>= f) = .error e ↔ x = .error e ∨ ∃ a, x = .ok a ∧ f a = .error e := by
  cases x with
  | error e' =>
    show Except.error e' = .error e ↔ _
    simp
  | ok a =>
    show f a = .error e ↔ _
    simp

/-- What comes after a computation matters only for what it yields. -/
theorem bind_congr_of_ok {x : Except ε α} {f g : α → Except ε β}
    (h : ∀ a, x = .ok a → f a = g a) : x >>= f = x >>= g := by
  cases x with
  | error e => rfl
  | ok a => exact h a rfl

/-- Two computations with one fault, or with results that are related. -/
def Alike (R : α → β → Prop) : Except ε α → Except ε β → Prop
  | .ok a, .ok b => R a b
  | .error e, .error e' => e = e'
  | _, _ => False

theorem alike_of_eq {x y : Except ε α} (h : x = y) : Alike Eq x y := by
  subst h
  cases x <;> exact rfl

theorem Alike.exists_ok {R : α → β → Prop} {a : α} {y : Except ε β} (h : Alike R (.ok a) y) :
    ∃ b, y = .ok b ∧ R a b := by
  cases y with
  | error e => exact h.elim
  | ok b => exact ⟨b, rfl, h⟩

theorem Alike.eq_error {R : α → β → Prop} {e : ε} {y : Except ε β} (h : Alike R (.error e) y) :
    y = .error e := by
  cases y with
  | error e' => exact congrArg Except.error (Eq.symm h)
  | ok b => exact h.elim

theorem Alike.mapError {ε' : Type} {R : α → β → Prop} {x : Except ε α} {y : Except ε β}
    (h : Alike R x y) (f : ε → ε') : Alike R (x.mapError f) (y.mapError f) := by
  cases x with
  | error e =>
    rw [h.eq_error]
    exact rfl
  | ok a =>
    obtain ⟨b, rfl, hb⟩ := h.exists_ok
    exact hb

theorem Alike.map {γ δ : Type} {R : α → β → Prop} {S : γ → δ → Prop} {x : Except ε α}
    {y : Except ε β} {f : α → γ} {g : β → δ} (h : Alike R x y)
    (hnext : ∀ a b, R a b → S (f a) (g b)) : Alike S (x.map f) (y.map g) := by
  cases x with
  | error e =>
    rw [h.eq_error]
    exact rfl
  | ok a =>
    obtain ⟨b, rfl, hb⟩ := h.exists_ok
    exact hnext a b hb

theorem Alike.bind {γ δ : Type} {R : α → β → Prop} {S : γ → δ → Prop} {x : Except ε α}
    {y : Except ε β} {f : α → Except ε γ} {g : β → Except ε δ} (h : Alike R x y)
    (hnext : ∀ a b, R a b → Alike S (f a) (g b)) : Alike S (x >>= f) (y >>= g) := by
  cases x with
  | error e =>
    rw [h.eq_error]
    exact rfl
  | ok a =>
    obtain ⟨b, rfl, hb⟩ := h.exists_ok
    exact hnext a b hb

/-- What stands behind a check is reached if the check finds nothing. -/
theorem guard_bind_eq_ok_iff {p : Prop} [Decidable p] {e : ε} {f : PUnit → Except ε β} {b : β} :
    (if p then throw e >>= f else f ⟨⟩) = .ok b ↔ ¬ p ∧ f ⟨⟩ = .ok b := by
  split
  · rename_i hp
    exact ⟨nofun, fun h => absurd hp h.1⟩
  · rename_i hp
    exact ⟨fun h => ⟨hp, h⟩, fun h => h.2⟩

theorem mapM_eq_ok_iff {f : α → Except ε β} {items : List α} {values : List β} :
    items.mapM f = .ok values ↔
      List.Forall₂ (fun item value => f item = .ok value) items values := by
  induction items generalizing values with
  | nil =>
    rw [List.mapM_nil, List.forall₂_nil_left_iff]
    exact ⟨fun h => (Except.ok.inj h).symm, fun h => congrArg Except.ok h.symm⟩
  | cons item items ih =>
    rw [List.mapM_cons, bind_eq_ok_iff, List.forall₂_cons_left_iff]
    constructor
    · rintro ⟨value, hv, h⟩
      obtain ⟨rest, hr, h⟩ := bind_eq_ok_iff.1 h
      exact ⟨value, rest, hv, ih.1 hr, (Except.ok.inj h).symm⟩
    · rintro ⟨value, rest, hv, hr, rfl⟩
      exact ⟨value, hv, bind_eq_ok_iff.2 ⟨rest, ih.2 hr, rfl⟩⟩

theorem exists_of_mem_mapM {f : α → Except ε β} {items : List α} {values : List β}
    (h : items.mapM f = .ok values) {value : β} (hv : value ∈ values) :
    ∃ item ∈ items, f item = .ok value := by
  have hall := mapM_eq_ok_iff.1 h
  clear h
  induction hall with
  | nil => cases hv
  | @cons item first items values hfirst _ ih =>
    rcases List.mem_cons.1 hv with rfl | hv
    · exact ⟨item, List.mem_cons_self, hfirst⟩
    · obtain ⟨item, hmem, hitem⟩ := ih hv
      exact ⟨item, List.mem_cons_of_mem _ hmem, hitem⟩

theorem exists_value_of_mem {f : α → Except ε β} {items : List α} {values : List β}
    (h : items.mapM f = .ok values) {item : α} (hi : item ∈ items) :
    ∃ value ∈ values, f item = .ok value := by
  have hall := mapM_eq_ok_iff.1 h
  clear h
  induction hall with
  | nil => cases hi
  | @cons first value items values hfirst _ ih =>
    rcases List.mem_cons.1 hi with rfl | hi
    · exact ⟨value, List.mem_cons_self, hfirst⟩
    · obtain ⟨value, hmem, hvalue⟩ := ih hi
      exact ⟨value, List.mem_cons_of_mem _ hmem, hvalue⟩

end LogShipper
