import LogShipper.Proofs.Number.Shortest
import LogShipper.Proofs.Number.Sorting

/-!
# The order of numbers

Finite numbers are put in the order of their values.  If no two of them have one value, the order in
which they were given does not matter.
-/

namespace LogShipper

namespace Number

/-- The value of a finite number. -/
def value (x : Number) : ℚ :=
  match x.extended? with
  | some (.inl q) => q
  | _ => 0

/-- Whether a number is finite. -/
def IsFinite (x : Number) : Prop :=
  x.extended? = some (.inl x.value)

theorem IsFinite.isComparable {x : Number} (h : x.IsFinite) : x.isComparable = true := by
  rw [Number.isComparable, h]
  rfl

theorem IsFinite.less_eq {x y : Number} (hx : x.IsFinite) (hy : y.IsFinite) :
    x.less y = decide (x.value < y.value) := by
  rw [less, hx, hy]

variable {data other : List Number}

/-- Finite numbers are sorted by their values. -/
theorem pairwise_sort (h : ∀ x ∈ data, x.IsFinite) :
    (sort data).Pairwise fun x y => x.value ≤ y.value := by
  have hcomparable : data.all isComparable = true :=
    List.all_eq_true.2 fun x hx => (h x hx).isComparable
  have hless : ∀ x ∈ data, ∀ y ∈ data, (!y.less x) = decide (x.value ≤ y.value) := by
    intro x hx y hy
    rw [(h y hy).less_eq (h x hx), ← decide_not]
    exact decide_eq_decide.2 not_lt
  have hvalues := List.map_mergeSort (s := fun a b : ℚ => decide (a ≤ b)) hless
  have hsorted : ((data.map value).mergeSort fun a b => decide (a ≤ b)).Pairwise
      fun a b => decide (a ≤ b) = true := by
    refine List.pairwise_mergeSort (fun a b c hab hbc => ?_) (fun a b => ?_) _
    · exact decide_eq_true (le_trans (of_decide_eq_true hab) (of_decide_eq_true hbc))
    · simpa using le_total a b
  rw [← hvalues, List.pairwise_map] at hsorted
  rw [sort, if_pos hcomparable]
  exact hsorted.imp of_decide_eq_true

/-- Numbers that are told apart by their values are sorted into one order. -/
theorem sort_eq_of_perm (hperm : data.Perm other) (h : ∀ x ∈ data, x.IsFinite)
    (hvalues : ∀ x ∈ data, ∀ y ∈ data, x.value = y.value → x = y) : sort data = sort other := by
  have hsame := (sort_perm data).trans (hperm.trans (sort_perm other).symm)
  have hother : ∀ x ∈ other, x.IsFinite := fun x hx => h x (hperm.mem_iff.2 hx)
  refine hsame.eq_of_pairwise ?_ (pairwise_sort h) (pairwise_sort hother)
  intro x y hx hy hle hge
  have hx : x ∈ data := (sort_perm data).mem_iff.1 hx
  have hy : y ∈ data := hperm.mem_iff.2 ((sort_perm other).mem_iff.1 hy)
  exact hvalues x hx y hy (le_antisymm hle hge)

end Number

namespace Binary64

/-- A finite number that is not the negative zero. -/
def IsPlain (x : Binary64) : Prop :=
  x.isFinite = true ∧ x ≠ zero true

instance (x : Binary64) : Decidable x.IsPlain :=
  inferInstanceAs (Decidable (_ ∧ _))

theorem IsPlain.isFinite {x : Binary64} (h : x.IsPlain) : (Number.float x).IsFinite := by
  obtain ⟨hfinite, -⟩ := h
  cases x with
  | finite negative rank => rfl
  | infinite negative => cases hfinite
  | nan => cases hfinite

/-- A number with the minus sign is not zero. -/
theorem IsPlain.rank_pos {rank : Fin rankBound} (h : (finite true rank).IsPlain) :
    0 < rank.val := by
  by_contra hzero
  have hrank : rank = ⟨0, by decide⟩ := Fin.ext (Nat.eq_zero_of_not_pos hzero)
  exact h.2 (by rw [hrank]; rfl)

theorem IsPlain.eq_of_value_eq {x y : Binary64} (hx : x.IsPlain) (hy : y.IsPlain)
    (h : (Number.float x).value = (Number.float y).value) : x = y := by
  cases x with
  | infinite a => exact absurd hx.1 Bool.false_ne_true
  | nan => exact absurd hx.1 Bool.false_ne_true
  | finite a m =>
    cases y with
    | infinite b => exact absurd hy.1 Bool.false_ne_true
    | nan => exact absurd hy.1 Bool.false_ne_true
    | finite b n =>
      have hvalue : (if a then -magnitude m else magnitude m) =
          if b then -magnitude n else magnitude n := h
      have hm := magnitude_nonneg m
      have hn := magnitude_nonneg n
      have hsame (h : magnitude m = magnitude n) : m = n :=
        Fin.ext (magnitude_strictMono.injective h)
      -- With different signs only one of them can be less than zero.
      cases a with
      | false =>
        cases b with
        | false => rw [hsame hvalue]
        | true =>
          have hpos := magnitude_pos hy.rank_pos
          simp only [Bool.false_eq_true, if_false, if_true] at hvalue
          linarith
      | true =>
        cases b with
        | false =>
          have hpos := magnitude_pos hx.rank_pos
          simp only [Bool.false_eq_true, if_false, if_true] at hvalue
          linarith
        | true => rw [hsame (neg_injective hvalue)]

end Binary64

end LogShipper
