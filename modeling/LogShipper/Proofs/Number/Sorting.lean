import LogShipper.Number.Sorting
import Mathlib.Data.List.Perm.Basic

/-!
# Sorting keeps the numbers

Whether numbers are merged into order or arranged step by step, the same numbers come out.
-/

namespace LogShipper.Number

theorem takeRun_append (follows : Number → Number → Bool) (last : Number) (xs : List Number) :
    (takeRun follows last xs).1 ++ (takeRun follows last xs).2 = xs := by
  induction xs generalizing last with
  | nil => rfl
  | cons x xs ih =>
    rw [takeRun]
    split
    · exact congrArg (x :: ·) (ih x)
    · rfl

theorem firstRun_perm (data : List Number) :
    ((firstRun data).1 ++ (firstRun data).2).Perm data := by
  unfold firstRun
  split
  · rename_i x y rest
    split
    · have h := takeRun_append (fun last next => next.less last) y rest
      dsimp only
      refine ((List.reverse_perm _).append_right _).trans ?_
      rw [List.cons_append, List.cons_append, h]
    · have h := takeRun_append (fun last next => !next.less last) y rest
      dsimp only
      rw [List.cons_append, List.cons_append, h]
  · rw [List.append_nil]

theorem placeOf_le (x : Number) (arranged : List Number) {low high : Nat} (h : low ≤ high) :
    placeOf x arranged low high ≤ high := by
  induction low, high using placeOf.induct x arranged with
  | case1 low high hlt middle hless ih =>
    rw [placeOf, if_pos hlt, if_pos hless]
    have hmiddle : placeOf x arranged low ((low + high) / 2) ≤ (low + high) / 2 := ih (by omega)
    exact Nat.le_trans hmiddle (by omega)
  | case2 low high hlt middle hless ih =>
    rw [placeOf, if_pos hlt, if_neg hless]
    exact ih (by omega)
  | case3 low high hge =>
    rw [placeOf, if_neg hge]
    exact h

theorem insert_perm (arranged : List Number) (x : Number) :
    (insert arranged x).Perm (x :: arranged) :=
  List.perm_insertIdx x arranged (placeOf_le x arranged (Nat.zero_le _))

theorem foldl_insert_perm (run rest : List Number) :
    (rest.foldl insert run).Perm (run ++ rest) := by
  induction rest generalizing run with
  | nil => rw [List.foldl_nil, List.append_nil]
  | cons x rest ih =>
    rw [List.foldl_cons]
    refine (ih _).trans (((insert_perm run x).append_right rest).trans ?_)
    exact List.perm_middle.symm

/-- Sorting only changes the order. -/
theorem sort_perm (data : List Number) : (sort data).Perm data := by
  -- Only numbers that all can be compared are merged.
  unfold sort
  split
  · exact List.mergeSort_perm _ _
  · exact (foldl_insert_perm _ _).trans (firstRun_perm data)

end LogShipper.Number
