import LogShipper.Text.CodePoint

/-!
# Properties given by ranges

A Unicode property holds on a union of ranges.  A table keeps the points at which the property
changes, in ascending order: it holds at a number exactly when an odd number of these points lie
at or below it.
-/

namespace LogShipper

/-- The points, ascending, at which a property of numbers begins or ceases to hold. -/
structure RangeTable where
  changes : Array Nat

namespace RangeTable

/-- How many of the points in the window from `low` to `high` and before it lie at or below `n`. -/
def countBelow (table : RangeTable) (n : Nat) : (low high : Nat) → Nat
  | low, high =>
    if h : low < high then
      let middle := (low + high) / 2
      if table.changes.getD middle 0 ≤ n then countBelow table n (middle + 1) high
      else countBelow table n low middle
    else low
termination_by low high => high - low

def contains (table : RangeTable) (n : Nat) : Bool :=
  countBelow table n 0 table.changes.size % 2 = 1

end RangeTable

end LogShipper
