import LogShipper.Number

/-!
# Sorting numbers

Numbers are put in ascending order, and equal ones keep theirs.  A floating point value that is no
number is not less than any other, nor is any other less than it.  With such a value among them
there is no ascending order, and the numbers are arranged step by step: a run at the beginning is
taken as it is, or backwards if it descends, and then each number goes to the place that a binary
search finds for it.
-/

namespace LogShipper.Number

/-- The numbers at the beginning of which each one may follow the one before it, and the others. -/
def takeRun (follows : Number → Number → Bool) : Number → List Number → List Number × List Number
  | _, [] => ([], [])
  | last, x :: xs =>
    if follows last x then
      let (run, rest) := takeRun follows x xs
      (x :: run, rest)
    else ([], x :: xs)

/-- The run at the beginning, turned round if it descends, and the other numbers. -/
def firstRun : List Number → List Number × List Number
  | x :: y :: rest =>
    if y.less x then
      let (run, rest) := takeRun (fun last next => next.less last) y rest
      ((x :: y :: run).reverse, rest)
    else
      let (run, rest) := takeRun (fun last next => !next.less last) y rest
      (x :: y :: run, rest)
  | data => (data, [])

/-- The place for a number that a binary search finds between two bounds. -/
def placeOf (x : Number) (arranged : List Number) (low high : Nat) : Nat :=
  if low < high then
    let middle := (low + high) / 2
    if x.less (arranged.getD middle x) then placeOf x arranged low middle
    else placeOf x arranged (middle + 1) high
  else low
  termination_by high - low
  decreasing_by all_goals omega

/-- Puts a number in its place. -/
def insert (arranged : List Number) (x : Number) : List Number :=
  arranged.insertIdx (placeOf x arranged 0 arranged.length) x

/-- The numbers, arranged step by step. -/
def arrange (data : List Number) : List Number :=
  let (run, rest) := firstRun data
  rest.foldl insert run

/-- The numbers in order. -/
def sort (data : List Number) : List Number :=
  if data.all isComparable then data.mergeSort fun x y => !y.less x else arrange data

end LogShipper.Number
