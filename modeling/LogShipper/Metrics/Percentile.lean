import LogShipper.Number.Sorting

/-!
# Percentiles

The percentile of a list lies between two neighbours of the sorted list, at the place that the
percentage gives, and is interpolated between them.  A percentage below zero gives a place counted
back from the end.
-/

namespace LogShipper.Metrics

/-- The least place that is too large for an index; as many below zero are not. -/
def placeBound : Int := 0x8000000000000000

/-- The item at a place, where negative places count back from the end. -/
def itemAt (data : List Number) (place : Int) : Except ArithmeticFault Number :=
  let index := if place < 0 then place + data.length else place
  if place < -placeBound ∨ placeBound ≤ place then .error .indexTooLarge
  else if index < 0 then .error .indexOutOfRange
  else
    match data[index.toNat]? with
    | some x => .ok x
    | none => .error .indexOutOfRange

/-- The place of a percentile in a list of the given length, not rounded. -/
def percentilePosition (length : Nat) (percent : Number) : Except ArithmeticFault Binary64 := do
  (← Number.mul (.int (length - 1)) percent).divNat 100

/-- The percentile of the numbers; zero if there are none. -/
def percentile (data : List Number) (percent : Number) : Except ArithmeticFault Binary64 :=
  if data.isEmpty then .ok (.zero false)
  else do
    let sorted := Number.sort data
    let position ← percentilePosition sorted.length percent
    let low ← (Number.float position).truncate
    let high := min (low + 1) (sorted.length - 1)
    let below ← itemAt sorted low
    let step ← (← itemAt sorted high).sub below
    let weight ← Number.sub (.float position) (.int low)
    (← below.add (← step.mul weight)).toFloat

end LogShipper.Metrics
