import LogShipper.Number

/-!
# Readings of a clock

A clock gives its readings one after the other, in seconds from a fixed moment, and stays at the
last one.  So does the time of day, in nanoseconds.
-/

namespace LogShipper

structure Clock where
  now : Number := .float (.zero false)
  later : List Number := []
  deriving DecidableEq, Repr

namespace Clock

/-- The present reading; time then goes on. -/
def read (clock : Clock) : Number × Clock :=
  match clock.later with
  | [] => (clock.now, clock)
  | next :: later => (clock.now, ⟨next, later⟩)

/-- The clock of some readings; without any it stays at zero. -/
def ofReadings : List Number → Clock
  | [] => {}
  | now :: later => ⟨now, later⟩

/-- The milliseconds from one reading to another. -/
def millisBetween (start finish : Number) : Except ArithmeticFault Number := do
  (← finish.sub start).mul (.int 1000)

end Clock

/-- The time of day, as it is read now and later. -/
structure TimeOfDay where
  now : Int
  later : List Int := []
  deriving DecidableEq, Repr

/-- The present time of day; time then goes on. -/
def TimeOfDay.read (time : TimeOfDay) : Int × TimeOfDay :=
  match time.later with
  | [] => (time.now, time)
  | next :: later => (time.now, ⟨next, later⟩)

end LogShipper
