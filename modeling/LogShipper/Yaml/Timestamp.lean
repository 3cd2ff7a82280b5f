import LogShipper.Number.Numeral

/-!
# Timestamps of YAML

A timestamp is a day of the calendar, or a day with a time down to microseconds.  A time may have an
offset from universal time; two such times are the same if they are the same instant.
-/

namespace LogShipper.Yaml

/-! ## 1. Days and times -/

/-- A day of the calendar. -/
structure Date where
  year : Nat
  month : Nat
  day : Nat
  deriving DecidableEq, Repr

/-- A time on a day, with its offset from universal time in minutes if that is known. -/
structure DateTime where
  date : Date
  hour : Nat
  minute : Nat
  second : Nat
  microsecond : Nat
  offset : Option Int
  deriving DecidableEq, Repr

/-- What is out of its range in a timestamp. -/
inductive TimestampFault where
  | year (year : Nat)
  | month
  | day
  | hour
  | minute
  | second
  | offset (minutes : Int)
  deriving DecidableEq, Repr

/-- The minutes of a day. -/
def minutesPerDay : Nat := 1440

/-- A span of minutes as a literal: whole days, and seconds that are never negative. -/
def spanLiteral (minutes : Int) : Text :=
  let days := minutes.fdiv minutesPerDay
  let seconds := minutes.fmod minutesPerDay * 60
  let parts : List Text :=
    (if days = 0 then [] else [("days=" : Text) ++ Integer.toText days]) ++
      (if seconds = 0 then [] else [("seconds=" : Text) ++ Integer.toText seconds])
  "datetime.timedelta(" ++ (if parts.isEmpty then ("0" : Text) else Text.joinWith ", " parts) ++
    ")"

def TimestampFault.message : TimestampFault → Text
  | .year n => "year " ++ Integer.toText n ++ " is out of range"
  | .month => "month must be in 1..12"
  | .day => "day is out of range for month"
  | .hour => "hour must be in 0..23"
  | .minute => "minute must be in 0..59"
  | .second => "second must be in 0..59"
  | .offset minutes =>
    "offset must be a timedelta strictly between -timedelta(hours=24) and timedelta(hours=24), " ++
      "not " ++ spanLiteral minutes ++ "."

namespace Date

def isLeapYear (year : Nat) : Bool :=
  year % 4 = 0 && (year % 100 ≠ 0 || year % 400 = 0)

def daysIn (year month : Nat) : Nat :=
  if month = 2 then if isLeapYear year then 29 else 28
  else if month = 4 ∨ month = 6 ∨ month = 9 ∨ month = 11 then 30
  else 31

/-- The first number of a date that is out of its range. -/
def fault? (date : Date) : Option TimestampFault :=
  if date.year < 1 then some (.year date.year)
  else if date.month < 1 ∨ 12 < date.month then some .month
  else if date.day < 1 ∨ daysIn date.year date.month < date.day then some .day
  else none

/-- The number of the day, counted from the first day of the year 1. -/
def ordinal (date : Date) : Nat :=
  let years := date.year - 1
  let months := (List.range (date.month - 1)).foldl (fun n i => n + daysIn date.year (i + 1)) 0
  years * 365 + years / 4 - years / 100 + years / 400 + months + date.day

/-- A number with zeros before it, up to a width. -/
def padded (width n : Nat) : Text :=
  let digits := Nat.toDigits 10 n
  Text.ofChars (List.replicate (width - digits.length) '0' ++ digits)

/-- The numbers of a date as a literal has them. -/
def numbers (date : Date) : List Nat :=
  [date.year, date.month, date.day]

def literal (date : Date) : Text :=
  "datetime.date(" ++ Text.joinWith ", " (date.numbers.map fun (n : Nat) => Integer.toText n) ++ ")"

def display (date : Date) : Text :=
  padded 4 date.year ++ "-" ++ padded 2 date.month ++ "-" ++ padded 2 date.day

end Date

namespace DateTime

/-- The first thing in a time that is out of its range: the offset, then the date, then the rest. -/
def fault? (time : DateTime) : Option TimestampFault :=
  match time.offset.filter fun minutes => minutesPerDay ≤ minutes.natAbs with
  | some minutes => some (.offset minutes)
  | none =>
    match time.date.fault? with
    | some fault => some fault
    | none =>
      if 23 < time.hour then some .hour
      else if 59 < time.minute then some .minute
      else if 59 < time.second then some .second
      else none

/-- The microseconds from the day before the first one, by universal time if the offset is known. -/
def instant (time : DateTime) : Int :=
  let minutes : Int := (time.date.ordinal * 24 + time.hour) * 60 + time.minute
  ((minutes - time.offset.getD 0) * 60 + time.second) * 1000000 + time.microsecond

/-- Whether two times are the same; one with an offset is never the same as one without. -/
def isSame (x y : DateTime) : Bool :=
  x.offset.isSome = y.offset.isSome && x.instant = y.instant

/-- The numbers of a time as a literal has them: seconds and microseconds only if they are not
zero. -/
def numbers (time : DateTime) : List Nat :=
  time.date.numbers ++ [time.hour, time.minute] ++
    (if time.microsecond ≠ 0 then [time.second, time.microsecond]
    else if time.second ≠ 0 then [time.second]
    else [])

/-- An offset as a literal. -/
def zoneLiteral (minutes : Int) : Text :=
  if minutes = 0 then "datetime.timezone.utc"
  else "datetime.timezone(" ++ spanLiteral minutes ++ ")"

def literal (time : DateTime) : Text :=
  "datetime.datetime(" ++ Text.joinWith ", " (time.numbers.map fun (n : Nat) => Integer.toText n) ++
    (match time.offset with
    | none => []
    | some minutes => ", tzinfo=" ++ zoneLiteral minutes) ++ ")"

def display (time : DateTime) : Text :=
  let two (n : Nat) : Text := Date.padded 2 n
  time.date.display ++ " " ++ two time.hour ++ ":" ++ two time.minute ++ ":" ++ two time.second ++
    (if time.microsecond = 0 then [] else .char '.' :: Date.padded 6 time.microsecond) ++
    match time.offset with
    | none => []
    | some minutes =>
      .char (if minutes < 0 then '-' else '+') :: two (minutes.natAbs / 60) ++ ":" ++
        two (minutes.natAbs % 60)

end DateTime

/-! ## 2. Reading -/

/-- A timestamp as it is written: a day, with a time or not. -/
inductive Timestamp where
  | date (date : Date)
  | time (time : DateTime)
  deriving DecidableEq, Repr

namespace Timestamp

/-- The decimal digits at the beginning, at most as many as given, and what follows them. -/
def leadingDigits : Nat → Text → List Nat × Text
  | 0, t => ([], t)
  | _ + 1, [] => ([], [])
  | most + 1, c :: rest =>
    match c.asciiDigit? with
    | none => ([], c :: rest)
    | some d =>
      let (digits, after) := leadingDigits most rest
      (d :: digits, after)

/-- A number with no fewer and no more digits than given, and what follows it. -/
def number? (least most : Nat) (t : Text) : Option (Nat × Text) :=
  let (digits, rest) := leadingDigits most t
  if digits.length < least then none else some (Numeral.ofDigits 10 digits, rest)

/-- What follows a mark. -/
def afterMark? (mark : Char) (t : Text) : Option Text :=
  if t.head? = some (.char mark) then some t.tail else none

def isBlank (c : CodePoint) : Bool :=
  c = ' ' || c = '\t'

/-- What follows the letter or the blanks between day and time. -/
def afterSeparator? (t : Text) : Option Text :=
  match t with
  | [] => none
  | c :: rest =>
    if c = 'T' ∨ c = 't' then some rest
    else if isBlank c then some (rest.dropWhile isBlank)
    else none

/-- The microseconds of a fraction of a second; digits behind the sixth do not count. -/
def microseconds (digits : List Nat) : Nat :=
  Numeral.ofDigits 10 ((digits ++ List.replicate 6 0).take 6)

/-- The fraction of a second, if there is one, and what follows. -/
def fraction (t : Text) : Nat × Text :=
  match afterMark? '.' t with
  | none => (0, t)
  | some rest =>
    let (digits, rest) := leadingDigits rest.length rest
    (microseconds digits, rest)

/-- The offset at the end, which may be missing. -/
def zone? (t : Text) : Option (Option Int) :=
  if t.isEmpty then some none
  else
    match t.dropWhile isBlank with
    | [.char 'Z'] => some (some 0)
    | sign :: rest => do
      if sign ≠ '+' ∧ sign ≠ '-' then none
      else
        let (hours, rest) ← number? 1 2 rest
        let (minutes, rest) ← if rest.isEmpty then some (0, rest)
          else (afterMark? ':' rest).bind (number? 2 2)
        let offset : Int := hours * 60 + minutes
        if rest.isEmpty then some (some (if sign = '-' then -offset else offset)) else none
    | [] => none

/-- Reads a timestamp, if the text has the form of one.  Its numbers may be out of their ranges. -/
def read? (t : Text) : Option Timestamp := do
  let (year, t) ← number? 4 4 t
  let (month, t) ← number? 1 2 (← afterMark? '-' t)
  let (day, t) ← number? 1 2 (← afterMark? '-' t)
  let date : Date := ⟨year, month, day⟩
  if t.isEmpty then return .date date
  let (hour, t) ← number? 1 2 (← afterSeparator? t)
  let (minute, t) ← number? 2 2 (← afterMark? ':' t)
  let (second, t) ← number? 2 2 (← afterMark? ':' t)
  let (microsecond, t) := fraction t
  return .time ⟨date, hour, minute, second, microsecond, ← zone? t⟩

/-- Whether a text without a tag is a timestamp: a day alone has two digits for the month and two
for the day. -/
def isForm (t : Text) : Bool :=
  match read? t with
  | none => false
  | some (.date _) => t.length = 10
  | some (.time _) => true

def fault? : Timestamp → Option TimestampFault
  | .date d => d.fault?
  | .time t => t.fault?

end Timestamp

end LogShipper.Yaml
