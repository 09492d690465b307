/-!
# Dates and times

Days of the proleptic Gregorian calendar from year 1 to year 9999, and times of day with
microseconds and an optional offset from universal time. `Date.ofParts?` and `DateTime.ofParts?`
are the only checks; everything else is text.
-/

namespace NodeGraph

/-- A decimal number filled up with zeros on the left. -/
def padded (width n : Nat) : String :=
  let digits := Nat.toDigits 10 n
  String.ofList (List.replicate (width - digits.length) '0' ++ digits)

structure Date where
  year : Nat
  month : Nat
  day : Nat
  deriving DecidableEq, Inhabited, Repr

namespace Date

def isLeapYear (year : Nat) : Bool :=
  year % 4 = 0 && (year % 100 ≠ 0 || year % 400 = 0)

def daysInMonth (year month : Nat) : Nat :=
  match month with
  | 2 => if isLeapYear year then 29 else 28
  | 4 | 6 | 9 | 11 => 30
  | _ => 31

def ofParts? (year month day : Nat) : Option Date :=
  if 1 ≤ year ∧ year ≤ 9999 ∧ 1 ≤ month ∧ month ≤ 12 ∧ 1 ≤ day ∧ day ≤ daysInMonth year month then
    some ⟨year, month, day⟩
  else none

/-- The text `2020-01-02`. -/
def text (d : Date) : String :=
  padded 4 d.year ++ "-" ++ padded 2 d.month ++ "-" ++ padded 2 d.day

/-- Days since the day before year 1. -/
def ordinal (d : Date) : Nat :=
  let before := d.year - 1
  let months := (List.range (d.month - 1)).map fun m => daysInMonth d.year (m + 1)
  365 * before + before / 4 - before / 100 + before / 400 + months.foldl (· + ·) 0 + d.day

end Date

/-- A moment on the calendar; `offset` is the distance from universal time in minutes, if known. -/
structure DateTime where
  date : Date
  hour : Nat
  minute : Nat
  second : Nat
  microsecond : Nat
  offset : Option Int
  deriving DecidableEq, Inhabited, Repr

namespace DateTime

/-- The moment with these parts, if each is in its range; an offset stays below one day. -/
def ofParts? (date : Date) (hour minute second microsecond : Nat) (offset : Option Int) :
    Option DateTime :=
  if hour < 24 ∧ minute < 60 ∧ second < 60 ∧ (offset.all fun o => o.natAbs < 24 * 60) then
    some ⟨date, hour, minute, second, microsecond, offset⟩
  else none

def offsetText (offset : Int) : String :=
  (if offset < 0 then "-" else "+") ++ padded 2 (offset.natAbs / 60) ++ ":" ++
    padded 2 (offset.natAbs % 60)

/-- The time of day, with six places after the second if they are not all zero. -/
def clockText (t : DateTime) : String :=
  padded 2 t.hour ++ ":" ++ padded 2 t.minute ++ ":" ++ padded 2 t.second ++
    (if t.microsecond = 0 then "" else "." ++ padded 6 t.microsecond)

/-- Date and time with `separator` between them. -/
def textWith (separator : String) (t : DateTime) : String :=
  t.date.text ++ separator ++ t.clockText ++ (t.offset.elim "" offsetText)

/-- The form that is written to files: universal time is marked by the letter Z. -/
def fileText (t : DateTime) : String :=
  t.date.text ++ "T" ++ t.clockText ++
    (t.offset.elim "" fun o => if o = 0 then "Z" else offsetText o)

/-- Microseconds since the start of year 1 in universal time, taking a missing offset as zero. -/
def instant (t : DateTime) : Int :=
  let minutes : Int := ((t.date.ordinal * 24 + t.hour) * 60 + t.minute : Nat)
  ((minutes - t.offset.getD 0) * 60 + t.second) * 1000000 + t.microsecond

/-- Whether two moments are the same; one with an offset never equals one without. -/
def sameInstant (a b : DateTime) : Bool :=
  a.offset.isSome = b.offset.isSome && a.instant = b.instant

end DateTime

end NodeGraph
