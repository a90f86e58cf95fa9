/-!
# Calendar dates and times of day

Dates of the proleptic Gregorian calendar, times of day to the nanosecond, and their texts.  A
nanosecond count of a whole second or more stands for a leap second.
-/

namespace Criteria
namespace Calendar

structure Date where
  year : Int
  month : Nat
  day : Nat
deriving DecidableEq, Repr

structure Clock where
  hour : Nat
  minute : Nat
  second : Nat
  nanosecond : Nat
deriving DecidableEq, Repr

structure Moment where
  date : Date
  clock : Clock
deriving DecidableEq, Repr

/-!
# Neighbouring days
-/

def isLeapYear (year : Int) : Bool :=
  year % 4 == 0 && (year % 100 != 0 || year % 400 == 0)

def daysIn (year : Int) (month : Nat) : Nat :=
  if month = 2 then
    if isLeapYear year then 29 else 28
  else if month = 4 ∨ month = 6 ∨ month = 9 ∨ month = 11 then
    30
  else
    31

def Date.next (d : Date) : Date :=
  if d.day < daysIn d.year d.month then
    { d with day := d.day + 1 }
  else if d.month < 12 then
    { d with month := d.month + 1, day := 1 }
  else
    ⟨d.year + 1, 1, 1⟩

def Date.previous (d : Date) : Date :=
  if 1 < d.day then
    { d with day := d.day - 1 }
  else if 1 < d.month then
    { d with month := d.month - 1, day := daysIn d.year (d.month - 1) }
  else
    ⟨d.year - 1, 12, 31⟩

/-- The moment at Greenwich when a place `offset` seconds east of it, less than a day away,
shows `m`. -/
def Moment.toGreenwich (m : Moment) (offset : Int) : Moment :=
  let seconds := (m.clock.hour * 3600 + m.clock.minute * 60 + m.clock.second : Int) - offset
  let ofDay := (seconds % 86400).toNat
  { date :=
      if seconds < 0 then m.date.previous
      else if 86400 ≤ seconds then m.date.next
      else m.date
    clock := ⟨ofDay / 3600, ofDay / 60 % 60, ofDay % 60, m.clock.nanosecond⟩ }

/-!
# Texts
-/

def padded (width n : Nat) : String :=
  let digits := Nat.toDigits 10 n
  String.ofList (List.replicate (width - digits.length) '0' ++ digits)

def yearText (year : Int) : String :=
  if 0 ≤ year ∧ year ≤ 9999 then
    padded 4 year.toNat
  else
    (if year < 0 then "-" else "+") ++ padded 4 year.natAbs

def Date.text (d : Date) : String :=
  yearText d.year ++ "-" ++ padded 2 d.month ++ "-" ++ padded 2 d.day

/-- The fraction of a second, in the fewest of three, six or nine digits that are exact. -/
def fractionText (nanosecond : Nat) : String :=
  if nanosecond = 0 then
    ""
  else if nanosecond % 1000000 = 0 then
    "." ++ padded 3 (nanosecond / 1000000)
  else if nanosecond % 1000 = 0 then
    "." ++ padded 6 (nanosecond / 1000)
  else
    "." ++ padded 9 nanosecond

def Clock.text (c : Clock) : String :=
  let leap := c.nanosecond / 1000000000
  padded 2 c.hour ++ ":" ++ padded 2 c.minute ++ ":" ++ padded 2 (c.second + leap) ++
    fractionText (c.nanosecond % 1000000000)

def Moment.text (m : Moment) : String :=
  m.date.text ++ " " ++ m.clock.text

def Moment.greenwichText (m : Moment) : String :=
  m.date.text ++ "T" ++ m.clock.text ++ "+00:00"

end Calendar
end Criteria
