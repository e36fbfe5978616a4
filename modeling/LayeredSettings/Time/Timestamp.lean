set_option autoImplicit false

/-! # Timestamps

A timestamp is a second of Unix time with nanoseconds and the offset from UTC that it was written
with. Dates are those of the Gregorian calendar, counted from the first day of the year zero. -/

namespace LayeredSettings

/-- A point in time. -/
structure Timestamp where
  /-- Seconds since 1970 began in UTC. -/
  seconds : Int
  nanosecond : Nat
  /-- Seconds that local time is ahead of UTC. -/
  offset : Int
deriving DecidableEq, Repr

/-! ## Dates -/

/-- A day of the Gregorian calendar. -/
structure Date where
  year : Nat
  month : Nat
  day : Nat
deriving DecidableEq, Repr

namespace Date

/-- Whether a year has a leap day. -/
def isLeap (year : Nat) : Bool :=
  year % 4 == 0 && (year % 100 != 0 || year % 400 == 0)

/-- The days of a month from 1 to 12. -/
def daysInMonth (year month : Nat) : Nat :=
  if month = 2 then (if isLeap year then 29 else 28)
  else if month = 4 ∨ month = 6 ∨ month = 9 ∨ month = 11 then 30
  else 31

/-- Whether the month and the day exist. -/
def isValid (d : Date) : Bool :=
  1 ≤ d.month && d.month ≤ 12 && 1 ≤ d.day && d.day ≤ daysInMonth d.year d.month

/-- The days from the start of the year zero to the start of a year. -/
def daysBeforeYear (year : Nat) : Nat :=
  365 * year + (year + 3) / 4 - (year + 99) / 100 + (year + 399) / 400

/-- The days of a year before a month. -/
def daysBeforeMonth (year : Nat) : Nat → Nat
  | 0 => 0
  | 1 => 0
  | month + 2 => daysBeforeMonth year (month + 1) + daysInMonth year (month + 1)

/-- The days from the start of 1970 to a date. -/
def unixDay (d : Date) : Int :=
  ((daysBeforeYear d.year + daysBeforeMonth d.year d.month + d.day : Nat) : Int) - 719529

end Date

/-! ## Making timestamps -/

/-- A time of day; a sixtieth second is a leap second. -/
structure Clock where
  hour : Nat
  minute : Nat
  second : Nat
  nanosecond : Nat := 0
deriving DecidableEq, Repr

namespace Timestamp

/-- The seconds of years with four digits, negative years included. -/
def ofUnix? (seconds : Int) : Option Timestamp :=
  if -377705116800 ≤ seconds ∧ seconds ≤ 253402300799 then some ⟨seconds, 0, 0⟩ else none

/-- The Unix second of a local date and time. -/
def unixSecond (d : Date) (hour minute second : Nat) (offset : Int) : Int :=
  d.unixDay * 86400 + ((hour * 3600 + minute * 60 + second : Nat) : Int) - offset

/-- Whether the day after a Unix second starts a month, close to a date: in its month or the next.
    -/
def endsMonth (d : Date) (seconds : Int) : Bool :=
  let start := Date.unixDay ⟨d.year, d.month, 1⟩
  let next := start + Date.daysInMonth d.year d.month
  seconds + 1 == start * 86400 || seconds + 1 == next * 86400

/-- The timestamp of a local date and time with an offset. A leap second is taken only as the last
    second of a month in UTC, and stands for the last nanosecond before it. -/
def ofLocal? (d : Date) (c : Clock) (offset : Int) : Option Timestamp :=
  if !d.isValid || 23 < c.hour || 59 < c.minute then none
  else if c.second = 60 then
    let seconds := unixSecond d c.hour c.minute 59 offset
    if endsMonth d seconds then some ⟨seconds, 999999999, offset⟩ else none
  else if 59 < c.second then none
  else some ⟨unixSecond d c.hour c.minute c.second offset, c.nanosecond, offset⟩

end Timestamp

end LayeredSettings
