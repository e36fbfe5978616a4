import LayeredSettings.Time.Scan
import LayeredSettings.Time.Timestamp

set_option autoImplicit false

/-! # Internet dates

The notation of RFC 3339, `2024-03-01T12:00:00.5+01:00`. Any one ASCII character may stand between
date and time; digits of a fraction after the ninth do not count. -/

namespace LayeredSettings.Time.InternetDate

/-- A date, four digits for the year. -/
def date : Scan Date := do
  let year ← Scan.digits 4
  Scan.char '-'
  let month ← Scan.digits 2
  Scan.char '-'
  let day ← Scan.digits 2
  pure ⟨year, month, day⟩

/-- The nanoseconds of the digits of a fraction. -/
def nanoseconds (fraction : List Char) : Nat :=
  Text.decimalValue ((fraction ++ List.replicate 9 '0').take 9)

/-- The fraction of a second, if a point is there. -/
def fraction : Scan Nat := do
  match ← Scan.optional (Scan.char '.') with
  | none => pure 0
  | some () =>
    let ds ← Scan.digitRun
    Scan.check !ds.isEmpty
    pure (nanoseconds ds)

/-- A time of day. -/
def clock : Scan Clock := do
  let hour ← Scan.digits 2
  Scan.char ':'
  let minute ← Scan.digits 2
  Scan.char ':'
  let second ← Scan.digits 2
  let nanosecond ← fraction
  pure ⟨hour, minute, second, nanosecond⟩

/-- The letter for UTC. -/
def utc : Scan Int := do
  let _ ← Scan.one fun c => c == 'Z' || c == 'z'
  pure 0

/-- An offset in hours and minutes. -/
def signedOffset : Scan Int := do
  let negative ← Scan.sign
  let hours ← Scan.digits 2
  Scan.check (hours ≤ 23)
  Scan.char ':'
  let minutes ← Scan.digits 2
  Scan.check (minutes ≤ 59)
  pure (Scan.offsetOf negative hours minutes)

/-- Date, time and offset. -/
def parts : Scan (Date × Clock × Int) := do
  let d ← date
  let _ ← Scan.one fun c => c.toNat < 0x80
  let c ← clock
  let offset ← Scan.orElse utc signedOffset
  pure (d, c, offset)

/-- The timestamp that a text writes. -/
def timestamp? (cs : List Char) : Option Timestamp :=
  (Scan.whole parts cs).bind fun (d, c, offset) => Timestamp.ofLocal? d c offset

end LayeredSettings.Time.InternetDate
