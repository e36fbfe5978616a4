import LayeredSettings.Time.Scan
import LayeredSettings.Time.Timestamp

set_option autoImplicit false

/-! # Mail dates

The notation of RFC 2822, `Fri, 01 Mar 2024 12:00:00 +0100`. Names of days, months and zones may be
in any case, and the day of the week need not be that of the date. Between the parts stand folding
blanks and comments in nested parentheses. -/

namespace LayeredSettings.Time.MailDate

/-! ## Blanks and comments -/

/-- A blank that a line may be folded before. -/
def isFoldBlank (c : Char) : Bool :=
  c == ' ' || c == '\t'

/-- What follows more folding blanks; a line end among them must have a blank behind it. -/
def afterBlank : List Char → Option (List Char)
  | '\r' :: '\n' :: c :: rest => if isFoldBlank c then afterBlank rest else none
  | ['\r', '\n'] => none
  | c :: rest => if isFoldBlank c then afterBlank rest else some (c :: rest)
  | [] => some []

/-- What follows folding blanks, of which there must be one. -/
def afterFold? : List Char → Option (List Char)
  | '\r' :: '\n' :: c :: rest => if isFoldBlank c then some (rest.dropWhile isFoldBlank) else none
  | c :: rest => if isFoldBlank c then afterBlank rest else none
  | [] => none

/-- A character of a comment that stands for itself. -/
def isCommentChar (c : Char) : Bool :=
  let n := c.toNat
  (1 ≤ n && n ≤ 127) && !(n == 9 || n == 10 || n == 13 || n == 32)
    && c != '(' && c != ')' && c != '\\'

/-- A character that may stand behind a backslash. -/
def isEscapable (c : Char) : Bool :=
  let n := c.toNat
  (1 ≤ n && n ≤ 127) && n != 10 && n != 13

/-- What follows a run of ASCII characters up to a closing parenthesis, or up to a line feed behind
    a carriage return. -/
def afterLooseText (afterReturn : Bool) : List Char → List Char
  | [] => []
  | c :: rest =>
    if c == '\n' then (if afterReturn then c :: rest else afterLooseText false rest)
    else if c == '\r' then afterLooseText true rest
    else if c == ')' || 127 < c.toNat then c :: rest
    else afterLooseText false rest

/-- What follows a backslash that has been read: one character, or a run of loose text if that one
    may not stand there. -/
def afterBackslash? : List Char → Option (List Char)
  | [] => none
  | c :: rest =>
    if isEscapable c then some rest
    else
      let after := afterLooseText false (c :: rest)
      if after.length ≤ rest.length then some after else none

/-- What follows a comment of which so many parentheses are still open. Each round reads a character
    at least. -/
def afterComment : Nat → Nat → List Char → Option (List Char)
  | 0, _, _ => none
  | _, _, [] => none
  | fuel + 1, depth, '\\' :: rest => (afterBackslash? rest).bind (afterComment fuel depth)
  | fuel + 1, depth, '\r' :: '\n' :: c :: rest =>
    if isFoldBlank c then afterComment fuel depth rest else none
  | fuel + 1, depth, c :: rest =>
    if c == '(' then afterComment fuel (depth + 1) rest
    else if c == ')' then (if depth ≤ 1 then some rest else afterComment fuel (depth - 1) rest)
    else if isFoldBlank c || isCommentChar c then afterComment fuel depth rest
    else none

/-- What follows folding blanks or one comment. -/
def afterFiller? : List Char → Option (List Char)
  | '(' :: rest => afterComment (rest.length + 1) 1 rest
  | cs => afterFold? cs

/-- What follows fillers, as many as there are but at most so many. -/
def afterFillers : Nat → List Char → List Char
  | 0, cs => cs
  | fuel + 1, cs =>
    match afterFiller? cs with
    | some rest => afterFillers fuel rest
    | none => cs

/-- Folding blanks. -/
def fold : Scan Unit := fun cs =>
  (afterFold? cs).map fun rest => ((), rest)

/-- Blanks and comments, perhaps none; each takes up a character at least. -/
def fillers : Scan Unit := fun cs =>
  some ((), afterFillers cs.length cs)

/-- Blanks and comments, at least one. -/
def filler : Scan Unit := fun cs =>
  (afterFiller? cs).map fun rest => ((), afterFillers rest.length rest)

/-! ## Names -/

/-- The days of the week. -/
def weekdays : List (String × Unit) :=
  ["Mon", "Tue", "Wed", "Thu", "Fri", "Sat", "Sun"].map fun name => (name, ())

/-- The months with their numbers. -/
def months : List (String × Nat) :=
  [ ("Jan", 1), ("Feb", 2), ("Mar", 3), ("Apr", 4), ("May", 5), ("Jun", 6), ("Jul", 7), ("Aug", 8),
    ("Sep", 9), ("Oct", 10), ("Nov", 11), ("Dec", 12) ]

/-- The named zones with their hours. -/
def zones : List (String × Int) :=
  [ ("UT", 0), ("GMT", 0), ("EST", -5), ("EDT", -4), ("CST", -6), ("CDT", -5), ("MST", -7),
    ("MDT", -6), ("PST", -8), ("PDT", -7) ]

/-! ## The notation -/

/-- A day of the week and a comma, if there is one. -/
def weekday : Scan Unit := do
  match ← Scan.optional (Scan.word weekdays) with
  | none => pure ()
  | some () =>
    Scan.char ','
    fillers

/-- A day of the month: two digits or one. -/
def day : Scan Nat :=
  Scan.orElse (Scan.digits 2) (Scan.digits 1)

/-- A year of four digits, from 1900 on, and folding blanks. -/
def fullYear (year : Nat) : Scan Nat := do
  Scan.check (1900 ≤ year)
  fold
  pure year

/-- A year of two digits, from 1950 to 2049, and blanks or comments. -/
def shortYear : Scan Nat := do
  let year ← Scan.digits 2
  filler
  pure (if year < 50 then year + 2000 else year + 1900)

/-- A year and what separates it from the time. -/
def year : Scan Nat := do
  match ← Scan.optional (Scan.digits 4) with
  | some y => fullYear y
  | none => shortYear

/-- A date and what separates it from the time. -/
def date : Scan Date := do
  fillers
  weekday
  let d ← day
  filler
  let m ← Scan.word months
  filler
  let y ← year
  pure ⟨y, m, d⟩

/-- A colon among blanks and comments. -/
def colon : Scan Unit := do
  fillers
  Scan.char ':'
  fillers

/-- A time of day, seconds perhaps left out, and what separates it from the zone. -/
def clock : Scan Clock := do
  let hour ← Scan.digits 2
  colon
  let minute ← Scan.digits 2
  let second ← Scan.optional (do colon; Scan.digits 2)
  filler
  pure ⟨hour, minute, second.getD 0, 0⟩

/-- A named zone. -/
def namedZone : Scan Int := do
  let hours ← Scan.word zones
  pure (hours * 3600)

/-- A zone of one letter, which means UTC; there is no zone `j`. -/
def letterZone : Scan Int := do
  let _ ← Scan.one fun c => Text.isLetter c && c != 'j' && c != 'J'
  pure 0

/-- An offset in hours and minutes. The sign is that of the hours; zero hours have none, so that
    minutes alone are always ahead of UTC. -/
def signedZone : Scan Int := do
  let negative ← Scan.sign
  let hours ← Scan.digits 2
  Scan.check (hours ≤ 25)
  let minutes ← Scan.digits 2
  Scan.check (minutes ≤ 59)
  pure (Scan.offsetOf (negative && 0 < hours) hours minutes)

/-- Date, time and zone. -/
def parts : Scan (Date × Clock × Int) := do
  let d ← date
  let c ← clock
  let zone ← Scan.orElse namedZone (Scan.orElse letterZone signedZone)
  fillers
  pure (d, c, zone)

/-- The timestamp that a text writes. -/
def timestamp? (cs : List Char) : Option Timestamp :=
  (Scan.whole parts cs).bind fun (d, c, zone) => Timestamp.ofLocal? d c zone

end LayeredSettings.Time.MailDate
