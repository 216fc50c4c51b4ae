import BenchSweep.Decimal.Notation

/-! Points in time, counted in nanoseconds since the start of 1970 in universal time, and their dates
in the Gregorian calendar. -/
set_option autoImplicit false

namespace BenchSweep

/-- A day of the calendar. -/
structure Date where
  year : Nat
  month : Nat
  day : Nat
deriving DecidableEq

namespace Date

/-- The date that is `days` after the first of January 1970. Years are counted from March, so that a
leap day is the last of its year, and in cycles of 400 years, which have 146097 days. -/
def ofDays (days : Nat) : Date :=
  let shifted := days + 719468
  let cycle := shifted / 146097
  let dayOfCycle := shifted % 146097
  let yearOfCycle :=
    (dayOfCycle - dayOfCycle / 1460 + dayOfCycle / 36524 - dayOfCycle / 146096) / 365
  let dayOfYear := dayOfCycle - (365 * yearOfCycle + yearOfCycle / 4 - yearOfCycle / 100)
  let monthFromMarch := (5 * dayOfYear + 2) / 153
  let month := if monthFromMarch < 10 then monthFromMarch + 3 else monthFromMarch - 9
  { year := yearOfCycle + 400 * cycle + (if month ≤ 2 then 1 else 0)
    month := month
    day := dayOfYear - (153 * monthFromMarch + 2) / 5 + 1 }

end Date

/-- The digits of `n`, at least `width` of them. -/
def padded (width n : Nat) : String :=
  let ds := Decimal.digits n
  String.ofList (List.replicate (width - ds.length) '0' ++ ds)

namespace Instant

def nanosPerSecond : Nat := Nat.pow 10 9

def seconds (t : Nat) : Nat := t / nanosPerSecond

def date (t : Nat) : Date := Date.ofDays (seconds t / 86400)

/-- The date with `-` between its parts. -/
def dateText (t : Nat) : String :=
  let d := date t
  "-".intercalate [padded 4 d.year, padded 2 d.month, padded 2 d.day]

/-- Hours, minutes and seconds with `mark` between them. -/
def timeText (mark : String) (t : Nat) : String :=
  let s := seconds t % 86400
  mark.intercalate [padded 2 (s / 3600), padded 2 (s / 60 % 60), padded 2 (s % 60)]

/-- The part of a second in as many groups of three digits as it needs. -/
def fraction (t : Nat) : String :=
  let n := t % nanosPerSecond
  if n = 0 then ""
  else if n % Nat.pow 10 6 = 0 then "." ++ padded 3 (n / Nat.pow 10 6)
  else if n % Nat.pow 10 3 = 0 then "." ++ padded 6 (n / Nat.pow 10 3)
  else "." ++ padded 9 n

/-- The form of RFC 3339. -/
def text (t : Nat) : String := dateText t ++ "T" ++ timeText ":" t ++ fraction t ++ "Z"

end Instant

end BenchSweep
