import BenchSweep.Calendar
import BenchSweep.Shell.Utility.Numbers

/-! Programs for the time. The host keeps universal time. -/
set_option autoImplicit false

namespace BenchSweep.Shell.Utility

/-! ## Dates -/

def weekdays : List String :=
  ["Sunday", "Monday", "Tuesday", "Wednesday", "Thursday", "Friday", "Saturday"]

def months : List String :=
  ["January", "February", "March", "April", "May", "June", "July", "August", "September", "October",
    "November", "December"]

/-- The first three letters of a name. -/
def short (s : String) : String := String.ofList (s.toList.take 3)

/-- The days from the start of 1970 to a date, if it is not before. -/
def daysTo (year month day : Nat) : Nat :=
  let y := if month ≤ 2 then year - 1 else year
  let m := if month ≤ 2 then month + 9 else month - 3
  365 * y + y / 4 - y / 100 + y / 400 + (153 * m + 2) / 5 + day - 1 - 719468

/-- The day of the week, from Sunday on. -/
def weekday (t : Nat) : Nat := (Instant.seconds t / 86400 + 4) % 7

/-- How many days of the year are over. -/
def dayOfYear (t : Nat) : Nat :=
  let d := Instant.date t
  daysTo d.year d.month d.day - daysTo d.year 1 1

/-- The year and the week, counted from Monday, to which a day belongs. -/
def week (t : Nat) : Nat × Nat :=
  let d := Instant.date t
  let days := Instant.seconds t / 86400
  -- The Thursday of the week decides.
  let thursday := days + 3 - (weekday t + 6) % 7
  let year := (Date.ofDays thursday).year
  let start := daysTo year 1 1
  (if thursday < start then d.year else year, (thursday - start) / 7 + 1)

/-- How a field of a date is filled up. -/
structure Filled where
  text : String
  width : Nat
  fill : Char

def numeral (width n : Nat) (fill : Char) : Filled := ⟨String.ofList (Decimal.digits n), width, fill⟩

/-- A field of a date. -/
def dateField? (t : Nat) (c : Char) : Option Filled :=
  let d := Instant.date t
  let s := Instant.seconds t % 86400
  let hour := s / 3600
  let half := if hour % 12 = 0 then 12 else hour % 12
  let two (n : Nat) : Option Filled := some (numeral 2 n '0')
  let text (x : String) : Option Filled := some ⟨x, 0, ' '⟩
  match c with
  | 's' => some (numeral 1 (Instant.seconds t) '0')
  | 'N' => some ⟨padded 9 (t % Instant.nanosPerSecond), 0, '0'⟩
  | 'Y' => some (numeral 4 d.year '0')
  | 'y' => two (d.year % 100)
  | 'C' => two (d.year / 100)
  | 'm' => two d.month
  | 'd' => two d.day
  | 'e' => some (numeral 2 d.day ' ')
  | 'H' => two hour
  | 'k' => some (numeral 2 hour ' ')
  | 'I' => two half
  | 'l' => some (numeral 2 half ' ')
  | 'M' => two (s / 60 % 60)
  | 'S' => two (s % 60)
  | 'j' => some (numeral 3 (dayOfYear t + 1) '0')
  | 'u' => some (numeral 1 (if weekday t = 0 then 7 else weekday t) '0')
  | 'w' => some (numeral 1 (weekday t) '0')
  | 'U' => two ((dayOfYear t + 7 - weekday t) / 7)
  | 'W' => two ((dayOfYear t + 7 - (weekday t + 6) % 7) / 7)
  | 'V' => two (week t).2
  | 'G' => some (numeral 4 (week t).1 '0')
  | 'g' => two ((week t).1 % 100)
  | 'q' => some (numeral 1 ((d.month + 2) / 3) '0')
  | 'a' => text (short (weekdays.getD (weekday t) ""))
  | 'A' => text (weekdays.getD (weekday t) "")
  | 'b' => text (short (months.getD (d.month - 1) ""))
  | 'h' => text (short (months.getD (d.month - 1) ""))
  | 'B' => text (months.getD (d.month - 1) "")
  | 'p' => text (if hour < 12 then "AM" else "PM")
  | 'P' => text (if hour < 12 then "am" else "pm")
  | 'Z' => text "UTC"
  | 'z' => text "+0000"
  | 'n' => text "\n"
  | 't' => text "\t"
  | '%' => text "%"
  | _ => none

/-- What fields that stand for several others are made of. -/
def dateParts? (c : Char) : Option String :=
  match c with
  | 'F' => some "%Y-%m-%d"
  | 'T' => some "%H:%M:%S"
  | 'X' => some "%H:%M:%S"
  | 'R' => some "%H:%M"
  | 'r' => some "%I:%M:%S %p"
  | 'D' => some "%m/%d/%y"
  | 'x' => some "%m/%d/%y"
  | 'c' => some "%a %b %e %H:%M:%S %Y"
  | _ => none

/-- A field as flags and a width say. -/
def fillField (flags : List Char) (width : Nat) (f : Filled) : String :=
  let fill := match flags.reverse.find? fun c => c == '-' || c == '_' || c == '0' with
    | some '_' => ' '
    | some '0' => '0'
    | _ => f.fill
  let least := if flags.contains '-' then 0 else max width f.width
  let text := if flags.contains '^' then f.text.map Char.toUpper else f.text
  String.ofList (List.replicate (least - text.length) fill) ++ text

/-- A date in a format. -/
def dateText (t : Nat) : Nat → List Char → String
  | 0, _ => ""
  | _ + 1, [] => ""
  | n + 1, '%' :: cs =>
    let flags := cs.takeWhile ['-', '_', '0', '^', '#'].contains
    let behind := cs.drop flags.length
    let digits := behind.takeWhile Char.isDigit
    let behind := behind.drop digits.length
    let width := Arithmetic.ofDigits 10 digits
    let asIs (rest : List Char) : String :=
      String.ofList ('%' :: cs.take (cs.length - rest.length)) ++ dateText t n rest
    match behind with
    | 'N' :: rest =>
      let nanos := padded 9 (t % Instant.nanosPerSecond)
      String.ofList (if digits.isEmpty then nanos.toList else nanos.toList.take width) ++
        dateText t n rest
    | ':' :: 'z' :: rest => "+00:00" ++ dateText t n rest
    | c :: rest =>
      match dateParts? c, dateField? t c with
      | some parts, _ => dateText t n (parts.toList ++ rest)
      | none, some f => fillField flags width f ++ dateText t n rest
      | none, none => asIs rest
    | [] => asIs []
  | n + 1, c :: cs => c.toString ++ dateText t n cs

/-- A number of digits at the start of a text, within bounds. -/
def bounded? (least greatest : Nat) (cs : List Char) : Option Nat :=
  let n := Arithmetic.ofDigits 10 cs
  if cs.isEmpty || !cs.all Char.isDigit || n < least || greatest < n then none else some n

/-- The seconds of a time of day. -/
def timeOfDay? (cs : List Char) : Option Nat :=
  match Text.splitWhere (· == ':') cs with
  | [h, m] => do return (← bounded? 0 23 h) * 3600 + (← bounded? 0 59 m) * 60
  | [h, m, s] => do
    return (← bounded? 0 23 h) * 3600 + (← bounded? 0 59 m) * 60 + (← bounded? 0 60 s)
  | _ => none

/-- The time that a text names. -/
def instant? (now : Nat) (s : String) : Option Nat :=
  let day (cs : List Char) : Option Nat := match Text.splitWhere (· == '-') cs with
    | [y, m, d] => do return daysTo (← bounded? 1970 9999 y) (← bounded? 1 12 m) (← bounded? 1 31 d)
    | _ => none
  let at_ (days seconds : Nat) : Nat := (days * 86400 + seconds) * Instant.nanosPerSecond
  match s.toList with
  | '@' :: cs =>
    match DecimalNumber.ofText? (String.ofList cs) with
    | some x =>
      if x.digits < 0 then none
      else some (x.digits.toNat * Instant.nanosPerSecond / Nat.pow 10 x.places)
    | none => none
  | cs =>
    let cs := if cs.getLast? = some 'Z' then cs.dropLast else cs
    if s = "now" || s = "today" || s = "" then some now
    else if s = "yesterday" then some (now - at_ 1 0)
    else if s = "tomorrow" then some (now + at_ 1 0)
    else
      match Text.splitWhere (fun c => c == ' ' || c == 'T') cs with
      | [d] => (day d).map (at_ · 0)
      | [d, ['U'], ['C']] => (day d).map (at_ · 0)
      | [d, t] => do return at_ (← day d) (← timeOfDay? t)
      | _ => none

def date : Utility := fun args =>
  withOptions 1 [valued 'd' "date", flag 'u' "utc", flag 'u' "universal", flag 'R' "rfc-email",
      ⟨'I', "iso-8601", .optional⟩, valued 'r' "reference", valued 's' "set",
      ⟨'?', "rfc-3339", .required⟩] args fun o rest => do
    let now ← Act.clock
    match rest with
    | _ :: extra :: _ => extraOperand extra
    | _ =>
      match (o.value? 'd').map fun d => (d, instant? now d) with
      | some (d, none) =>
        fault s!"invalid date {Quotation.quoted d}"
        return 1
      | given =>
        let t := (given.bind Prod.snd).getD now
        let iso := match o.value? 'I' with
          | some "seconds" => "%Y-%m-%dT%H:%M:%S+00:00"
          | some "minutes" => "%Y-%m-%dT%H:%M+00:00"
          | some "hours" => "%Y-%m-%dT%H+00:00"
          | some "ns" => "%Y-%m-%dT%H:%M:%S,%N+00:00"
          | _ => "%Y-%m-%d"
        match rest with
        | format :: _ =>
          if format.startsWith "+" then
            let cs := format.toList.drop 1
            emitLine (dateText t (8 * cs.length + 1) cs)
            return 0
          else
            fault s!"invalid date {Quotation.quoted format}"
            return 1
        | [] =>
          let format := if o.has 'I' then iso
            else if o.has 'R' then "%a, %d %b %Y %H:%M:%S %z"
            else "%a %b %e %H:%M:%S %Z %Y"
          emitLine (dateText t 400 format.toList)
          return 0

/-! ## Waiting -/

/-- The nanoseconds of a duration. -/
def duration? (s : String) : Option Nat :=
  let (digits, unit) : List Char × Nat := match s.toList.reverse with
    | 's' :: cs => (cs.reverse, 1)
    | 'm' :: cs => (cs.reverse, 60)
    | 'h' :: cs => (cs.reverse, 3600)
    | 'd' :: cs => (cs.reverse, 86400)
    | cs => (cs.reverse, 1)
  match DecimalNumber.ofText? (String.ofList digits) with
  | some x =>
    if x.digits < 0 then none
    else some (x.digits.toNat * unit * Instant.nanosPerSecond / Nat.pow 10 x.places)
  | none => none

def sleep : Utility := fun args =>
  withOptions 1 [] args fun _ args => do
    if args.isEmpty then missingOperand
    else
      let bad := args.filter fun a => (duration? a).isNone
      if bad.isEmpty then
        Act.spend ((args.filterMap duration?).foldl (· + ·) 0)
        return 0
      else
        bad.forM fun a => (fault s!"invalid time interval {Quotation.quoted a}" : Act Unit)
        advise
        return 1

end BenchSweep.Shell.Utility
