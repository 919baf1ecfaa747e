/-
# Calendar time

Seconds since the Unix epoch read as a date and a time of day on the
proleptic Gregorian calendar, in Coordinated Universal Time, and a date and
time of day read back as seconds.  Days are counted in eras of 400 years,
which all have the same 146097 days: the day of the era fixes the year of
the era, and the day of that year the month and the day, counting years
from March so that the leap day ends the year.

Dates are written from a pattern of directives, each `%` and a letter; `%%`
is a percent sign, a `%` at the very end stays as it is, and a letter with no
meaning is written back with its `%`.  The letters and what they give:

* `a` the letters `mon`, whatever the day; `A` the weekday's name;
* `b` and `B` the month's short and full name;
* `c` the day, short month, two-digit year, hours and minutes and the zone,
  as in `09 Sep 01 01:46 UTC`;
* `d` the day, `m` the month, `H` the hour, `I` the hour on a twelve-hour
  clock, `M` the minute, `S` the second and `y` the year of the century, all
  with two digits; `j` the day of the year with three; `Y` the year with four;
* `F` the date as `2001-09-09`, `T` the time as `01:46:40`, `R` as `01:46`,
  and `r` as `01:46:40 AM`; `p` `AM` or `PM`;
* `z` the offset `+0000` and `Z` the zone `UTC`;
* `w` the weekday as a number, Sunday being 0.

## Main statements

* `Civil.ofSeconds`: the calendar reading of a moment.
* `secondsOf`: the moment of a date and time, fields out of range carrying
  into the next larger one.
* `Civil.format`: a date written from a pattern.
-/

namespace MudClient.Time

/-- A moment as the calendar reads it. -/
structure Civil where
  year : Int
  /-- From 1 (January) to 12. -/
  month : Nat
  day : Nat
  hour : Nat
  minute : Nat
  second : Nat
  /-- From 0 (Sunday) to 6. -/
  weekday : Nat
  /-- From 1 to 366. -/
  yearDay : Nat
deriving Repr, Inhabited

def eraDays : Int := 146097

def epochShift : Int := 719468

def dateOfDays (days : Int) : Int × Nat × Nat :=
  let z := days + epochShift
  let era := z / eraDays
  let doe := z - era * eraDays
  let yoe := (doe - doe / 1460 + doe / 36524 - doe / 146096) / 365
  let doy := doe - (365 * yoe + yoe / 4 - yoe / 100)
  let mp := (5 * doy + 2) / 153
  let day := doy - (153 * mp + 2) / 5 + 1
  let month := if mp < 10 then mp + 3 else mp - 9
  let year := yoe + era * 400 + (if month ≤ 2 then 1 else 0)
  (year, month.toNat, day.toNat)

/-- The count of days since 1970-01-01 of a year, a month from 1 to 12 and
a day of the month, which may lie outside the month. -/
def daysOfDate (year : Int) (month : Nat) (day : Int) : Int :=
  let y := if month ≤ 2 then year - 1 else year
  let era := y / 400
  let yoe := y - era * 400
  let mp : Int := if month > 2 then month - 3 else month + 9
  let doy := (153 * mp + 2) / 5 + day - 1
  let doe := yoe * 365 + yoe / 4 - yoe / 100 + doy
  era * eraDays + doe - epochShift

def Civil.ofSeconds (t : Int) : Civil :=
  let days := t / 86400
  let secs := (t - days * 86400).toNat
  let (year, month, day) := dateOfDays days
  { year, month, day, hour := secs / 3600, minute := secs / 60 % 60, second := secs % 60,
    weekday := ((days + 4) % 7).toNat,
    yearDay := (days - daysOfDate year 1 1 + 1).toNat }

/-- The seconds since the epoch of a date and time of day; a month outside
1 to 12 carries into the year, and days, hours, minutes and seconds carry
as far as they reach. -/
def secondsOf (year month day hour minute second : Int) : Int :=
  let m := month - 1
  let year := year + m / 12
  let month := (m % 12).toNat + 1
  daysOfDate year month day * 86400 + hour * 3600 + minute * 60 + second

def monthNames : List String :=
  ["January", "February", "March", "April", "May", "June", "July", "August", "September",
   "October", "November", "December"]

def dayNames : List String :=
  ["Sunday", "Monday", "Tuesday", "Wednesday", "Thursday", "Friday", "Saturday"]

def padded (width : Nat) (n : Int) : String :=
  let ds := toString n.natAbs
  (if n < 0 then "-" else "") ++ String.ofList (List.replicate (width - ds.length) '0') ++ ds

namespace Civil

def monthName (c : Civil) : String := monthNames.getD (c.month - 1) ""

def hour12 (c : Civil) : Nat := if c.hour % 12 = 0 then 12 else c.hour % 12

def meridiem (c : Civil) : String := if c.hour < 12 then "AM" else "PM"

def shortYear (c : Civil) : String := padded 2 (c.year.tmod 100)

def directive (c : Civil) : Char → Option String
  | 'a' => some "mon"
  | 'A' => some (dayNames.getD c.weekday "")
  | 'b' => some (c.monthName.take 3).toString
  | 'B' => some c.monthName
  | 'c' => some (padded 2 c.day ++ " " ++ (c.monthName.take 3).toString ++ " " ++ c.shortYear ++ " " ++
      padded 2 c.hour ++ ":" ++ padded 2 c.minute ++ " UTC")
  | 'd' => some (padded 2 c.day)
  | 'F' => some (padded 4 c.year ++ "-" ++ padded 2 c.month ++ "-" ++ padded 2 c.day)
  | 'H' => some (padded 2 c.hour)
  | 'I' => some (padded 2 c.hour12)
  | 'j' => some (padded 3 c.yearDay)
  | 'm' => some (padded 2 c.month)
  | 'M' => some (padded 2 c.minute)
  | 'p' => some c.meridiem
  | 'r' => some (padded 2 c.hour12 ++ ":" ++ padded 2 c.minute ++ ":" ++ padded 2 c.second ++ " " ++
      c.meridiem)
  | 'R' => some (padded 2 c.hour ++ ":" ++ padded 2 c.minute)
  | 'S' => some (padded 2 c.second)
  | 'T' => some (padded 2 c.hour ++ ":" ++ padded 2 c.minute ++ ":" ++ padded 2 c.second)
  | 'y' => some c.shortYear
  | 'Y' => some (padded 4 c.year)
  | 'z' => some "+0000"
  | 'Z' => some "UTC"
  | 'w' => some (toString c.weekday)
  | _ => none

def format (c : Civil) (pattern : List UInt8) : List UInt8 :=
  match pattern with
  | [] => []
  | 37 :: 37 :: rest => 37 :: c.format rest
  | 37 :: b :: rest =>
    match c.directive (Char.ofNat b.toNat) with
    | some s => s.toUTF8.toList ++ c.format rest
    | none => 37 :: b :: c.format rest
  | b :: rest => b :: c.format rest

end Civil

end MudClient.Time
