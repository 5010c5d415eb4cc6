import RobotSession.Lua.Access
import RobotSession.Session.Timestamp

/-!
# Dates

Times are seconds since the beginning of 1970, and all dates are in UTC. Texts are those of the C
locale.

* `Moment.ofSeconds`, `Moment.seconds` — a time as a date, and back.
* `Moment.text?` — a date as a conversion specifier shows it.
* `Dates.date`, `Dates.time` — `os.date` and `os.time`.
-/

namespace RobotSession.Lua.Library

open Text (octets)

/-- A date and a time of day. -/
structure Moment where
  year : Int
  month : Nat
  day : Nat
  hour : Nat
  minute : Nat
  second : Nat

namespace Moment

/-- The leap years before a year, counted from year 1. -/
def leapsBefore (year : Int) : Int :=
  let y := year - 1
  y.fdiv 4 - y.fdiv 100 + y.fdiv 400

/-- The days from the beginning of 1970 to the beginning of a year. -/
def daysBefore (year : Int) : Int :=
  365 * (year - 1970) + leapsBefore year - leapsBefore 1970

/-- The days of a year before a month. -/
def daysBeforeMonth (year : Int) (month : Nat) : Nat :=
  (List.range (month - 1)).foldl (fun days k => days + Calendar.daysIn year (k + 1)) 0

/-- The days of the year before this one. -/
def yearDay (m : Moment) : Nat :=
  daysBeforeMonth m.year m.month + (m.day - 1)

/-- The days since 1970. -/
def days (m : Moment) : Int :=
  daysBefore m.year + m.yearDay

/-- The days since Sunday; the first day of 1970 was a Thursday. -/
def weekDay (m : Moment) : Nat :=
  ((m.days + 4).fmod 7).toNat

def secondsPerDay : Nat := 86400

/-- The year of a day. There are 146097 days in 400 years, so that the first guess is a year too
late at most. -/
def yearOf (day : Int) : Int :=
  let guess := 1970 + (day * 400).fdiv 146097
  if day < daysBefore guess then guess - 1
  else if daysBefore (guess + 1) ≤ day then guess + 1
  else guess

/-- The date of a time. -/
def ofSeconds (t : Int) : Moment :=
  let day := t.fdiv secondsPerDay
  let second := (t.fmod secondsPerDay).toNat
  let year := yearOf day
  let rest := (day - daysBefore year).toNat
  let month := ((List.range 12).countP fun k => daysBeforeMonth year (k + 1) ≤ rest)
  { year, month, day := rest - daysBeforeMonth year month + 1
    hour := second / 3600, minute := second / 60 % 60, second := second % 60 }

/-- The years that a date can have. -/
def canBe (year : Int) : Bool :=
  -2147483648 ≤ year - 1900 && year - 1900 ≤ 2147483647

/-- The time of a date whose numbers may be too large, or negative. Months and days count from 1. -/
def secondsOf (year month day hour minute second : Int) : Int :=
  let months := year * 12 + (month - 1)
  let first := daysBefore (months.fdiv 12)
    + daysBeforeMonth (months.fdiv 12) ((months.fmod 12).toNat + 1)
  (first + (day - 1)) * secondsPerDay + hour * 3600 + minute * 60 + second

/-! ### Texts -/

def weekDays : List String :=
  ["Sunday", "Monday", "Tuesday", "Wednesday", "Thursday", "Friday", "Saturday"]

def months : List String :=
  ["January", "February", "March", "April", "May", "June", "July", "August", "September",
   "October", "November", "December"]

def short (s : String) : String :=
  (s.take 3).toString

/-- A number in two places. -/
def two (n : Nat) (fill : Char := '0') : String :=
  String.ofList (List.leftpad 2 fill (Nat.toDigits 10 n))

/-- The hour on a clock face. -/
def hourOfTwelve (m : Moment) : Nat :=
  if m.hour % 12 = 0 then 12 else m.hour % 12

/-- How many weeks a year has whose days and weeks begin on Monday: there are 53 if it begins or
ends on a Thursday. -/
def weeksIn (year : Int) : Nat :=
  let last := (daysBefore (year + 1) + 3).fmod 7
  let first := (daysBefore year + 4).fmod 7
  if first = 4 || last = 4 then 53 else 52

/-- The year and the week, where a week belongs to the year of its Thursday. -/
def week (m : Moment) : Int × Nat :=
  let n := (m.yearDay + 1 + 10 - (if m.weekDay = 0 then 7 else m.weekDay)) / 7
  if n = 0 then (m.year - 1, weeksIn (m.year - 1))
  else if weeksIn m.year < n then (m.year + 1, 1)
  else (m.year, n)

def dayText (m : Moment) : String :=
  two m.month ++ "/" ++ two m.day ++ "/" ++ two (m.year.fmod 100).toNat

def timeText (m : Moment) : String :=
  two m.hour ++ ":" ++ two m.minute ++ ":" ++ two m.second

/-- **A conversion specifier.** -/
def text? (m : Moment) (specifier : Char) : Option String :=
  let weekDay := weekDays.getD m.weekDay ""
  let month := months.getD (m.month - 1) ""
  let halfDay := if m.hour < 12 then "AM" else "PM"
  match specifier with
  | 'a' => some (short weekDay)
  | 'A' => some weekDay
  | 'b' => some (short month)
  | 'B' => some month
  | 'c' => some (short weekDay ++ " " ++ short month ++ " " ++ two m.day ' ' ++ " " ++ timeText m
      ++ " " ++ toString m.year)
  | 'C' => some (toString (m.year.fdiv 100))
  | 'd' => some (two m.day)
  | 'D' => some (dayText m)
  | 'e' => some (two m.day ' ')
  | 'F' => some (toString m.year ++ "-" ++ two m.month ++ "-" ++ two m.day)
  | 'g' => some (two (m.week.1.fmod 100).toNat)
  | 'G' => some (toString m.week.1)
  | 'h' => some (short month)
  | 'H' => some (two m.hour)
  | 'I' => some (two m.hourOfTwelve)
  | 'j' => some (String.ofList (List.leftpad 3 '0' (Nat.toDigits 10 (m.yearDay + 1))))
  | 'm' => some (two m.month)
  | 'M' => some (two m.minute)
  | 'n' => some "\n"
  | 'p' => some halfDay
  | 'r' => some (two m.hourOfTwelve ++ ":" ++ two m.minute ++ ":" ++ two m.second ++ " " ++ halfDay)
  | 'R' => some (two m.hour ++ ":" ++ two m.minute)
  | 'S' => some (two m.second)
  | 't' => some "\t"
  | 'T' => some (timeText m)
  | 'u' => some (toString (if m.weekDay = 0 then 7 else m.weekDay))
  | 'U' => some (two ((m.yearDay + 7 - m.weekDay) / 7))
  | 'V' => some (two m.week.2)
  | 'w' => some (toString m.weekDay)
  | 'W' => some (two ((m.yearDay + 7 - (m.weekDay + 6) % 7) / 7))
  | 'x' => some (dayText m)
  | 'X' => some (timeText m)
  | 'y' => some (two (m.year.fmod 100).toNat)
  | 'Y' => some (toString m.year)
  | 'z' => some "+0000"
  | 'Z' => some "GMT"
  | '%' => some "%"
  | _ => none

/-- The specifiers that may stand behind `E` and `O`, which ask for another locale. -/
def alternatives : Char → String
  | 'E' => "cCxXyY"
  | 'O' => "deHImMSuUVwWy"
  | _ => ""

/-- What a template shows of a date. A specifier that there is not is told with all that follows. -/
def format (m : Moment) : List UInt8 → ByteArray → Except ByteArray ByteArray
  | [], acc => .ok acc
  | 37 :: c :: d :: rest, acc =>
    let specifier := Char.ofNat c.toNat
    let alternative := Char.ofNat d.toNat
    match m.text? specifier, m.text? alternative with
    | some s, _ => m.format (d :: rest) (acc ++ octets s)
    | none, some s =>
      if (alternatives specifier).toList.contains alternative then m.format rest (acc ++ octets s)
      else .error (ByteArray.mk (c :: d :: rest).toArray)
    | none, none => .error (ByteArray.mk (c :: d :: rest).toArray)
  | [37, c], acc =>
    match m.text? (Char.ofNat c.toNat) with
    | some s => .ok (acc ++ octets s)
    | none => .error (ByteArray.mk #[c])
  | [37], _ => .error ByteArray.empty
  | c :: rest, acc => m.format rest (acc.push c)

/-- A date as the fields of a table. -/
def fields (m : Moment) : List (String × Value) :=
  let number (n : Int) : Value := .int (Int64.ofInt n)
  [("year", number m.year), ("month", number m.month), ("day", number m.day),
   ("hour", number m.hour), ("min", number m.minute), ("sec", number m.second),
   ("yday", number (m.yearDay + 1)), ("wday", number (m.weekDay + 1)), ("isdst", .bool false)]

def into (m : Moment) (t : Table) : Table :=
  m.fields.foldl (fun t (name, v) => t.setText name v) t

end Moment

namespace Dates

/-- A template without the mark for UTC, which says nothing here. -/
def unmarked : List UInt8 → List UInt8
  | 33 :: rest => rest
  | bs => bs

/-- A time in a template. -/
def dated (template : ByteArray) (t : Int) : Body Reply := do
  let m := Moment.ofSeconds t
  if !Moment.canBe m.year then
    Args.located "date result cannot be represented in this installation"
  let template := unmarked template.toList
  if template = "*t".toUTF8.toList then return .done [← Work.newTable (m.into {})]
  match m.format template ByteArray.empty with
  | .ok s => return .done [.str s]
  | .error specifier =>
    throw (.argument 1 (octets "invalid conversion specifier '%" ++ specifier ++ octets "'"))

def date (args : List Value) : Body Reply := do
  let template ← Args.textOr args 1 (octets "%c")
  if Args.isNone args 2 then return .ask (.dateRead template)
  else dated template (← Args.int args 2).toInt

/-- A field of a date, which is kept less `offset` in 32 bits. Metamethods are not looked at. -/
def field (t : Table) (name : String) (default? : Option Int) (offset : Int) : Body Int := do
  match t.getText name, default? with
  | .nil, some default => return default
  | .nil, none => Args.located s!"field '{name}' missing in date table"
  | v, _ =>
    match Args.asInt? v with
    | none => Args.located s!"field '{name}' is not an integer"
    | some n =>
      let n := n.toInt
      if (if 0 ≤ n then n - offset ≤ 2147483647 else -2147483648 + offset ≤ n) then return n
      else Args.located s!"field '{name}' is out-of-bound"

def time (args : List Value) : Body Reply := do
  if Args.isNone args 1 then return .ask (.secondsRead true)
  let id ← Args.table args 1
  let t ← Work.getTable id
  let year ← field t "year" none 1900
  let month ← field t "month" none 1
  let day ← field t "day" none 0
  let hour ← field t "hour" (some 12) 0
  let minute ← field t "min" (some 0) 0
  let second ← field t "sec" (some 0) 0
  let seconds := Moment.secondsOf year month day hour minute second
  let m := Moment.ofSeconds seconds
  -- the time before the first one stands for a failure
  if !Moment.canBe m.year || seconds = -1 then
    Args.located "time result cannot be represented in this installation"
  -- the date is put right in the table
  Work.modifyTable id m.into
  return .done [.int (Int64.ofInt seconds)]

end Dates

end RobotSession.Lua.Library
