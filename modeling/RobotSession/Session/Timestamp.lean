import RobotSession.Text.Blank

/-!
# Points in time

A point in time is a date of the Gregorian calendar, extended to all years, and a time of
day in UTC. A minute may have a leap second.

* `Timestamp.write` — the written form: `T` between date and time, a fraction of 0, 3, 6 or
  9 digits, and `Z`.
* `Timestamp.read` — reads a date, a time and an offset from UTC. Numbers may be shorter
  than they should be, and blanks may stand at the front, before separators, and around the
  offset.
-/

namespace RobotSession

open Text (dropBlanks)

namespace Calendar

def isLeap (year : Int) : Bool :=
  year % 4 = 0 && (year % 100 ≠ 0 || year % 400 = 0)

def daysIn (year : Int) (month : Nat) : Nat :=
  if month = 2 then (if isLeap year then 29 else 28)
  else if month = 4 || month = 6 || month = 9 || month = 11 then 30
  else 31

/-- The years that dates may have. -/
def minYear : Int := -262143
def maxYear : Int := 262142

/-- A date. -/
structure Date where
  year : Int
  month : Nat
  day : Nat
  deriving DecidableEq, Inhabited

namespace Date

def isValid (d : Date) : Bool :=
  minYear ≤ d.year && d.year ≤ maxYear && 1 ≤ d.month && d.month ≤ 12 && 1 ≤ d.day
    && d.day ≤ daysIn d.year d.month

/-- The next day. -/
def succ (d : Date) : Date :=
  if d.day < daysIn d.year d.month then { d with day := d.day + 1 }
  else if d.month < 12 then { d with month := d.month + 1, day := 1 }
  else ⟨d.year + 1, 1, 1⟩

/-- The day before. -/
def pred (d : Date) : Date :=
  if 1 < d.day then { d with day := d.day - 1 }
  else if 1 < d.month then { d with month := d.month - 1, day := daysIn d.year (d.month - 1) }
  else ⟨d.year - 1, 12, 31⟩

end Date

end Calendar

open Calendar

/-- A point in time. The second 60 is a leap second. -/
structure Timestamp where
  date : Date
  hour : Nat
  minute : Nat
  second : Nat
  nanosecond : Nat
  date_valid : date.isValid = true := by decide
  hour_lt : hour < 24 := by decide
  minute_lt : minute < 60 := by decide
  second_le : second ≤ 60 := by decide
  nanosecond_lt : nanosecond < 1000000000 := by decide
  deriving DecidableEq

namespace Timestamp

def epoch : Timestamp :=
  { date := ⟨1970, 1, 1⟩, hour := 0, minute := 0, second := 0, nanosecond := 0 }

instance : Inhabited Timestamp := ⟨epoch⟩

/-- The point in time with given parts, if there is one. -/
def of? (date : Date) (hour minute second nanosecond : Nat) : Option Timestamp :=
  if h : date.isValid = true ∧ hour < 24 ∧ minute < 60 ∧ second ≤ 60 ∧ nanosecond < 1000000000
  then some { date, hour, minute, second, nanosecond
              date_valid := h.1, hour_lt := h.2.1, minute_lt := h.2.2.1
              second_le := h.2.2.2.1, nanosecond_lt := h.2.2.2.2 }
  else none

/-! ### Writing -/

/-- At least `width` digits. -/
def padded (width n : Nat) : List Char :=
  let ds := Nat.toDigits 10 n
  List.replicate (width - ds.length) '0' ++ ds

/-- A year; one that does not have four digits has a sign. -/
def yearText (y : Int) : List Char :=
  if 0 ≤ y && y ≤ 9999 then padded 4 y.toNat
  else (if y < 0 then '-' else '+') :: padded 4 y.natAbs

/-- The fraction of a second: 0, 3, 6 or 9 digits. -/
def fractionText (n : Nat) : List Char :=
  if n = 0 then []
  else if n % 1000000 = 0 then '.' :: padded 3 (n / 1000000)
  else if n % 1000 = 0 then '.' :: padded 6 (n / 1000)
  else '.' :: padded 9 n

/-- The written form. -/
def write (t : Timestamp) : String :=
  String.ofList (yearText t.date.year ++ '-' :: padded 2 t.date.month ++ '-' :: padded 2 t.date.day
    ++ 'T' :: padded 2 t.hour ++ ':' :: padded 2 t.minute ++ ':' :: padded 2 t.second
    ++ fractionText t.nanosecond ++ ['Z'])

/-! ### Reading -/

/-- What is wrong with a text. -/
inductive Fault
  | outOfRange
  | impossible
  | invalid
  | tooShort
  | tooLong
  deriving DecidableEq

def Fault.message : Fault → String
  | .outOfRange => "input is out of range"
  | .impossible => "no possible date and time matching input"
  | .invalid => "input contains invalid characters"
  | .tooShort => "premature end of input"
  | .tooLong => "trailing input"

/-- Takes something off the front of a text. -/
abbrev Scan := StateT (List Char) (Except Fault)

/-- The largest number that is read. -/
def maxNumber : Nat := 0x7FFFFFFFFFFFFFFF

def digitValue (c : Char) : Nat :=
  c.toNat - 48

/-- The value of digits. -/
def valueOf (ds : List Char) : Nat :=
  ds.foldl (fun n c => n * 10 + digitValue c) 0

/-- Takes between one and `width` digits; without a width, all there are. -/
def number (width : Option Nat) : Scan Nat := do
  let cs ← get
  let field := match width with | some w => cs.take w | none => cs
  let ds := field.takeWhile Char.isDigit
  if cs.isEmpty then throw .tooShort
  if ds.isEmpty then throw .invalid
  if maxNumber < valueOf ds then throw .outOfRange
  set (cs.drop ds.length)
  return valueOf ds

def blanks : Scan Unit :=
  modify dropBlanks

def literal (c : Char) : Scan Unit := do
  match ← get with
  | [] => throw .tooShort
  | d :: rest => if d = c then set rest else throw .invalid

/-- A number between limits. -/
def within (low high n : Nat) : Scan Nat :=
  if low ≤ n && n ≤ high then return n else throw .outOfRange

/-- Takes a number of at most two digits, after blanks. -/
def field (low high : Nat) : Scan Nat := do
  blanks
  within low high (← number (some 2))

/-- Takes a year: four digits at most, or a sign and any number of digits. -/
def year : Scan Int := do
  blanks
  let y : Int ←
    match ← get with
    | '-' :: rest => do
      set rest
      let n ← number none
      pure (-n)
    | '+' :: rest => do
      set rest
      let n ← number none
      pure n
    | _ => do
      -- without a sign a year has four digits at most
      let n ← number (some 4)
      pure n
  if -0x80000000 ≤ y && y < 0x80000000 then return y else throw .outOfRange

/-- Takes a fraction, if there is one. Digits beyond the ninth do not count. -/
def fraction : Scan Nat := do
  match ← get with
  | '.' :: rest =>
    set rest
    let before := rest.length
    let n ← number (some 9)
    let cs ← get
    set (cs.dropWhile Char.isDigit)
    return n * Nat.pow 10 (9 - (before - cs.length))
  | _ => return 0

/-- The next two digits, which are not taken. -/
def pair : Scan (Nat × Nat) := do
  match ← get with
  | [] => throw .tooShort
  | [c] => throw (if c.utf8Size < 2 then .tooShort else .invalid)
  | c :: d :: _ =>
    if c.isDigit && d.isDigit then return (digitValue c, digitValue d) else throw .invalid

/-- Takes an offset from UTC, in minutes. -/
def offset : Scan Int := do
  let signed (negative : Bool) (rest : List Char) : Scan Int := do
    set rest
    let (h, i) ← pair
    set (rest.drop 2)
    -- the hours may be set off by a colon, by blanks or not at all
    modify (List.dropWhile fun c => c = ':' || Text.isBlank c)
    let (m, n) ← pair
    -- only the minutes have a bound of their own
    if 6 ≤ m then throw .outOfRange
    modify (List.drop 2)
    let minutes : Int := ((h * 10 + i) * 60 + m * 10 + n : Nat)
    return if negative then -minutes else minutes
  match ← get with
  | [] => throw .tooShort
  | 'Z' :: rest => do
    set rest
    return 0
  | 'z' :: rest => do
    set rest
    return 0
  | '+' :: rest => signed false rest
  | '-' :: rest => signed true rest
  | '\u2212' :: rest => signed true rest
  | _ => throw .invalid

/-- Takes a zone: `UTC` in any case, or an offset. -/
def zone : Scan Int := do
  let cs ← get
  if (cs.take 3).map Char.toUpper = ['U', 'T', 'C'] then
    set (cs.drop 3)
    return 0
  else offset

/-- The point in time that a local time stands for. -/
def ofLocal (date : Date) (hour minute second nanosecond : Nat) (offset : Int) :
    Except Fault Timestamp :=
  let minutes : Int := hour * 60 + minute - offset
  let day := Int.fdiv minutes 1440
  let minuteOfDay := (Int.fmod minutes 1440).toNat
  if !date.isValid || 1440 ≤ offset.natAbs then .error .outOfRange
  else
    let shifted := if day < 0 then date.pred else if 0 < day then date.succ else date
    match of? shifted (minuteOfDay / 60) (minuteOfDay % 60) second nanosecond with
    | some t => .ok t
    | none => .error .impossible

def whole : Scan Timestamp := do
  let y ← year
  blanks
  literal '-'
  let mo ← field 1 12
  blanks
  literal '-'
  let d ← field 1 31
  match ← get with
  | [] => throw .tooShort
  -- a letter or one blank stands between day and time
  | c :: rest => if c = 't' || c = 'T' || c = ' ' then set rest else throw .invalid
  let h ← field 0 23
  blanks
  literal ':'
  let mi ← field 0 59
  blanks
  literal ':'
  -- sixty is a leap second
  let s ← field 0 60
  let n ← fraction
  blanks
  let z ← zone
  blanks
  if !(← get).isEmpty then throw .tooLong
  match ofLocal ⟨y, mo, d⟩ h mi s n z with
  | .ok t => return t
  | .error f => throw f

/-- Reads a point in time. -/
def read (s : String) : Except Fault Timestamp :=
  match whole s.toList with
  | .ok (t, _) => .ok t
  | .error f => .error f

end Timestamp

end RobotSession
