import Colloquy.Number.Literal

/-!
# Timestamps

A bare text that looks like a date, or like a date with a time of day, has to name one of the
calendar.

* `Timestamp`, `Timestamp.read?`: the texts that look like one;
* `DateError`: what can be wrong with it;
* `Timestamp.error?`: the first thing that is wrong.
-/

namespace Colloquy

namespace Document

/-- A time of day.  Its offset from universal time, if it has one, is in seconds. -/
structure TimeOfDay where
  hour : Nat
  minute : Nat
  second : Nat
  offset : Option Int

/-- A date, perhaps with a time of day. -/
structure Timestamp where
  year : Nat
  month : Nat
  day : Nat
  time : Option TimeOfDay

/-! ### Reading -/

/-- Read at least `least` and at most `most` digits. -/
def takeDigits? (least most : Nat) (s : List Char) : Option (Nat × List Char) :=
  let run := (s.take most).takeWhile Char.isDigit
  if run.length < least then none
  else some (ofDigits (run.filterMap Text.digitValue?), s.drop run.length)

/-- Read one given character. -/
def expect? (c : Char) : List Char → Option (List Char)
  | [] => none
  | d :: rest => if d = c then some rest else none

/-- The text behind a letter or blanks between a date and a time of day. -/
def afterDate? : List Char → Option (List Char)
  | [] => none
  | c :: rest =>
    if c = 'T' ∨ c = 't' then some rest
    else if c = ' ' then some (rest.dropWhile (· == ' '))
    else none

/-- The text without a fraction of a second at its start. -/
def dropFraction : List Char → List Char
  | '.' :: rest => rest.dropWhile Char.isDigit
  | rest => rest

/-- Read an offset in hours and perhaps minutes, and give it in seconds. -/
def readHours? (s : List Char) : Option Int := do
  let (hours, rest) ← takeDigits? 1 2 s
  match rest with
  | [] => return hours * 3600
  | ':' :: rest =>
    let (minutes, rest) ← takeDigits? 2 2 rest
    if rest.isEmpty then return hours * 3600 + minutes * 60 else none
  | _ => none

/-- Read what stands behind a time of day: nothing, or an offset. -/
def readOffset? : List Char → Option (Option Int)
  | [] => some none
  | s =>
    match s.dropWhile (· == ' ') with
    | ['Z'] => some (some 0)
    | '+' :: rest => (readHours? rest).map some
    | '-' :: rest => (readHours? rest).map fun seconds => some (-seconds)
    | _ => none

/-- Read a time of day. -/
def TimeOfDay.read? (s : List Char) : Option TimeOfDay := do
  let (hour, s) ← takeDigits? 1 2 s
  let (minute, s) ← takeDigits? 2 2 (← expect? ':' s)
  let (second, s) ← takeDigits? 2 2 (← expect? ':' s)
  let offset ← readOffset? (dropFraction s)
  return { hour, minute, second, offset }

/-- Read a text that looks like a date or a date with a time of day.  A date alone has two digits
for the month and two for the day. -/
def Timestamp.read? (s : List Char) : Option Timestamp := do
  let (year, rest) ← takeDigits? 4 4 s
  let (month, rest) ← takeDigits? 1 2 (← expect? '-' rest)
  let (day, rest) ← takeDigits? 1 2 (← expect? '-' rest)
  if rest.isEmpty then
    if s.length = 10 then return { year, month, day, time := none } else none
  else
    let time ← TimeOfDay.read? (← afterDate? rest)
    return { year, month, day, time := some time }

/-! ### The calendar -/

/-- Whether a year has a day more than others. -/
def isLeapYear (year : Nat) : Bool := year % 4 == 0 && (year % 100 != 0 || year % 400 == 0)

/-- The number of days of a month. -/
def daysOfMonth (year month : Nat) : Nat :=
  if month = 2 then if isLeapYear year then 29 else 28
  else if month = 4 ∨ month = 6 ∨ month = 9 ∨ month = 11 then 30
  else 31

/-- What can be wrong with a timestamp. -/
inductive DateError
  | offset (seconds : Int)
  | year
  | month
  | day
  | hour
  | minute
  | second
  deriving DecidableEq

/-- A span of a day or more in either direction, as days and the seconds beyond them. -/
def spanText (seconds : Int) : String :=
  let days := seconds.fdiv 86400
  let beyond := seconds.fmod 86400
  "datetime.timedelta(days=" ++ toString days
    ++ (if beyond = 0 then "" else ", seconds=" ++ toString beyond) ++ ")"

/-- The wording of what is wrong with a timestamp. -/
def DateError.message : DateError → String
  | .offset seconds =>
    "offset must be a timedelta strictly between -timedelta(hours=24) and timedelta(hours=24), not "
      ++ spanText seconds ++ "."
  | .year => "year 0 is out of range"
  | .month => "month must be in 1..12"
  | .day => "day is out of range for month"
  | .hour => "hour must be in 0..23"
  | .minute => "minute must be in 0..59"
  | .second => "second must be in 0..59"

/-- What is wrong with an offset: it has to be shorter than a day. -/
def offsetError? (offset : Option Int) : Option DateError :=
  match offset with
  | some seconds => if 86400 ≤ seconds.natAbs then some (.offset seconds) else none
  | none => none

/-- What is wrong with a time of day, apart from its offset. -/
def TimeOfDay.error? (time : TimeOfDay) : Option DateError :=
  if 23 < time.hour then some .hour
  else if 59 < time.minute then some .minute
  else if 59 < time.second then some .second
  else none

/-- What is wrong with a date. -/
def Timestamp.dateError? (t : Timestamp) : Option DateError :=
  if t.year = 0 then some .year
  else if t.month < 1 ∨ 12 < t.month then some .month
  else if t.day < 1 ∨ daysOfMonth t.year t.month < t.day then some .day
  else none

/-- The first thing that is wrong with a timestamp. -/
def Timestamp.error? (t : Timestamp) : Option DateError :=
  (t.time.bind fun time => offsetError? time.offset)
    <|> t.dateError?
    <|> t.time.bind TimeOfDay.error?

end Document

end Colloquy
