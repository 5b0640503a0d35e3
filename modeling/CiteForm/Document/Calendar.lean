/-!
# Calendar dates and moments

Dates of the proleptic Gregorian calendar from year 1 to 9999, and moments: a date with a time
of day to the microsecond, either local or with a fixed offset from UTC of less than a day
either way.

Making one from its fields checks them in order (year, month, day, hour, minute, second) and
names the first that is out of range; the offset is checked before all of them. A date is
written `YYYY-MM-DD`; a moment adds the time after a space, the microseconds only when there
are any, and the offset as `+HH:MM` or `-HH:MM`.

Two local moments are equal when their fields are, and two moments with offsets when they
name the same instant; a local moment never equals one with an offset.

* `Date`, `Date.make`, `Date.text` — dates.
* `Moment`, `Moment.make`, `Moment.text`, `Moment.same` — moments.
* `CalendarError.message` — why fields make no date or moment.
-/

namespace CiteForm

/-- A day of the calendar. -/
structure Date where
  year : Nat
  month : Nat
  day : Nat
  deriving DecidableEq, Repr

/-- A date with a time of day, and its offset from UTC in seconds if it has one. -/
structure Moment where
  date : Date
  hour : Nat
  minute : Nat
  second : Nat
  micro : Nat
  offset : Option Int
  deriving DecidableEq, Repr

/-- Why fields make no date or moment: the first field out of range. -/
inductive CalendarError where
  | year (y : Nat)
  | month
  | day
  | hour
  | minute
  | second
  /-- An offset of a day or more, in seconds. -/
  | offset (seconds : Int)
  deriving DecidableEq, Repr

/-- Whether a year has a 29th of February. -/
def isLeapYear (y : Nat) : Bool :=
  y % 4 == 0 && (y % 100 != 0 || y % 400 == 0)

/-- The number of days of a month of a year. -/
def daysInMonth (y m : Nat) : Nat :=
  if m == 2 then (if isLeapYear y then 29 else 28)
  else if m == 4 || m == 6 || m == 9 || m == 11 then 30
  else 31

/-- A span of time as a constructor call writes it: whole days, then the seconds and
microseconds left, each named only when it is not zero. -/
def spanText (seconds : Int) : String :=
  let days := seconds.fdiv 86400
  let rest := seconds.fmod 86400
  let fields :=
    (if days != 0 then ["days=" ++ toString days] else []) ++
      (if rest != 0 then ["seconds=" ++ toString rest] else [])
  "datetime.timedelta(" ++ (if fields.isEmpty then "0" else ", ".intercalate fields) ++ ")"

/-- The message of a calendar error. -/
def CalendarError.message : CalendarError → String
  | .year y => "year " ++ toString y ++ " is out of range"
  | .month => "month must be in 1..12"
  | .day => "day is out of range for month"
  | .hour => "hour must be in 0..23"
  | .minute => "minute must be in 0..59"
  | .second => "second must be in 0..59"
  | .offset s =>
    "offset must be a timedelta strictly between -timedelta(hours=24) and timedelta(hours=24), " ++
      "not " ++ spanText s ++ "."

/-- The date of the fields, if they make one. -/
def Date.make (y m d : Nat) : Except CalendarError Date :=
  if y < 1 || y > 9999 then .error (.year y)
  else if m < 1 || m > 12 then .error .month
  else if d < 1 || d > daysInMonth y m then .error .day
  else .ok ⟨y, m, d⟩

/-- The moment of the fields, if they make one: the offset first, then the date, then the
time of day. -/
def Moment.make (y m d h mi s us : Nat) (offset : Option Int) :
    Except CalendarError Moment := do
  if let some o := offset then
    if o ≤ -86400 || 86400 ≤ o then throw (.offset o)
  let date ← Date.make y m d
  if h > 23 then throw .hour
  if mi > 59 then throw .minute
  if s > 59 then throw .second
  pure ⟨date, h, mi, s, us, offset⟩

/-- A number written with at least `width` digits. -/
def padded (width n : Nat) : String :=
  let ds := toString n
  String.ofList (List.replicate (width - ds.length) '0') ++ ds

/-- A date as `YYYY-MM-DD`. -/
def Date.text (d : Date) : String :=
  padded 4 d.year ++ "-" ++ padded 2 d.month ++ "-" ++ padded 2 d.day

/-- An offset as `+HH:MM` or `-HH:MM`, with `:SS` when it has seconds. -/
def offsetText (o : Int) : String :=
  let sign := if o < 0 then "-" else "+"
  let a := o.natAbs
  sign ++ padded 2 (a / 3600) ++ ":" ++ padded 2 (a % 3600 / 60) ++
    (if a % 60 != 0 then ":" ++ padded 2 (a % 60) else "")

/-- A moment as its date, a space and `HH:MM:SS`, then `.ffffff` when it has microseconds and
its offset when it has one. -/
def Moment.text (t : Moment) : String :=
  t.date.text ++ " " ++ padded 2 t.hour ++ ":" ++ padded 2 t.minute ++ ":" ++ padded 2 t.second ++
    (if t.micro != 0 then "." ++ padded 6 t.micro else "") ++
    (match t.offset with
      | some o => offsetText o
      | none => "")

/-- The number of days from the start of year 1 to a date. -/
def Date.ordinal (d : Date) : Nat :=
  let y := d.year - 1
  let before := y * 365 + y / 4 - y / 100 + y / 400
  let months := (List.range (d.month - 1)).foldl (fun acc m => acc + daysInMonth d.year (m + 1)) 0
  before + months + d.day

/-- The microseconds from the start of year 1 to a moment, read on its own clock. -/
def Moment.clock (t : Moment) : Int :=
  ((t.date.ordinal * 86400 + t.hour * 3600 + t.minute * 60 + t.second : Nat) : Int) * 1000000 +
    t.micro

/-- Whether two moments are equal: both local with the same fields, or both with offsets and
the same instant. -/
def Moment.same (a b : Moment) : Bool :=
  match a.offset, b.offset with
  | none, none => a == b
  | some x, some y => a.clock - x * 1000000 == b.clock - y * 1000000
  | _, _ => false

example : (Date.make 2024 2 30).toOption = none ∧ (Date.make 2024 2 29).toOption.isSome := by
  decide

example : spanText 90000 = "datetime.timedelta(days=1, seconds=3600)" := by decide

example : spanText (-90000) = "datetime.timedelta(days=-2, seconds=82800)" := by decide

end CiteForm
