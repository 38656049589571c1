/-!
# Dates and times

The calendar values of a settings file: a date, a time of day, or both together with an optional
offset from universal time. `Moment.text` is the usual interchange form and `Moment.literal` the
form in messages.
-/

namespace MatlabTidy

/-- A day of the calendar. -/
structure Date where
  year : Nat
  month : Nat
  day : Nat
  deriving DecidableEq, Repr

/-- A time of day, down to the millionth of a second. -/
structure TimeOfDay where
  hour : Nat
  minute : Nat
  second : Nat
  micros : Nat
  deriving DecidableEq, Repr

/-- A date, a time of day, or both; the offset is in minutes. -/
inductive Moment where
  | date (d : Date)
  | time (t : TimeOfDay)
  | dateTime (d : Date) (t : TimeOfDay) (offset : Option Int)
  deriving DecidableEq, Repr

/-- A number in at least `width` digits. -/
def padded (width n : Nat) : String :=
  let digits := Nat.toDigits 10 n
  String.ofList (List.replicate (width - digits.length) '0' ++ digits)

namespace Date

/-- Whether a year has a leap day. -/
def isLeap (year : Nat) : Bool := year % 4 = 0 && (year % 100 ≠ 0 || year % 400 = 0)

/-- The number of days of a month. -/
def daysIn (year month : Nat) : Nat :=
  if month = 2 then (if isLeap year then 29 else 28)
  else if month = 4 || month = 6 || month = 9 || month = 11 then 30
  else 31

/-- Whether the calendar has the day. -/
def isValid (d : Date) : Bool :=
  1 ≤ d.year && 1 ≤ d.month && d.month ≤ 12 && 1 ≤ d.day && d.day ≤ daysIn d.year d.month

/-- The interchange form of a date. -/
def text (d : Date) : String := padded 4 d.year ++ "-" ++ padded 2 d.month ++ "-" ++ padded 2 d.day

/-- The parts of the date in a literal. -/
def literalParts (d : Date) : List String := [toString d.year, toString d.month, toString d.day]

end Date

namespace TimeOfDay

/-- The interchange form of a time of day; parts of a second are shown when there are any. -/
def text (t : TimeOfDay) : String :=
  padded 2 t.hour ++ ":" ++ padded 2 t.minute ++ ":" ++ padded 2 t.second
    ++ if t.micros = 0 then "" else "." ++ padded 6 t.micros

/-- The parts of the time in a literal; seconds and their parts are left out when they are zero. -/
def literalParts (t : TimeOfDay) : List String :=
  [toString t.hour, toString t.minute]
    ++ (if t.second = 0 ∧ t.micros = 0 then [] else [toString t.second])
    ++ if t.micros = 0 then [] else [toString t.micros]

end TimeOfDay

namespace Moment

/-- An offset from universal time, as hours and minutes. -/
def offsetText (offset : Int) : String :=
  (if offset < 0 then "-" else "+")
    ++ padded 2 (offset.natAbs / 60) ++ ":" ++ padded 2 (offset.natAbs % 60)

/-- An offset in a literal. A negative offset is a day less and a positive rest. -/
def offsetLiteral (offset : Int) : String :=
  if offset = 0 then "datetime.timezone.utc"
  else if offset < 0 then
    s!"datetime.timezone(datetime.timedelta(days=-1, seconds={offset * 60 + 86400}))"
  else
    s!"datetime.timezone(datetime.timedelta(seconds={offset * 60}))"

/-- The interchange form. -/
def text : Moment → String
  | .date d => d.text
  | .time t => t.text
  | .dateTime d t offset => d.text ++ "T" ++ t.text ++ (offset.map offsetText).getD ""

/-- The form in messages. -/
def literal : Moment → String
  | .date d => "datetime.date(" ++ ", ".intercalate d.literalParts ++ ")"
  | .time t => "datetime.time(" ++ ", ".intercalate t.literalParts ++ ")"
  | .dateTime d t offset =>
    "datetime.datetime(" ++ ", ".intercalate (d.literalParts ++ t.literalParts
      ++ offset.toList.map fun offset => "tzinfo=" ++ offsetLiteral offset) ++ ")"

/-- The kind of the value in messages. -/
def kind : Moment → String
  | .date _ => "datetime.date"
  | .time _ => "datetime.time"
  | .dateTime _ _ _ => "datetime.datetime"

end Moment

end MatlabTidy
