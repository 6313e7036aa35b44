/-!
# Dates and times

Days of the calendar, times of day and both together, with the texts that show them. A time may be one of a zone,
which is so many minutes ahead of the common time.
-/

namespace SdkGen

/-- A day of the calendar. -/
structure Day where
  year : Nat
  month : Nat
  day : Nat
deriving DecidableEq, Repr

structure DayTime where
  hour : Nat
  minute : Nat
  second : Nat
  millionths : Nat := 0
  /-- By how many minutes the zone is ahead, if there is a zone. -/
  zone : Option Int := none
deriving DecidableEq, Repr

/-- A date or time that a document can hold. -/
inductive Moment where
  /-- A day of the calendar. -/
  | date (d : Day)
  | time (t : DayTime)
  /-- A day and a time. -/
  | dateTime (d : Day) (t : DayTime)
deriving DecidableEq, Repr

/-- Whether a year has one more day. -/
def isLeapYear (year : Nat) : Bool := year % 4 = 0 && (year % 100 != 0 || year % 400 = 0)

/-- The number of days of a month. -/
def daysIn (year month : Nat) : Nat :=
  if month = 2 then if isLeapYear year then 29 else 28
  else if month ∈ [4, 6, 9, 11] then 30
  else 31

/-- A number with zeros in front, so that it has so many digits. -/
def padded (width n : Nat) : String :=
  let digits := Nat.toDigits 10 n
  String.ofList (List.replicate (width - digits.length) '0' ++ digits)

namespace Day

/-- The number of days before a day, from the first day of the first year on. -/
def count (d : Day) : Nat :=
  let years := d.year - 1
  365 * years + years / 4 - years / 100 + years / 400 +
    (((List.range d.month).drop 1).map (daysIn d.year)).foldr (· + ·) 0 + (d.day - 1)

/-- A day, the greatest part first. -/
def text (d : Day) : String := padded 4 d.year ++ "-" ++ padded 2 d.month ++ "-" ++ padded 2 d.day

def parts (d : Day) : List Nat := [d.year, d.month, d.day]

end Day

namespace DayTime

/-- The millionths of a second since the day began in the common time, where no zone counts as the common one. -/
def count (t : DayTime) : Int :=
  (((t.hour * 60 + t.minute : Nat) - t.zone.getD 0) * 60 + t.second) * 1000000 + t.millionths

/-- The parts of a time. Seconds and millionths at the end that are zero are left out. -/
def parts (t : DayTime) : List Nat :=
  [t.hour, t.minute] ++
    if t.millionths != 0 then [t.second, t.millionths]
    else if t.second != 0 then [t.second]
    else []

/-- How far a zone is ahead. -/
def zoneText (zone : Int) : String :=
  (if zone < 0 then "-" else "+") ++ padded 2 (zone.natAbs / 60) ++ ":" ++ padded 2 (zone.natAbs % 60)

/-- A time, the greatest part first. -/
def text (t : DayTime) : String :=
  padded 2 t.hour ++ ":" ++ padded 2 t.minute ++ ":" ++ padded 2 t.second ++
    (if t.millionths = 0 then "" else "." ++ padded 6 t.millionths) ++
    (t.zone.map zoneText).getD ""

/-- A zone as it is shown. A day is the greatest part of how far it is ahead. -/
def shownZone (zone : Int) : String :=
  if zone = 0 then "datetime.timezone.utc"
  else
    "datetime.timezone(datetime.timedelta(" ++
      (if zone < 0 then "days=-1, " else "") ++
      "seconds=" ++ toString ((zone.emod 1440) * 60) ++ "))"

/-- The zone of a time as it is shown behind the parts. -/
def shownEnd (t : DayTime) : String := (t.zone.map fun zone => ", tzinfo=" ++ shownZone zone).getD ""

end DayTime

namespace Moment

def kindName : Moment → String
  | date _ => "datetime.date"
  | time _ => "datetime.time"
  | dateTime _ _ => "datetime.datetime"

/-- A moment, the greatest part first. -/
def text : Moment → String
  | date d => d.text
  | time t => t.text
  | dateTime d t => d.text ++ " " ++ t.text

/-- A moment as it is shown. -/
def shown (m : Moment) : String :=
  let enclosed := fun (parts : List Nat) (rest : String) =>
    m.kindName ++ "(" ++ String.intercalate ", " (parts.map toString) ++ rest ++ ")"
  match m with
  | date d => enclosed d.parts ""
  | time t => enclosed t.parts t.shownEnd
  | dateTime d t => enclosed (d.parts ++ t.parts) t.shownEnd

/-- The millionths of a second before a moment. -/
def count : Moment → Int
  | date d => d.count * 86400000000
  | time t => t.count
  | dateTime d t => d.count * 86400000000 + t.count

/-- The zone of a moment, if it has one. -/
def zone? : Moment → Option Int
  | date _ => none
  | time t | dateTime _ t => t.zone

/-- Whether two moments are the same. They are of one kind, and either both or none of them have a zone. -/
def isSame (m n : Moment) : Bool :=
  m.kindName == n.kindName && m.zone?.isSome == n.zone?.isSome && m.count == n.count

end Moment

end SdkGen
