import SdkGen.Text.Numeral
import SdkGen.Value

/-!
# Dates and times of YAML

A date has a year of four digits, a month and a day; behind it may stand a time of day, perhaps with a
fraction of a second and a zone. A text can have that form without there being such a day, such a time
or such a zone.
-/

namespace SdkGen.Yaml

/-- A day as it is written, perhaps with a time. -/
structure Stamp where
  day : Day
  time : Option DayTime

/-- The number that between `least` and `most` digits at the start write, and what follows. -/
def takeDigits (least most : Nat) (cs : List Char) : Option (Nat × List Char) :=
  let ds := (cs.takeWhile Char.isDigit).take most
  if ds.length < least then none else some (Text.digitsIn 10 ds, cs.drop ds.length)

/-- Whether a character is a blank within a line. -/
def isSpace (c : Char) : Bool := c == ' ' || c == '\t'

/-- The zone that the rest of a text writes, if it writes one; nothing else may follow. -/
def readZone? (cs : List Char) : Option (Option Int) :=
  match cs.dropWhile isSpace with
  | [] => if cs.isEmpty then some none else none
  | ['Z'] => some (some 0)
  | sign :: rest => do
    let negative ← if sign == '-' then some true else if sign == '+' then some false else none
    let (hours, rest) ← takeDigits 1 2 rest
    let minutes ← match rest with
      | [] => some 0
      | ':' :: rest => (takeDigits 2 2 rest).bind fun (n, rest) => if rest.isEmpty then some n else none
      | _ => none
    let n : Int := 60 * hours + minutes
    return some (if negative then -n else n)

/-- The millionths that the digits of a fraction begin with. -/
def millionths (ds : List Char) : Nat :=
  Text.digitsIn 10 (ds.take 6 ++ List.replicate (6 - ds.length) '0')

/-- The time of day that the rest of a text writes. -/
def readDayTime? (cs : List Char) : Option DayTime := do
  let (hour, rest) ← takeDigits 1 2 cs
  let ':' :: rest := rest | none
  let (minute, rest) ← takeDigits 2 2 rest
  let ':' :: rest := rest | none
  let (second, rest) ← takeDigits 2 2 rest
  let (fraction, rest) := match rest with
    | '.' :: rest => rest.span Char.isDigit
    | _ => ([], rest)
  return { hour, minute, second, millionths := millionths fraction, zone := ← readZone? rest }

/-- The date, perhaps with a time, that a text writes. -/
def Stamp.read? (cs : List Char) : Option Stamp := do
  let (year, rest) ← takeDigits 4 4 cs
  let '-' :: rest := rest | none
  let (month, rest) ← takeDigits 1 2 rest
  let '-' :: rest := rest | none
  let (day, rest) ← takeDigits 1 2 rest
  let time ← match rest with
    | [] => some none
    | 'T' :: rest | 't' :: rest => (readDayTime? rest).map some
    | c :: rest => if isSpace c then (readDayTime? (rest.dropWhile isSpace)).map some else none
  return { day := { year, month, day }, time }

/-- Whether a text has the form of a date, perhaps with a time, in which a date alone has two digits for
the month and for the day. -/
def isMoment (cs : List Char) : Bool :=
  match Stamp.read? cs with
  | some s => s.time.isSome || cs.length = 10
  | none => false

/-- The first part of a day that is out of its bounds. -/
def dayFault? (d : Day) : Option Fault :=
  if d.year = 0 then some (.noSuchMoment .year)
  else if d.month = 0 ∨ 12 < d.month then some (.noSuchMoment .month)
  else if d.day = 0 ∨ daysIn d.year d.month < d.day then some (.noSuchMoment .day)
  else none

/-- The first part of a time that is out of its bounds. -/
def timeFault? (t : DayTime) : Option Fault :=
  if 23 < t.hour then some (.noSuchMoment .hour)
  else if 59 < t.minute then some (.noSuchMoment .minute)
  else if 59 < t.second then some (.noSuchMoment .second)
  else none

/-- The fault of a zone that is a day or more away. -/
def zoneFault? (t : DayTime) : Option Fault :=
  t.zone.bind fun minutes =>
    if minutes.natAbs < 1440 then none
    else some (.zoneTooFar (minutes.fdiv 1440) ((minutes.fmod 1440).toNat * 60))

/-- The date or time that there is; a zone is looked at before the day. -/
def Stamp.moment (s : Stamp) : Except Fault Moment :=
  match s.time with
  | none => (dayFault? s.day).elim (.ok (.date s.day)) .error
  | some t =>
    (((zoneFault? t).or (dayFault? s.day)).or (timeFault? t)).elim (.ok (.dateTime s.day t)) .error

end SdkGen.Yaml
