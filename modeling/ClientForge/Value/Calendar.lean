import ClientForge.Decimal.Notation

/-!
Calendar dates and points in time, with their standard text (`isoformat`) and their descriptive text (`repr`).
-/

namespace ClientForge

/-- A date of the Gregorian calendar, years 1 to 9999. -/
structure Date where
  year : Nat
  month : Nat
  day : Nat
deriving DecidableEq, Repr, Inhabited

namespace Date

def isLeap (y : Nat) : Bool := (y % 4 == 0 && y % 100 != 0) || y % 400 == 0

def daysIn (y m : Nat) : Nat :=
  match m with
  | 2 => if isLeap y then 29 else 28
  | 4 | 6 | 9 | 11 => 30
  | _ => 31

/-- The date, if the calendar has it. -/
def of? (y m d : Nat) : Option Date :=
  if 1 ≤ y && y ≤ 9999 && 1 ≤ m && m ≤ 12 && 1 ≤ d && d ≤ daysIn y m then some ⟨y, m, d⟩ else none

/-- The days of the first `m` months of a year. -/
def daysBefore (y : Nat) : Nat → Nat
  | 0 => 0
  | m + 1 => daysBefore y m + daysIn y (m + 1)

/-- Days since the first of January of year 1. -/
def ordinal (d : Date) : Nat :=
  let y := d.year - 1
  365 * y + y / 4 - y / 100 + y / 400 + daysBefore d.year (d.month - 1) + (d.day - 1)

end Date

/-- A point in time: a date, a time of day, and the distance from universal time in minutes, if
it is known. -/
structure Moment where
  date : Date
  hour : Nat
  minute : Nat
  second : Nat
  micro : Nat
  offset : Option Int
deriving DecidableEq, Repr, Inhabited

namespace Moment

/-- The point in time, if the clock has it. An offset is less than a day. -/
def of? (date : Date) (hour minute second micro : Nat) (offset : Option Int) : Option Moment :=
  if hour < 24 && minute < 60 && second < 60 && micro < 1000000 &&
      offset.all (fun o => -1440 < o && o < 1440) then
    some ⟨date, hour, minute, second, micro, offset⟩
  else none

/-- Microseconds of universal time since year 1 (of local time, where the offset is unknown). -/
def instant (t : Moment) : Int :=
  let minutes : Int := (t.date.ordinal * 24 + t.hour) * 60 + t.minute - t.offset.getD 0
  (minutes * 60 + t.second) * 1000000 + t.micro

/-- Do the two name the same instant? Local times are comparable only with local times. -/
def sameInstant (a b : Moment) : Bool :=
  a.offset.isSome == b.offset.isSome && a.instant == b.instant

end Moment

/-! ## Texts -/

private def padded (width n : Nat) : String :=
  .ofList (Decimal.padLeft width (Nat.repr n).toList)

/-- `2024-01-31` -/
def Date.iso (d : Date) : String :=
  padded 4 d.year ++ "-" ++ padded 2 d.month ++ "-" ++ padded 2 d.day

/-- `10:20:30`, with six digits more when there are microseconds. -/
def Moment.clock (t : Moment) : String :=
  padded 2 t.hour ++ ":" ++ padded 2 t.minute ++ ":" ++ padded 2 t.second ++
    (if t.micro = 0 then "" else "." ++ padded 6 t.micro)

/-- `2024-01-31 10:20:30-05:00` -/
def Moment.display (t : Moment) : String :=
  t.date.iso ++ " " ++ t.clock ++
    match t.offset with
    | none => ""
    | some o =>
      (if o < 0 then "-" else "+") ++ padded 2 (o.natAbs / 60) ++ ":" ++ padded 2 (o.natAbs % 60)

/-- `2024-01-31T10:20:30-05:00`, with `Z` for universal time. The hours carry the sign, so an
offset of less than an hour shows none. -/
def Moment.iso (t : Moment) : String :=
  t.date.iso ++ "T" ++ t.clock ++
    match t.offset with
    | none => ""
    | some o =>
      if o = 0 then "Z"
      else
        let hours := o.natAbs / 60
        (if o < 0 && 0 < hours then "-" else "+") ++ padded 2 hours ++ ":" ++
          padded 2 (o.natAbs % 60)

/-- The descriptive text of a date. -/
def Date.describe (d : Date) : String :=
  "datetime.date(" ++ toString d.year ++ ", " ++ toString d.month ++ ", " ++ toString d.day ++ ")"

/-- The descriptive text of a distance from universal time: whole days, and seconds that are
not negative. -/
def describeOffset (o : Int) : String :=
  if o = 0 then "datetime.timezone.utc"
  else
    let seconds := o * 60
    let days := Int.fdiv seconds 86400
    let rest := Int.fmod seconds 86400
    let parts :=
      (if days = 0 then [] else ["days=" ++ toString days]) ++
        (if rest = 0 then [] else ["seconds=" ++ toString rest])
    "datetime.timezone(datetime.timedelta(" ++ ", ".intercalate parts ++ "))"

/-- The descriptive text of a point in time: seconds and microseconds only where needed. -/
def Moment.describe (t : Moment) : String :=
  let fields := [t.date.year, t.date.month, t.date.day, t.hour, t.minute] ++
    (if t.micro ≠ 0 then [t.second, t.micro] else if t.second ≠ 0 then [t.second] else [])
  "datetime.datetime(" ++ ", ".intercalate (fields.map toString) ++
    (match t.offset with
      | none => ""
      | some o => ", tzinfo=" ++ describeOffset o) ++ ")"

end ClientForge
