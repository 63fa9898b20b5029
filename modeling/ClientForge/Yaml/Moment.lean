import ClientForge.Text.Search
import ClientForge.Value.Calendar
import ClientForge.Yaml.Fault

/-!
Dates and points in time as scalars (`construct_yaml_timestamp`).
-/

namespace ClientForge.Yaml

def isDigit (c : Char) : Bool := '0' ≤ c && c ≤ '9'

/-- The zone of a time of day. -/
inductive Zone where
  | universal
  | shifted (negative : Bool) (hours minutes : List Char)
deriving Repr, DecidableEq

/-- A time of day as written. -/
structure ClockText where
  hour : List Char
  minute : List Char
  second : List Char
  fraction : List Char
  zone : Option Zone
deriving Repr, DecidableEq

/-- A date as written, perhaps with a time of day. -/
structure MomentText where
  year : List Char
  month : List Char
  day : List Char
  clock : Option ClockText
deriving Repr, DecidableEq

/-- The digits at the front of a text, at least `least` and at most `most`, and the rest. -/
def digits? (least most : Nat) (s : List Char) : Option (List Char × List Char) :=
  let ds := (s.take most).takeWhile isDigit
  if ds.length < least then none else some (ds, s.drop ds.length)

/-- The text after a sign that has to come next. -/
def expect? (c : Char) : List Char → Option (List Char)
  | [] => none
  | d :: s => if c = d then some s else none

def isSpaceOrTab (c : Char) : Bool := c == ' ' || c == '\t'

/-- The zone that is the rest of a text. -/
def Zone.read? : List Char → Option Zone
  | ['Z'] => some .universal
  | c :: s =>
    if c = '+' || c = '-' then do
      let (hours, s) ← digits? 1 2 s
      match s with
      | [] => return .shifted (c == '-') hours []
      | ':' :: s =>
        match ← digits? 2 2 s with
        | (minutes, []) => return .shifted (c == '-') hours minutes
        | _ => none
      | _ => none
    else none
  | [] => none

/-- The time of day that is the rest of a text. -/
def ClockText.read? (s : List Char) : Option ClockText := do
  let (hour, s) ← digits? 1 2 s
  let (minute, s) ← digits? 2 2 (← expect? ':' s)
  let (second, s) ← digits? 2 2 (← expect? ':' s)
  let (fraction, s) :=
    match s with
    | '.' :: s => (s.takeWhile isDigit, s.dropWhile isDigit)
    | s => ([], s)
  if s.isEmpty then return ⟨hour, minute, second, fraction, none⟩
  else return ⟨hour, minute, second, fraction, some (← Zone.read? (s.dropWhile isSpaceOrTab))⟩

/-- The date, perhaps with a time of day, that a text is. Between the two stands a letter `T` or
blanks. -/
def MomentText.read? (s : List Char) : Option MomentText := do
  let (year, s) ← digits? 4 4 s
  let (month, s) ← digits? 1 2 (← expect? '-' s)
  let (day, s) ← digits? 1 2 (← expect? '-' s)
  match s with
  | [] => return ⟨year, month, day, none⟩
  | c :: rest =>
    if c = 'T' || c = 't' then return ⟨year, month, day, some (← ClockText.read? rest)⟩
    else if isSpaceOrTab c then
      return ⟨year, month, day, some (← ClockText.read? (rest.dropWhile isSpaceOrTab))⟩
    else none

/-- Is the spelling that of a date or time without a tag? Without a time of day, month and day
need two digits. -/
def MomentText.isPlain (m : MomentText) : Bool :=
  m.clock.isSome || (m.month.length == 2 && m.day.length == 2)

/-- The number written by decimal digits. -/
def numberOf (ds : List Char) : Nat := ds.foldl (fun n d => n * 10 + (d.toNat - 48)) 0

/-- Six digits of a fraction of a second. -/
def microseconds (fraction : List Char) : Nat :=
  let ds := fraction.take 6
  numberOf (ds ++ List.replicate (6 - ds.length) '0')

def Zone.minutes : Zone → Int
  | universal => 0
  | shifted negative hours minutes =>
    let n : Int := numberOf hours * 60 + numberOf minutes
    if negative then -n else n

/-- A date of the calendar or a point in time. -/
inductive DateOrMoment where
  | date (d : Date)
  | moment (t : Moment)
deriving Repr

/-- The date or point in time that is written. -/
def MomentText.resolve (m : MomentText) : Except Fault DateOrMoment :=
  match Date.of? (numberOf m.year) (numberOf m.month) (numberOf m.day) with
  | none => .error .badValue
  | some d =>
    match m.clock with
    | none => .ok (.date d)
    | some c =>
      match Moment.of? d (numberOf c.hour) (numberOf c.minute) (numberOf c.second)
          (microseconds c.fraction) (c.zone.map Zone.minutes) with
      | some t => .ok (.moment t)
      | none => .error .badValue

end ClientForge.Yaml
