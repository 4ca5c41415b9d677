/-!
# Dates and times

Calendar dates, wall-clock times, and times with an optional offset from universal time.

A stored time is the wall clock only: the offset is dropped, not applied. Stored times are compared
as their texts `YYYY-MM-DD HH:MM:SS.ffffff`, all of one length, and `Timestamp.key` orders them the
same way as a single number.
-/

namespace Recordbook

/-- A natural number in decimal, filled with zeros in front up to a width. -/
def padded (width n : Nat) : String :=
  let digits := toString n
  String.ofList (List.replicate (width - digits.length) '0') ++ digits

/-- A day of the calendar. -/
structure Date where
  /-- The year, from 1 to 9999. -/
  year : Nat
  /-- The month, from 1 to 12. -/
  month : Nat
  /-- The day of the month, from 1. -/
  day : Nat
deriving DecidableEq, Inhabited

namespace Date

/-- The written form `YYYY-MM-DD`. -/
def text (d : Date) : String := padded 4 d.year ++ "-" ++ padded 2 d.month ++ "-" ++ padded 2 d.day

/-- Days are ordered by this number. -/
def key (d : Date) : Nat := (d.year * 100 + d.month) * 100 + d.day

/-- The number of days from the first of January of year 1 to the given day. -/
def dayNumber (d : Date) : Int :=
  let y : Int := if d.month ≤ 2 then (d.year : Int) - 1 else d.year
  let era := y / 400
  let yearOfEra := y - era * 400
  let shifted : Int := if 2 < d.month then (d.month : Int) - 3 else d.month + 9
  let dayOfYear := (153 * shifted + 2) / 5 + d.day - 1
  let dayOfEra := yearOfEra * 365 + yearOfEra / 4 - yearOfEra / 100 + dayOfYear
  era * 146097 + dayOfEra

end Date

/-- A time on a wall clock. -/
structure Timestamp where
  /-- The day. -/
  date : Date
  /-- The hour, from 0 to 23. -/
  hour : Nat
  /-- The minute, from 0 to 59. -/
  minute : Nat
  /-- The second, from 0 to 59. -/
  second : Nat
  /-- The microsecond, from 0 to 999999. -/
  microsecond : Nat
deriving DecidableEq, Inhabited

namespace Timestamp

/-- The start of a day. -/
def midnight (d : Date) : Timestamp := ⟨d, 0, 0, 0, 0⟩

/-- Hours, minutes and seconds, with colons. -/
def clockText (t : Timestamp) : String :=
  padded 2 t.hour ++ ":" ++ padded 2 t.minute ++ ":" ++ padded 2 t.second

/-- The written form, microseconds only if there are any. -/
def text (separator : String) (t : Timestamp) : String :=
  t.date.text ++ separator ++ t.clockText ++
    (if t.microsecond = 0 then "" else "." ++ padded 6 t.microsecond)

/-- The form in which times are kept, always of one length. -/
def storedText (t : Timestamp) : String :=
  t.date.text ++ " " ++ t.clockText ++ "." ++ padded 6 t.microsecond

/-- Times are ordered by this number. -/
def key (t : Timestamp) : Nat :=
  (((t.date.key * 100 + t.hour) * 100 + t.minute) * 100 + t.second) * 1000000 + t.microsecond

/-- Microseconds since the start of year 1. -/
def microseconds (t : Timestamp) : Int :=
  ((t.date.dayNumber * 24 + t.hour) * 60 + t.minute) * 60000000 + t.second * 1000000 + t.microsecond

/-- A time within a day that starts at midnight, `seconds` later. -/
def afterMidnight (d : Date) (seconds : Nat) : Timestamp :=
  ⟨d, seconds / 3600, seconds / 60 % 60, seconds % 60, 0⟩

end Timestamp

/-- A time on a wall clock, with the clock's offset from universal time if it is known. -/
structure DateTime where
  /-- What the clock shows. -/
  wall : Timestamp
  /-- Microseconds ahead of universal time. -/
  offset : Option Int
deriving DecidableEq, Inhabited

namespace DateTime

/-- An offset as sign, hours and minutes; seconds and microseconds only if there are any. -/
def offsetText (offset : Int) : String :=
  let n := offset.natAbs / 1000000
  let micro := offset.natAbs % 1000000
  (if offset < 0 then "-" else "+") ++ padded 2 (n / 3600) ++ ":" ++ padded 2 (n / 60 % 60) ++
    (if n % 60 = 0 ∧ micro = 0 then "" else ":" ++ padded 2 (n % 60)) ++
    (if micro = 0 then "" else "." ++ padded 6 micro)

/-- The written form. -/
def text (separator : String) (t : DateTime) : String :=
  t.wall.text separator ++ (t.offset.map offsetText).getD ""

/-- Two times are the same moment if both have an offset, and if neither has one when the clocks
show the same. A time with an offset is never equal to one without. -/
def same (a b : DateTime) : Bool :=
  match a.offset, b.offset with
  | none, none => a.wall = b.wall
  | some x, some y => a.wall.microseconds - x = b.wall.microseconds - y
  | _, _ => false

end DateTime

/-! ### Reading -/

/-- A natural number of decimal digits, all of them ASCII. -/
def readNat? (cs : List Char) : Option Nat :=
  if cs.isEmpty ∨ ¬ cs.all Char.isDigit then none
  else some (cs.foldl (fun n c => 10 * n + (c.toNat - 48)) 0)

/-- A date of the form `YYYY-MM-DD`. -/
def Date.ofText? (s : String) : Option Date :=
  match s.toList with
  | [a, b, c, d, '-', e, f, '-', g, h] => do
    some ⟨← readNat? [a, b, c, d], ← readNat? [e, f], ← readNat? [g, h]⟩
  | _ => none

/-- A fraction of a second in microseconds: a point and up to six digits, or nothing at all. -/
def readFraction? (cs : List Char) : Option Nat :=
  match cs with
  | [] => some 0
  | '.' :: digits => readNat? (digits ++ List.replicate (6 - digits.length) '0')
  | _ => none

/-- An offset of the form `+HH:MM`, `+HH:MM:SS` or `+HH:MM:SS.ffffff`, with either sign. -/
def readOffset? : List Char → Option Int
  | sign :: a :: b :: ':' :: c :: d :: rest => do
    let hours ← readNat? [a, b]
    let minutes ← readNat? [c, d]
    let seconds ← match rest with
      | ':' :: e :: f :: _ => readNat? [e, f]
      | _ => some 0
    let micro ← readFraction? (rest.drop 3)
    let total : Int := (hours * 3600 + minutes * 60 + seconds) * 1000000 + micro
    if sign = '-' then some (-total) else if sign = '+' then some total else none
  | _ => none

/-- A time of the form `YYYY-MM-DDTHH:MM:SS`, with microseconds and an offset if they are given. -/
def DateTime.ofText? (s : String) : Option DateTime := do
  let cs := s.toList
  let date ← Date.ofText? (String.ofList (cs.take 10))
  match cs.drop 11 with
  | a :: b :: ':' :: c :: d :: ':' :: e :: f :: rest =>
    let hour ← readNat? [a, b]
    let minute ← readNat? [c, d]
    let second ← readNat? [e, f]
    let isZone (c : Char) : Bool := c = '+' || c = '-'
    let micro ← readFraction? (rest.takeWhile fun c => !isZone c)
    let after := rest.dropWhile fun c => !isZone c
    let offset ← if after.isEmpty then some none else (readOffset? after).map some
    some ⟨⟨date, hour, minute, second, micro⟩, offset⟩
  | _ => none

end Recordbook
