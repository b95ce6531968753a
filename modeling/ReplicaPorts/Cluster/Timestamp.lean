import ReplicaPorts.Json.Decode
import ReplicaPorts.Text.Blank
import ReplicaPorts.Text.Digit

/-!
# Timestamps

A moment in universal time, to the second. A timestamp is read in the form of RFC 3339 with some
freedom: parts need no zeros in front, blanks may stand between parts, a space may separate the date
from the time, a year of more than four digits is written with its sign, and the offset may lack its
colon or be the word `UTC`. It is written in one way only, without a fraction and with the offset
`Z`. A sixtieth second, which a minute has when a leap second is added, stays one.
-/

set_option autoImplicit false

namespace ReplicaPorts.Cluster

/-- A day of the civil calendar. -/
structure Date where
  year : Int
  month : Nat
  day : Nat
  deriving DecidableEq, Repr

namespace Date

def isLeap (year : Int) : Bool := year % 4 == 0 && (year % 100 != 0 || year % 400 == 0)

def daysIn (year : Int) (month : Nat) : Nat :=
  if month = 2 then if isLeap year then 29 else 28
  else if month = 4 ∨ month = 6 ∨ month = 9 ∨ month = 11 then 30
  else 31

/-- Whether the calendar has a day, within the years that timestamps can have. -/
def isValid (d : Date) : Bool :=
  decide (-262143 ≤ d.year ∧ d.year ≤ 262142) && decide (1 ≤ d.month ∧ d.month ≤ 12)
    && decide (1 ≤ d.day ∧ d.day ≤ daysIn d.year d.month)

def next (d : Date) : Date :=
  if d.day < daysIn d.year d.month then { d with day := d.day + 1 }
  else if d.month < 12 then { d with month := d.month + 1, day := 1 }
  else { year := d.year + 1, month := 1, day := 1 }

def previous (d : Date) : Date :=
  if 1 < d.day then { d with day := d.day - 1 }
  else if 1 < d.month then
    { d with month := d.month - 1, day := daysIn d.year (d.month - 1) }
  else { year := d.year - 1, month := 12, day := 31 }

end Date

/-- A moment in universal time. -/
structure Timestamp where
  date : Date
  hour : Nat
  minute : Nat
  /-- The second, from 0 to 59, or 60 in a leap second. -/
  second : Nat
  deriving DecidableEq, Repr

namespace Timestamp

def epoch : Timestamp := { date := ⟨1970, 1, 1⟩, hour := 0, minute := 0, second := 0 }

/-! ## Reading -/

/-- The number that the next digits spell, one of them at least and so many at most. -/
def number? (most : Nat) (cs : List Char) : Option (Nat × List Char) :=
  let digits := (cs.takeWhile Char.isDigit).take most
  if digits.isEmpty then none
  else some (Text.digitsValue digits, cs.drop digits.length)

/-- The number of a part, with blanks in front of it. -/
def part? (most : Nat) (cs : List Char) : Option (Nat × List Char) :=
  number? most (Text.trimStart cs)

/-- Skips a character that has to come next, with blanks in front of it. -/
def mark? (c : Char) (cs : List Char) : Option (List Char) :=
  match Text.trimStart cs with
  | [] => none
  | d :: cs => if d = c then some cs else none

/-- A year: four digits at most, or any number of digits behind a sign. -/
def year? : List Char → Option (Int × List Char)
  | '+' :: cs => (number? cs.length cs).map fun (n, rest) => (n, rest)
  | '-' :: cs => (number? cs.length cs).map fun (n, rest) => (-n, rest)
  | cs => (number? 4 cs).map fun (n, rest) => (n, rest)

def date? (cs : List Char) : Option (Date × List Char) := do
  let (year, cs) ← year? (Text.trimStart cs)
  let (month, cs) ← part? 2 (← mark? '-' cs)
  let (day, cs) ← part? 2 (← mark? '-' cs)
  return (⟨year, month, day⟩, cs)

def separator? : List Char → Option (List Char)
  | 'T' :: cs => some cs
  | 't' :: cs => some cs
  | ' ' :: cs => some cs
  | _ => none

/-- Skips the fraction of a second, if there is one; a point needs a digit behind it. -/
def fraction? : List Char → Option (List Char)
  | '.' :: cs => (number? cs.length cs).map (·.2)
  | cs => some cs

/-- The hours and minutes of an offset in seconds, the minutes below sixty. -/
def distance? (cs : List Char) : Option (Int × List Char) := do
  let (hours, cs) ← pair? cs
  let (minutes, cs) ← pair? (cs.dropWhile fun c => c == ':' || Text.isBlank c)
  guard (minutes < 60)
  return (3600 * hours + 60 * minutes, cs)
where
  pair? : List Char → Option (Nat × List Char)
    | a :: b :: cs => do return (10 * (← Text.digit? a) + (← Text.digit? b), cs)
    | _ => none

/-- An offset from universal time in seconds. -/
def offset? : List Char → Option (Int × List Char)
  | '+' :: cs => distance? cs
  | '-' :: cs => (distance? cs).map fun (n, rest) => (-n, rest)
  | '\u2212' :: cs => (distance? cs).map fun (n, rest) => (-n, rest)
  | 'Z' :: cs => some (0, cs)
  | 'z' :: cs => some (0, cs)
  | u :: t :: c :: cs =>
    if [u, t, c].map Char.toUpper = ['U', 'T', 'C'] then some (0, cs) else none
  | _ => none

/-- The moment that is so many seconds before a time of a day, less than a day away. -/
def before (t : Timestamp) (seconds : Int) : Timestamp :=
  let total : Int := 3600 * t.hour + 60 * t.minute + min t.second 59 - seconds
  let ofDay := (total % 86400).toNat
  { date :=
      if total < 0 then t.date.previous else if total < 86400 then t.date else t.date.next
    hour := ofDay / 3600
    minute := ofDay % 3600 / 60
    second := ofDay % 60 + (t.second - 59) }

def ofText? (s : String) : Option Timestamp := do
  let (date, cs) ← date? s.toList
  let (hour, cs) ← part? 2 (← separator? cs)
  let (minute, cs) ← part? 2 (← mark? ':' cs)
  let (second, cs) ← part? 2 (← mark? ':' cs)
  let (offset, cs) ← offset? (Text.trimStart (← fraction? cs))
  guard (Text.trimStart cs = [])
  guard (date.isValid && hour < 24 && minute < 60 && second ≤ 60)
  guard (-86400 < offset ∧ offset < 86400)
  let moment := before { date, hour, minute, second } offset
  guard moment.date.isValid
  return moment

/-! ## Writing -/

/-- A number with zeros in front up to a width. -/
def padded (width n : Nat) : String :=
  let digits := toString n
  "".pushn '0' (width - digits.length) ++ digits

/-- A year: four digits, with a sign if it lies outside of what they can write. -/
def yearText (year : Int) : String :=
  if year < 0 then "-" ++ padded 4 year.natAbs
  else if year ≤ 9999 then padded 4 year.natAbs
  else "+" ++ padded 4 year.natAbs

def toText (t : Timestamp) : String :=
  s!"{yearText t.date.year}-{padded 2 t.date.month}-{padded 2 t.date.day}" ++
    s!"T{padded 2 t.hour}:{padded 2 t.minute}:{padded 2 t.second}Z"

/-! ## JSON -/

def ofJson? (j : Json) : Option Timestamp := j.text?.bind ofText?

def toJson (t : Timestamp) : Json := .text t.toText

end Timestamp

end ReplicaPorts.Cluster
