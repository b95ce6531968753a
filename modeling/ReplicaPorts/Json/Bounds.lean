import ReplicaPorts.Json.Value
import ReplicaPorts.Text.Decimal

/-!
# Values that can be kept

What a reader skips may be of any size, but what it keeps has bounds: `Json.fits` holds of a value
whose strings denote texts, whose numbers do not pass the range of floating point, and whose arrays
and objects are nested only so deep. A number is kept as a significand of at most 64 bits with a
power of ten; digits that do not fit are dropped, those before the point at the price of a higher
power.
-/

set_option autoImplicit false

namespace ReplicaPorts.Json

namespace Number

def chars : Number → List Char
  | .integer n => (toString n).toList
  | .literal s => s.toList

/-- The significand after the digits before the point, and how many of them were dropped. -/
def wholeDigits (significand : Nat) : List Char → Nat × Nat
  | [] => (significand, 0)
  | c :: cs =>
    if Text.withDigit significand c ≤ Text.maxWord64 then
      wholeDigits (Text.withDigit significand c) cs
    else (significand, cs.length + 1)

/-- The significand after the digits behind the point, and how many of them were kept. -/
def fractionDigits (significand : Nat) : List Char → Nat × Nat
  | [] => (significand, 0)
  | c :: cs =>
    if Text.withDigit significand c ≤ Text.maxWord64 then
      let (s, kept) := fractionDigits (Text.withDigit significand c) cs
      (s, kept + 1)
    else (significand, 0)

/-- The exponent that is written at the end of a literal, zero if there is none. -/
def exponentOf : List Char → Int
  | _ :: '-' :: ds => -(Text.digitsValue ds : Int)
  | _ :: '+' :: ds => Text.digitsValue ds
  | _ :: ds => Text.digitsValue ds
  | [] => 0

/-- The significand and the power of ten with which an unsigned literal is kept. -/
def scaled (cs : List Char) : Nat × Int :=
  let (s, dropped) := wholeDigits 0 (cs.takeWhile Char.isDigit)
  match cs.dropWhile Char.isDigit with
  | '.' :: rest =>
    let (s, kept) := fractionDigits s (rest.takeWhile Char.isDigit)
    (s, dropped - kept + exponentOf (rest.dropWhile Char.isDigit))
  | rest => (s, dropped + exponentOf rest)

/-- The nearest number of 53 bits, an even one if two are equally near. -/
def nearest (n : Nat) : Nat :=
  if n < Nat.pow 2 53 then n
  else
    let unit := Nat.pow 2 (n.log2 - 52)
    let below := n / unit
    let rest := 2 * (n % unit)
    if unit < rest ∨ (rest = unit ∧ below % 2 = 1) then (below + 1) * unit else below * unit

/-- The least number that is rounded to no number of floating point. -/
def tooLarge : Nat := Nat.pow 2 1024 - Nat.pow 2 970

/-- Whether a significand times a power of ten stays in the range of floating point, where both of
them and their product are rounded. -/
def inRange (significand : Nat) (exponent : Int) : Bool :=
  significand == 0 || exponent < 0 ||
    (exponent ≤ 308 && nearest significand * nearest (Nat.pow 10 exponent.toNat) < tooLarge)

/-- Whether a number stays in the range of floating point. -/
def isFinite (n : Number) : Bool :=
  let cs := n.chars
  let (s, e) := scaled (if cs.head? = some '-' then cs.tail else cs)
  inRange s e

end Number

mutual

/-- Whether a value can be kept, with arrays and objects at most so deep. -/
def fits (depth : Nat) : Json → Bool
  | .null => true
  | .bool _ => true
  | .number n => n.isFinite
  | .string s => s.isSome
  | .array xs => 0 < depth && itemsFit (depth - 1) xs
  | .object ms => 0 < depth && membersFit (depth - 1) ms

/-- Whether all items of an array can be kept. -/
def itemsFit (depth : Nat) : List Json → Bool
  | [] => true
  | x :: xs => fits depth x && itemsFit depth xs

/-- Whether all members of an object can be kept. -/
def membersFit (depth : Nat) : List (Option String × Json) → Bool
  | [] => true
  | (k, v) :: ms => k.isSome && fits depth v && membersFit depth ms

end

/-- How deep arrays and objects may be nested in a value that is kept. -/
def maxDepth : Nat := 127

end ReplicaPorts.Json
