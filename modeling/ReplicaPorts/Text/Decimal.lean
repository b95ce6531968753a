import ReplicaPorts.Text.Digit

/-!
# Decimal numbers in texts

`readBounded` reads an unsigned number: an optional plus sign, then at least one digit, and a value
that does not pass a bound. A text is refused at its first fault from the left, and at one place a
character that is no digit is noticed before the size of the number.
-/

set_option autoImplicit false

namespace ReplicaPorts.Text

/-- Why a text is no bounded number. -/
inductive NumberFault where
  | noDigits
  | badDigit
  | tooLarge
  deriving DecidableEq, Repr

def NumberFault.message : NumberFault → String
  | noDigits => "cannot parse integer from empty string"
  | badDigit => "invalid digit found in string"
  | tooLarge => "number too large to fit in target type"

/-- Continues a number whose digits so far have the value `value`. -/
def readDigits (bound : Nat) : Nat → List Char → Except NumberFault Nat
  | value, [] => .ok value
  | value, c :: cs =>
    match digit? c with
    | none => .error .badDigit
    | some d =>
      if 10 * value + d ≤ bound then readDigits bound (10 * value + d) cs else .error .tooLarge

/-- The number that a text denotes, if it is at most `bound`. -/
def readBounded (bound : Nat) : List Char → Except NumberFault Nat
  | [] => .error .noDigits
  | ['+'] => .error .badDigit
  | '+' :: cs => readDigits bound 0 cs
  | cs => readDigits bound 0 cs

def maxWord32 : Nat := UInt32.size - 1

def maxWord64 : Nat := UInt64.size - 1

end ReplicaPorts.Text
