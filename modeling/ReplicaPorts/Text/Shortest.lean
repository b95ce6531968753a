/-!
# The shortest decimal of a floating-point number

Among the decimals that a reader would round to a given number of 64 bits, the shortest is the one
with the fewest digits, of two of those the nearer, and of two equally near the greater.
`Binary64.shortest` finds it in exact arithmetic: a number is `mantissa * 2 ^ exponent`, the numbers
that round to it form an interval around it whose ends belong to it when the mantissa is even, and
on each grid of one to seventeen digits only the two neighbours of the number can lie in that
interval if anything does.
-/

set_option autoImplicit false

namespace ReplicaPorts.Text

/-- A positive number of 64 bits in its parts. -/
structure Binary64 where
  mantissa : Nat
  exponent : Int
  /-- Whether the next smaller number is only half as far away as the next larger one. -/
  narrowBelow : Bool
  deriving Repr

/-- The leading bit of a mantissa, which is not stored. -/
def Binary64.leadingBit : Nat := Nat.pow 2 52

/-- The parts of a finite number; the sign is left out. -/
def Binary64.ofFloat (x : Float) : Binary64 :=
  let bits : Nat := x.toBits.toNat
  let fraction : Nat := bits % leadingBit
  let scale : Nat := bits / leadingBit % 2048
  if scale = 0 then ⟨fraction, -1074, false⟩
  else ⟨leadingBit + fraction, (scale : Int) - 1075, fraction = 0 ∧ 1 < scale⟩

/-- A fraction of two whole numbers. -/
structure Ratio where
  num : Nat
  den : Nat

/-- The whole number `n` scaled by a power of a base. -/
def Ratio.scaled (n base : Nat) (power : Int) : Ratio :=
  if 0 ≤ power then ⟨n * base.pow power.toNat, 1⟩ else ⟨n, base.pow (-power).toNat⟩

def Ratio.lt (a b : Ratio) : Bool := a.num * b.den < b.num * a.den

def Ratio.distance (a b : Ratio) : Ratio :=
  let x := a.num * b.den
  let y := b.num * a.den
  ⟨if x < y then y - x else x - y, a.den * b.den⟩

namespace Binary64

def value (b : Binary64) : Ratio := .scaled (4 * b.mantissa) 2 (b.exponent - 2)

def low (b : Binary64) : Ratio :=
  .scaled (4 * b.mantissa - if b.narrowBelow then 1 else 2) 2 (b.exponent - 2)

def high (b : Binary64) : Ratio := .scaled (4 * b.mantissa + 2) 2 (b.exponent - 2)

/-- Whether a decimal is read back as the number. -/
def readsBack (b : Binary64) (x : Ratio) : Bool :=
  if b.mantissa % 2 = 0 then !(x.lt b.low) && !(b.high.lt x) else b.low.lt x && x.lt b.high

/-- The power of ten of the leading digit of a fraction. -/
def leadingPower (x : Ratio) : Int :=
  if x.den ≤ x.num then ((Nat.toDigits 10 (x.num / x.den)).length : Int) - 1
  else
    match (List.range 400).find? fun j => x.den ≤ x.num * Nat.pow 10 (j + 1) with
    | some j => -((j : Int) + 1)
    | none => -400

/-- The neighbours of the number among the multiples of a power of ten that are read back as the
number, the nearer one first, or the greater one if they are equally near. -/
def neighbours (b : Binary64) (power : Int) : List Nat :=
  let x := b.value
  let unit := Ratio.scaled 1 10 power
  let below := x.num * unit.den / (x.den * unit.num)
  let near := [below, below + 1].filter fun n => b.readsBack (.scaled n 10 power)
  match near with
  | [p, q] =>
    if ((Ratio.scaled p 10 power).distance x).lt ((Ratio.scaled q 10 power).distance x) then [p, q]
    else [q, p]
  | other => other

/-- The shortest decimal that is read back as the number: its digits as a whole number and the power
of ten of the last digit. -/
def shortest (b : Binary64) : Nat × Int :=
  let top := leadingPower b.value
  let grids := (List.range 17).map fun (n : Nat) => top - Int.ofNat n
  match grids.findSome? fun power => (b.neighbours power).head?.map fun n => (n, power) with
  | some (n, power) => if n % 10 = 0 then (n / 10, power + 1) else (n, power)
  | none => (0, 0)

end Binary64

/-- Digits written out with a point where the power of ten puts it. -/
def positional (digits : Nat) (power : Int) : String :=
  let ds := Nat.toDigits 10 digits
  if 0 ≤ power then String.ofList (ds ++ List.replicate power.toNat '0')
  else
    let places := (-power).toNat
    let padded := List.replicate (places + 1 - ds.length) '0' ++ ds
    let whole := padded.length - places
    String.ofList (padded.take whole ++ '.' :: padded.drop whole)

/-- A number that is not negative, written with the fewest digits that read back, without an
exponent and without a point where it is whole. -/
def plainFloat (x : Float) : String :=
  if x == 0 then "0"
  else
    let (digits, power) := (Binary64.ofFloat x).shortest
    positional digits power

end ReplicaPorts.Text
