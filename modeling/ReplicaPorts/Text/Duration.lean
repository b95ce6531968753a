/-!
# Durations in words

A duration in milliseconds is written in the largest unit that it reaches, with as many decimals as
it needs and no more: `250ms`, `1.5s`, `300s`, `0ns`.
-/

set_option autoImplicit false

namespace ReplicaPorts.Text

/-- The three decimals of a number of thousandths, without zeros at the end. -/
def thousandths (n : Nat) : List Char :=
  let ds := Nat.toDigits 10 n
  ((List.replicate (3 - ds.length) '0' ++ ds).reverse.dropWhile (· = '0')).reverse

def durationText (ms : Nat) : String :=
  if ms = 0 then "0ns"
  else if ms < 1000 then s!"{ms}ms"
  else if ms % 1000 = 0 then s!"{ms / 1000}s"
  else s!"{ms / 1000}.{String.ofList (thousandths (ms % 1000))}s"

end ReplicaPorts.Text
