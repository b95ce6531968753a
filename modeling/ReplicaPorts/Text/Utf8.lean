/-!
# Octets as text

Octets spell characters in UTF-8. `Utf8.lossy` reads all octets there are: where some of them cannot
be the start of a character, or a character breaks off, the replacement character stands for them.
-/

set_option autoImplicit false

namespace ReplicaPorts.Text.Utf8

/-- A character of which some octets were read. -/
structure Pending where
  missing : Nat
  least : Nat
  greatest : Nat
  bits : Nat

/-- What stands for octets that spell no character. -/
def replacement : Char := '\uFFFD'

/-- The character that starts with an octet of more than seven bits, if there is one. The bounds of
the second octet keep out longer forms than needed, surrogates and numbers that are too large. -/
def pending? (b : Nat) : Option Pending :=
  if b < 0xC2 then none
  else if b < 0xE0 then some ⟨1, 0x80, 0xBF, b - 0xC0⟩
  else if b < 0xF0 then
    some ⟨2, if b = 0xE0 then 0xA0 else 0x80, if b = 0xED then 0x9F else 0xBF, b - 0xE0⟩
  else if b < 0xF5 then
    some ⟨3, if b = 0xF0 then 0x90 else 0x80, if b = 0xF4 then 0x8F else 0xBF, b - 0xF0⟩
  else none

/-- The characters read, last first, and the one being read, after an octet that starts one. -/
def start (done : List Char) (b : Nat) : List Char × Option Pending :=
  if b < 0x80 then (Char.ofNat b :: done, none)
  else
    match pending? b with
    | some p => (done, some p)
    | none => (replacement :: done, none)

/-- The characters read, last first, and the one being read, after one more octet. -/
def step (s : List Char × Option Pending) (octet : UInt8) : List Char × Option Pending :=
  let b := octet.toNat
  match s with
  | (done, none) => start done b
  | (done, some p) =>
    if p.least ≤ b ∧ b ≤ p.greatest then
      let bits := 64 * p.bits + b % 64
      if p.missing = 1 then (Char.ofNat bits :: done, none)
      else (done, some ⟨p.missing - 1, 0x80, 0xBF, bits⟩)
    else start (replacement :: done) b

def lossy (octets : List UInt8) : String :=
  match octets.foldl step ([], none) with
  | (done, none) => String.ofList done.reverse
  | (done, some _) => String.ofList (replacement :: done).reverse

end ReplicaPorts.Text.Utf8
