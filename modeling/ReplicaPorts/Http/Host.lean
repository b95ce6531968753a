import ReplicaPorts.Text.Address
import ReplicaPorts.Text.Cut

/-!
# Hosts

Which texts name a host in a URL, with or without a port: an address of eight groups in brackets, an
address of octets, or a name. A text whose last part is a number is an address of octets or nothing:
it has four parts at most, the last one stands for all octets that are left, and a part may be
written in base ten, eight or sixteen.
-/

set_option autoImplicit false

namespace ReplicaPorts.Http

/-- Whether a character is neither the blank nor a control character of ASCII. -/
def isVisible (c : Char) : Bool := 0x20 < c.toNat && c.toNat != 0x7f

namespace Host

/-! ## Addresses -/

/-- The base in which a part of an address is written, with its digits. -/
def based : List Char → Nat × List Char
  | '0' :: 'x' :: cs => (16, cs)
  | '0' :: 'X' :: cs => (16, cs)
  | '0' :: c :: cs => (8, c :: cs)
  | cs => (10, cs)

/-- The number that a part of an address is; a base without digits is zero. -/
def number? (cs : List Char) : Option Nat := do
  guard (!cs.isEmpty)
  let (base, digits) := based cs
  return (← digits.mapM (Text.digitIn? base)).foldl (fun n d => base * n + d) 0

/-- The parts of a host between its points, the last first; a point at the end does not count. -/
def partsReversed (cs : List Char) : List (List Char) :=
  match (Text.segments '.' cs).reverse with
  | [] :: parts => parts
  | parts => parts

/-- Whether the last part of a host is a number, or digits that might be one. -/
def endsInNumber (cs : List Char) : Bool :=
  match partsReversed cs with
  | [] => false
  | part :: _ => (!part.isEmpty && part.all Char.isDigit) || (number? part).isSome

def isOctets (cs : List Char) : Bool :=
  match (partsReversed cs).mapM number? with
  | some (last :: before) =>
    before.length < 4 && before.all (· ≤ 255) && last < Nat.pow 256 (4 - before.length)
  | _ => false

/-- Whether a text is an address of eight groups. -/
def isGroups (cs : List Char) : Bool :=
  match Text.SocketAddress.groups? cs with
  | some (_, []) => true
  | _ => false

/-! ## Names -/

/-- Visible characters that may not stand in a name. -/
def notInName : List Char :=
  ['#', '/', '<', '>', '?', '@', '[', '\\', ']', '^', '|', '%', ':']

def isName (cs : List Char) : Bool :=
  !cs.isEmpty && cs.all fun c => isVisible c && !notInName.contains c

/-! ## Hosts and ports -/

/-- Whether a text is a host that stands outside of brackets. -/
def isPlain (cs : List Char) : Bool := if endsInNumber cs then isOctets cs else isName cs

/-- Whether a text is a port; it may be empty. -/
def isPort (cs : List Char) : Bool :=
  cs.all Char.isDigit && (cs.isEmpty || (Text.readBounded 65535 cs).isOk)

/-- Whether a text is a host with or without a port. -/
def isWithPort (cs : List Char) : Bool :=
  match cs with
  | '[' :: rest =>
    match Text.cut? ']' rest with
    | some (host, []) => isGroups host
    | some (host, ':' :: port) => isGroups host && isPort port
    | _ => false
  | cs =>
    match Text.cut? ':' cs with
    | some (host, port) => isPlain host && isPort port
    | none => isPlain cs

end Host

end ReplicaPorts.Http
