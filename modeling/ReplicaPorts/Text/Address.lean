import ReplicaPorts.Text.Decimal

/-!
# Socket addresses

The text form of an address and a port: `192.0.2.1:80` or `[2001:db8::1%3]:80`. Reading accepts the
usual forms (a run of zero groups left out once, the last two groups written as four decimal octets,
a decimal scope); writing chooses one of them, with the longest run of zero groups left out.
-/

set_option autoImplicit false

namespace ReplicaPorts.Text

/-- An address of a host with a port. -/
inductive SocketAddress where
  | v4 (octets : List Nat) (port : Nat)
  /-- Eight groups of sixteen bits, with a scope that is zero when it does not matter. -/
  | v6 (groups : List Nat) (scope : Nat) (port : Nat)
  deriving DecidableEq, Repr

namespace SocketAddress

/-- The longest run of digits in front, with what follows it. -/
def digitRun (base : Nat) : List Char → List Nat × List Char
  | [] => ([], [])
  | c :: cs =>
    match digitIn? base c with
    | some d => let (ds, rest) := digitRun base cs; (d :: ds, rest)
    | none => ([], c :: cs)

/-- Reads a number of at least one digit and at most `width` digits that does not pass `bound`. -/
def number? (base bound : Nat) (width : Option Nat) (leadingZero : Bool) (cs : List Char) :
    Option (Nat × List Char) :=
  let (ds, rest) := digitRun base cs
  let value := ds.foldl (fun n d => base * n + d) 0
  if ds.isEmpty || width.any (· < ds.length) || bound < value
      || (!leadingZero && 1 < ds.length && ds.head? == some 0) then none
  else some (value, rest)

def given? (c : Char) : List Char → Option (List Char)
  | [] => none
  | d :: cs => if c = d then some cs else none

/-- Reads four decimal octets with points between them; no octet has a needless zero in front. -/
def octets? (cs : List Char) : Option (List Nat × List Char) := do
  let (a, cs) ← number? 10 255 (some 3) false cs
  let (b, cs) ← number? 10 255 (some 3) false (← given? '.' cs)
  let (c, cs) ← number? 10 255 (some 3) false (← given? '.' cs)
  let (d, cs) ← number? 10 255 (some 3) false (← given? '.' cs)
  return ([a, b, c, d], cs)

/-- The groups read from the front of a text. -/
structure Groups where
  groups : List Nat
  octetTail : Bool
  rest : List Char

/-- Reads up to `room` groups with colons between them; `started` says whether one was read before.
The last two may be written as four octets. -/
def groupRun : Nat → Bool → List Char → Groups
  | 0, _, cs => ⟨[], false, cs⟩
  | room + 1, started, cs =>
    let body? := if started then given? ':' cs else some cs
    match (if room = 0 then none else body?.bind octets?) with
    | some ([a, b, c, d], rest) => ⟨[256 * a + b, 256 * c + d], true, rest⟩
    | _ =>
      match body?.bind (number? 16 65535 (some 4) true) with
      | some (g, rest) =>
        let tail := groupRun room true rest
        { tail with groups := g :: tail.groups }
      | none => ⟨[], false, cs⟩

/-- Reads eight groups, of which a run of at least one zero group may be left out. -/
def groups? (cs : List Char) : Option (List Nat × List Char) :=
  let head := groupRun 8 false cs
  if head.groups.length = 8 then some (head.groups, head.rest)
  else if head.octetTail then none
  else do
    let cs ← given? ':' (← given? ':' head.rest)
    let tail := groupRun (7 - head.groups.length) false cs
    let zeros := List.replicate (8 - head.groups.length - tail.groups.length) 0
    return (head.groups ++ zeros ++ tail.groups, tail.rest)

def port? (cs : List Char) : Option (Nat × List Char) := do
  number? 10 65535 none true (← given? ':' cs)

def scope? (cs : List Char) : Option (Nat × List Char) := do
  number? 10 maxWord32 none true (← given? '%' cs)

def v4? (cs : List Char) : Option (SocketAddress × List Char) := do
  let (octets, cs) ← octets? cs
  let (port, cs) ← port? cs
  return (.v4 octets port, cs)

/-- Reads an address of eight groups between brackets with its port. -/
def v6? (cs : List Char) : Option (SocketAddress × List Char) := do
  let (groups, cs) ← groups? (← given? '[' cs)
  let (scope, cs) := (scope? cs).getD (0, cs)
  let (port, cs) ← port? (← given? ']' cs)
  return (.v6 groups scope port, cs)

/-- The address that a text denotes as a whole. -/
def ofText? (s : String) : Option SocketAddress :=
  match (v4? s.toList).orElse fun _ => v6? s.toList with
  | some (address, []) => some address
  | _ => none

def octetsText (octets : List Nat) : String := ".".intercalate (octets.map toString)

def groupText (g : Nat) : String := String.ofList (Nat.toDigits 16 g)

def groupsText (groups : List Nat) : String := ":".intercalate (groups.map groupText)

/-- The start and the length of the longest run of zero groups, the first of several. `passed`
counts the groups seen, `run` those of the present run. -/
def longestZeros : List Nat → Nat → Nat → Nat × Nat → Nat × Nat
  | [], _, _, best => best
  | g :: gs, passed, run, best =>
    if g = 0 then
      longestZeros gs (passed + 1) (run + 1)
        (if best.2 < run + 1 then (passed - run, run + 1) else best)
    else longestZeros gs (passed + 1) 0 best

/-- Eight groups in words: an address of four octets in disguise shows them, any other leaves out
its longest run of two or more zero groups. -/
def hostText (groups : List Nat) : String :=
  match groups with
  | [0, 0, 0, 0, 0, 65535, x, y] =>
    "::ffff:" ++ octetsText [x / 256, x % 256, y / 256, y % 256]
  | _ =>
    let (start, length) := longestZeros groups 0 0 (0, 0)
    if 1 < length then
      groupsText (groups.take start) ++ "::" ++ groupsText (groups.drop (start + length))
    else groupsText groups

def text : SocketAddress → String
  | v4 octets port => s!"{octetsText octets}:{port}"
  | v6 groups scope port =>
    if scope = 0 then s!"[{hostText groups}]:{port}" else s!"[{hostText groups}%{scope}]:{port}"

end SocketAddress

end ReplicaPorts.Text
