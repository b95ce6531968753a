import ReplicaPorts.Compute.Model

/-!
# Ports of a firewall

A firewall is up to date for a list of ports when it has one allow clause, for TCP, with those ports
and no others. Ports are compared as texts, in any order, and a port that is listed twice has to be
there twice.
-/

set_option autoImplicit false

namespace ReplicaPorts.Compute

/-- Ports in words, in the order of the words. -/
def portTexts (ports : List Int32) : List String :=
  (ports.map fun p => toString p.toInt).mergeSort

/-- Whether a protocol is TCP, in letters of either case. -/
def isTcp (protocol : String) : Bool := protocol.toList.map Char.toLower == ['t', 'c', 'p']

/-- Whether a firewall differs from one that lets TCP through on exactly these ports. -/
def Firewall.isStale (f : Firewall) (ports : List Int32) : Bool :=
  match f.allowed with
  | [clause] => !(clause.protocol.any isTcp && clause.ports.mergeSort == portTexts ports)
  | _ => true

def allowing (ports : List Int32) : List AllowClause :=
  [{ protocol := some "tcp", ports := portTexts ports }]

end ReplicaPorts.Compute
