import ReplicaPorts.Text.Cut
import ReplicaPorts.Text.Percent

/-!
# Queries of pairs

A query may carry names with values: pairs with `&` between them, each with `=` between its name and
its value. A blank is written as a plus sign, and every other character that needs it is escaped.
-/

set_option autoImplicit false

namespace ReplicaPorts.Http.Form

/-- Whether a character stands in a pair as it is. -/
def isKept (c : Char) : Bool := c.isAlphanum || c == '*' || c == '-' || c == '.' || c == '_'

def encodePart (s : String) : String :=
  String.ofList <| (Text.Percent.encodeWith (fun c => isKept c || c == ' ') s).toList.map fun c =>
    if c = ' ' then '+' else c

def encode (pairs : List (String × String)) : String :=
  "&".intercalate (pairs.map fun (name, value) => s!"{encodePart name}={encodePart value}")

def decodePart (cs : List Char) : String :=
  Text.Percent.decode (String.ofList (cs.map fun c => if c = '+' then ' ' else c))

/-- The pair that a text holds; a text without an equals sign is a name with the empty value. -/
def decodePair (cs : List Char) : String × String :=
  match Text.cut? '=' cs with
  | some (name, value) => (decodePart name, decodePart value)
  | none => (decodePart cs, "")

/-- Reads the pairs of a query; empty ones do not count. -/
def decode (query : String) : List (String × String) :=
  ((Text.segments '&' query.toList).filter (· ≠ [])).map decodePair

end ReplicaPorts.Http.Form
