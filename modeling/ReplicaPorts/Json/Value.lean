/-!
# JSON values

A value as its text gives it: members in the order of the text, repeated names kept, numbers that
are no plain integer kept as their literal. A string whose escapes name half of a surrogate pair is
well formed but denotes no text; `none` stands for its content.
-/

set_option autoImplicit false

namespace ReplicaPorts

/-- A number of a JSON text. -/
inductive Json.Number where
  /-- A literal of digits, with a minus sign unless the value is zero or more. -/
  | integer (value : Int)
  /-- Any other literal: with a fraction, with an exponent, or a zero with a minus sign. -/
  | literal (text : String)
  deriving DecidableEq, Repr

/-- A JSON value. -/
inductive Json where
  | null
  | bool (value : Bool)
  | number (value : Json.Number)
  /-- A string, or `none` if it denotes no text. -/
  | string (value : Option String)
  | array (items : List Json)
  | object (members : List (Option String × Json))
  deriving Inhabited, Repr

namespace Json

def text (s : String) : Json := .string (some s)

def int (n : Int) : Json := .number (.integer n)

def nat (n : Nat) : Json := .int n

def texts (ss : List String) : Json := .array (ss.map .text)

def named (members : List (String × Json)) : Json := .object (members.map fun m => (some m.1, m.2))

end Json

end ReplicaPorts
