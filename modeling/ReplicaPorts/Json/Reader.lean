import ReplicaPorts.Json.Token

/-!
# Reading JSON

`Json.ofTokens?` builds the value that a list of tokens spells, with the enclosing arrays and
objects on a stack, so that nesting may go to any depth. `Json.ofText?` reads a text that is one
value with nothing but white space around it.
-/

set_option autoImplicit false

namespace ReplicaPorts.Json

/-- An array or an object that is open, with what it holds so far, last first. -/
inductive Frame where
  | array (items : List Json)
  /-- An object, its members, and the name of the member being read. -/
  | object (members : List (Option String × Json)) (name : Option String)

/-- What the next token has to be. -/
inductive Goal where
  | value
  /-- The start of the first item of an array, or its end. -/
  | firstItem
  /-- The name of the first member of an object, or its end. -/
  | firstName
  | name (members : List (Option String × Json))
  | colon (members : List (Option String × Json)) (name : Option String)
  | after (value : Json)

/-- The goal and the open frames after a token that starts a value. -/
def begin? (stack : List Frame) : Token → Option (Goal × List Frame)
  | .null => some (.after .null, stack)
  | .bool b => some (.after (.bool b), stack)
  | .number n => some (.after (.number n), stack)
  | .string s => some (.after (.string s), stack)
  | .openBracket => some (.firstItem, stack)
  | .openBrace => some (.firstName, stack)
  | _ => none

/-- The goal and the open frames after one token. -/
def step? (stack : List Frame) : Goal → Token → Option (Goal × List Frame)
  | .value, t => begin? stack t
  | .firstItem, .closeBracket => some (.after (.array []), stack)
  | .firstItem, t => begin? (.array [] :: stack) t
  | .firstName, .closeBrace => some (.after (.object []), stack)
  | .firstName, .string k => some (.colon [] k, stack)
  | .firstName, _ => none
  | .name ms, .string k => some (.colon ms k, stack)
  | .name _, _ => none
  | .colon ms k, .colon => some (.value, .object ms k :: stack)
  | .colon _ _, _ => none
  | .after v, t =>
    match stack, t with
    | .array xs :: below, .comma => some (.value, .array (v :: xs) :: below)
    | .array xs :: below, .closeBracket => some (.after (.array (v :: xs).reverse), below)
    | .object ms k :: below, .comma => some (.name ((k, v) :: ms), below)
    | .object ms k :: below, .closeBrace =>
      some (.after (.object ((k, v) :: ms).reverse), below)
    | _, _ => none

/-- The value that tokens complete, from a goal and with frames open. -/
def build? (stack : List Frame) (goal : Goal) : List Token → Option Json
  | [] =>
    match stack, goal with
    | [], .after v => some v
    | _, _ => none
  | t :: ts =>
    match step? stack goal t with
    | some (goal, stack) => build? stack goal ts
    | none => none

def ofTokens? (ts : List Token) : Option Json := build? [] .value ts

def ofText? (s : String) : Option Json := (Token.scan? s.toList).bind ofTokens?

end ReplicaPorts.Json
