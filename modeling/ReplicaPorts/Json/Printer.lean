import ReplicaPorts.Json.Value

/-!
# Writing JSON

`Json.toText` writes a value on one line without white space. In strings the quote, the backslash
and the control characters are escaped and all else stands as it is.
-/

set_option autoImplicit false

namespace ReplicaPorts.Json

/-- A number below 256 as four hexadecimal digits. -/
def hexFour (n : Nat) : List Char :=
  let digit := fun (d : Nat) => if d < 10 then Char.ofNat (48 + d) else Char.ofNat (87 + d)
  ['0', '0', digit (n / 16), digit (n % 16)]

def stringChar (c : Char) : List Char :=
  match c with
  | '"' => ['\\', '"']
  | '\\' => ['\\', '\\']
  | '\x08' => ['\\', 'b']
  | '\x0c' => ['\\', 'f']
  | '\n' => ['\\', 'n']
  | '\r' => ['\\', 'r']
  | '\t' => ['\\', 't']
  | c => if c.toNat < 0x20 then '\\' :: 'u' :: hexFour c.toNat else [c]

/-- A string with its quotes; one that denotes no text is written as half of a surrogate pair. -/
def stringText : Option String → List Char
  | some s => '"' :: s.toList.flatMap stringChar ++ ['"']
  | none => ['"', '\\', 'u', 'd', '8', '0', '0', '"']

def numberText : Number → List Char
  | .integer n => (toString n).toList
  | .literal s => s.toList

mutual

def chars : Json → List Char
  | .null => ['n', 'u', 'l', 'l']
  | .bool true => ['t', 'r', 'u', 'e']
  | .bool false => ['f', 'a', 'l', 's', 'e']
  | .number n => numberText n
  | .string s => stringText s
  | .array xs => '[' :: itemChars xs ++ [']']
  | .object ms => '\x7b' :: memberChars ms ++ ['\x7d']

/-- The items of an array with commas between them. -/
def itemChars : List Json → List Char
  | [] => []
  | [x] => chars x
  | x :: xs => chars x ++ ',' :: itemChars xs

/-- The members of an object with commas between them. -/
def memberChars : List (Option String × Json) → List Char
  | [] => []
  | [(k, v)] => stringText k ++ ':' :: chars v
  | (k, v) :: ms => stringText k ++ ':' :: chars v ++ ',' :: memberChars ms

end

def toText (j : Json) : String := String.ofList (chars j)

end ReplicaPorts.Json
