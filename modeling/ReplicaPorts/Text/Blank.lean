/-!
# Blank characters and trimming

A character is blank when it has the property White_Space. Trimming drops the blank characters at
both ends of a text and touches none inside it.
-/

set_option autoImplicit false

namespace ReplicaPorts.Text

/-- The characters with the property White_Space. -/
def isBlank (c : Char) : Bool :=
  let n := c.toNat
  (0x09 ≤ n && n ≤ 0x0D) || n == 0x20 || n == 0x85 || n == 0xA0 || n == 0x1680
    || (0x2000 ≤ n && n ≤ 0x200A) || n == 0x2028 || n == 0x2029 || n == 0x202F || n == 0x205F
    || n == 0x3000

def trimStart (cs : List Char) : List Char := cs.dropWhile isBlank

def trimEnd (cs : List Char) : List Char := (cs.reverse.dropWhile isBlank).reverse

def trim (cs : List Char) : List Char := trimEnd (trimStart cs)

/-- `trim` on a string. -/
def trimmed (s : String) : String := String.ofList (trim s.toList)

/-- Whether a string has no character that is not blank. -/
def allBlank (s : String) : Bool := s.toList.all isBlank

end ReplicaPorts.Text
