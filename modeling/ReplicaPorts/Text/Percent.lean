import ReplicaPorts.Text.Digit
import ReplicaPorts.Text.Utf8

/-!
# Percent encoding

Octets that may not stand in a place of a URL are written as `%` and two hexadecimal digits.
`encodeStrict` keeps letters, digits and the four marks `-`, `_`, `.`, `~`; `decode` reads every
well-formed escape back and leaves all else as it is.
-/

set_option autoImplicit false

namespace ReplicaPorts.Text.Percent

/-- The hexadecimal digit of a number below sixteen, in upper case. -/
def hexDigit (n : Nat) : Char := if n < 10 then Char.ofNat (48 + n) else Char.ofNat (55 + n)

def escape (b : UInt8) : List Char := ['%', hexDigit (b.toNat / 16), hexDigit (b.toNat % 16)]

/-- Writes every octet for which `keep` does not hold as an escape. -/
def encodeWith (keep : Char → Bool) (s : String) : String :=
  String.ofList <| s.toList.flatMap fun c =>
    if keep c then [c] else (String.singleton c).toUTF8.toList.flatMap escape

/-- Letters, digits and the four marks that never need an escape. -/
def isUnreserved (c : Char) : Bool :=
  c.isAlphanum || c == '-' || c == '_' || c == '.' || c == '~'

/-- Escapes all but the unreserved characters. -/
def encodeStrict (s : String) : String := encodeWith isUnreserved s

/-- The octets of a text with its escapes read. -/
def octets : List Char → List UInt8
  | '%' :: h :: l :: cs =>
    match hexDigit? h, hexDigit? l with
    | some hi, some lo => UInt8.ofNat (16 * hi + lo) :: octets cs
    | _, _ => '%'.toUInt8 :: octets (h :: l :: cs)
  | c :: cs => (String.singleton c).toUTF8.toList ++ octets cs
  | [] => []

/-- Reads the escapes of a text. Octets that are not the form of a text are read as far as they
are. -/
def decode (s : String) : String :=
  let found := octets s.toList
  (String.fromUTF8? ⟨found.toArray⟩).getD (Utf8.lossy found)

end ReplicaPorts.Text.Percent
