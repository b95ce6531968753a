import ReplicaPorts.Json.Value
import ReplicaPorts.Text.Digit

/-!
# Tokens of a JSON text

`Json.Token.scan?` cuts a text into tokens in one walk over its characters. White space is the
space, the tab, the line feed and the carriage return, and separates tokens without being one. A
text is refused at a character that can belong to no token, at an unescaped control character in a
string and at a number or a word that is not spelled as the grammar asks.
-/

set_option autoImplicit false

namespace ReplicaPorts.Json

/-- A token of a JSON text. -/
inductive Token where
  | openBrace
  | closeBrace
  | openBracket
  | closeBracket
  | comma
  | colon
  | null
  | bool (value : Bool)
  | number (value : Number)
  /-- A string, or `none` if it denotes no text. -/
  | string (value : Option String)
  deriving DecidableEq, Repr

namespace Token

def isSpace (c : Char) : Bool := c == ' ' || c == '\t' || c == '\n' || c == '\r'

def inNumber (c : Char) : Bool :=
  c.isDigit || c == '-' || c == '+' || c == '.' || c == 'e' || c == 'E'

def allDigits (cs : List Char) : Bool := !cs.isEmpty && cs.all Char.isDigit

/-- Whether a text is a whole number without needless zeros in front. -/
def isWhole (cs : List Char) : Bool := allDigits cs && (cs.length == 1 || cs.head? != some '0')

/-- Whether a text is the exponent of a number, or nothing. -/
def isExponent : List Char → Bool
  | [] => true
  | e :: cs =>
    (e == 'e' || e == 'E') &&
      (match cs with
        | '+' :: ds => allDigits ds
        | '-' :: ds => allDigits ds
        | ds => allDigits ds)

/-- Whether a text is a fraction followed by an exponent, either of which may be missing. -/
def isTail : List Char → Bool
  | '.' :: cs =>
    allDigits (cs.takeWhile Char.isDigit) && isExponent (cs.dropWhile Char.isDigit)
  | cs => isExponent cs

def number? (cs : List Char) : Option Number :=
  let unsigned := match cs with
    | '-' :: ds => ds
    | ds => ds
  let whole := unsigned.takeWhile Char.isDigit
  let tail := unsigned.dropWhile Char.isDigit
  if !isWhole whole || !isTail tail then none
  else if !tail.isEmpty then some (.literal (String.ofList cs))
  else if cs.head? != some '-' then some (.integer (Text.digitsValue whole))
  else if Text.digitsValue whole = 0 then some (.literal (String.ofList cs))
  else some (.integer (-(Text.digitsValue whole : Int)))

def word? (cs : List Char) : Option Token :=
  if cs = ['n', 'u', 'l', 'l'] then some .null
  else if cs = ['t', 'r', 'u', 'e'] then some (.bool true)
  else if cs = ['f', 'a', 'l', 's', 'e'] then some (.bool false)
  else none

def mark? (c : Char) : Option Token :=
  match c with
  | '{' => some .openBrace
  | '}' => some .closeBrace
  | '[' => some .openBracket
  | ']' => some .closeBracket
  | ',' => some .comma
  | ':' => some .colon
  | _ => none

/-- The number that four hexadecimal digits spell. -/
def hex4? (a b c d : Char) : Option Nat := do
  return 4096 * (← Text.hexDigit? a) + 256 * (← Text.hexDigit? b) + 16 * (← Text.hexDigit? c)
    + (← Text.hexDigit? d)

/-- The character that a letter after a backslash stands for. -/
def escaped? (c : Char) : Option Char :=
  match c with
  | '"' => some '"'
  | '\\' => some '\\'
  | '/' => some '/'
  | 'b' => some '\x08'
  | 'f' => some '\x0c'
  | 'n' => some '\n'
  | 'r' => some '\r'
  | 't' => some '\t'
  | _ => none

/-- The content of a string as far as it was read. -/
structure Content where
  /-- The characters read, last first; `none` once half of a surrogate pair stood alone. -/
  chars : Option (List Char)
  /-- The first half of a surrogate pair, if the last thing read was one. -/
  high : Option Nat
  deriving DecidableEq

namespace Content

def empty : Content := ⟨some [], none⟩

/-- Adds a character; a first half that waits for its second stands alone then. -/
def push (k : Content) (c : Char) : Content :=
  match k.high with
  | none => ⟨k.chars.map (c :: ·), none⟩
  | some _ => ⟨none, none⟩

/-- Adds what a numeric escape names: a character, or half of a pair. -/
def pushCode (k : Content) (n : Nat) : Content :=
  if 0xD800 ≤ n ∧ n < 0xDC00 then
    match k.high with
    | none => ⟨k.chars, some n⟩
    | some _ => ⟨none, some n⟩
  else if 0xDC00 ≤ n ∧ n < 0xE000 then
    match k.high with
    | none => ⟨none, none⟩
    | some h =>
      ⟨k.chars.map (Char.ofNat (0x10000 + (h - 0xD800) * 0x400 + (n - 0xDC00)) :: ·), none⟩
  else k.push (Char.ofNat n)

/-- The text read, if it is one. -/
def close (k : Content) : Option String :=
  match k.high with
  | none => k.chars.map fun cs => String.ofList cs.reverse
  | some _ => none

end Content

/-- Where in a token the walk stands. -/
inductive Mode where
  | between
  | inString (content : Content)
  /-- In a number; the characters read, last first. -/
  | inNumber (chars : List Char)
  /-- In a bare word; the characters read, last first. -/
  | inWord (chars : List Char)

/-- How a token starts with a character: the tokens that it completes and the place after it. -/
def start? (c : Char) : Option (List Token × Mode) :=
  if isSpace c then some ([], .between)
  else if c = '"' then some ([], .inString .empty)
  else if inNumber c && c != 'e' && c != 'E' then some ([], .inNumber [c])
  else if c.isAlpha then some ([], .inWord [c])
  else (mark? c).map fun t => ([t], .between)

/-- The tokens of a text, from a place in it and with those read so far, last first. -/
def scanFrom? (ts : List Token) : Mode → List Char → Option (List Token)
  | .between, [] => some ts.reverse
  | .between, c :: cs =>
    match start? c with
    | some (more, mode) => scanFrom? (more ++ ts) mode cs
    | none => none
  | .inString _, [] => none
  | .inString k, '\\' :: 'u' :: a :: b :: c :: d :: cs =>
    match hex4? a b c d with
    | some n => scanFrom? ts (.inString (k.pushCode n)) cs
    | none => none
  | .inString k, '\\' :: e :: cs =>
    match escaped? e with
    | some c => scanFrom? ts (.inString (k.push c)) cs
    | none => none
  | .inString k, c :: cs =>
    if c = '"' then scanFrom? (.string k.close :: ts) .between cs
    else if c = '\\' || c.toNat < 0x20 then none
    else scanFrom? ts (.inString (k.push c)) cs
  | .inNumber ds, [] => (number? ds.reverse).map fun n => (.number n :: ts).reverse
  | .inNumber ds, c :: cs =>
    if Token.inNumber c then scanFrom? ts (.inNumber (c :: ds)) cs
    else
      match number? ds.reverse, start? c with
      | some n, some (more, mode) => scanFrom? (more ++ .number n :: ts) mode cs
      | _, _ => none
  | .inWord ds, [] => (word? ds.reverse).map fun t => (t :: ts).reverse
  | .inWord ds, c :: cs =>
    if c.isAlpha then scanFrom? ts (.inWord (c :: ds)) cs
    else
      match word? ds.reverse, start? c with
      | some t, some (more, mode) => scanFrom? (more ++ t :: ts) mode cs
      | _, _ => none

def scan? (cs : List Char) : Option (List Token) := scanFrom? [] .between cs

end Token

end ReplicaPorts.Json
