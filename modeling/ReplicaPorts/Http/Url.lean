import ReplicaPorts.Http.Host
import ReplicaPorts.Text.Percent

/-!
# URLs

Where a request goes. `Url.ofText?` reads an absolute URL as a client does before it sends: control
characters and blanks around it do not count, backslashes are slashes, segments of one or two dots
are resolved, and characters that may not stand in a path or a query are escaped. `Url.ofTarget?`
reads a path with an optional query as it goes over the wire, where nothing is changed: blanks,
control characters and a few others are refused there.
-/

set_option autoImplicit false

namespace ReplicaPorts.Http

/-- Where a request goes. -/
structure Url where
  /-- The scheme and the host; empty if the peer is known otherwise. -/
  origin : String
  path : String
  /-- What follows the question mark, if there is one. -/
  query : Option String
  deriving DecidableEq, Repr

namespace Url

/-! ## Cleaning -/

/-- Control characters and the blank, which do not count at the ends. -/
def isOuter (c : Char) : Bool := c.toNat ≤ 0x20

def isIgnored (c : Char) : Bool := c == '\t' || c == '\n' || c == '\r'

def cleaned (s : String) : List Char :=
  (((s.toList.dropWhile isOuter).reverse.dropWhile isOuter).reverse).filter (!isIgnored ·)

/-! ## The origin -/

def isSlash (c : Char) : Bool := c == '/' || c == '\\'

def endsHost (c : Char) : Bool := isSlash c || c == '?' || c == '#'

def schemes : List (List Char) := ["http".toList, "https".toList]

/-- The scheme and the authority of an absolute URL, with what follows them. -/
def origin? (cs : List Char) : Option (String × List Char) := do
  let (scheme, rest) ← Text.cut? ':' cs
  let scheme := scheme.map Char.toLower
  guard (schemes.contains scheme)
  let rest := rest.dropWhile isSlash
  let authority := rest.takeWhile (!endsHost ·)
  guard (Host.isWithPort (Text.afterLast '@' authority))
  return (String.ofList (scheme ++ "://".toList ++ authority.map Char.toLower),
    rest.dropWhile (!endsHost ·))

/-! ## The path -/

/-- Visible characters that are escaped in a path. -/
def escapedInPath : List Char := ['"', '#', '<', '>', '?', '\x60', '\x7b', '\x7d']

/-- Whether a character stands in a path as it is. -/
def inPath (c : Char) : Bool := isVisible c && c.toNat < 0x80 && !escapedInPath.contains c

/-- Visible characters that are escaped in a query. -/
def escapedInQuery : List Char := ['"', '#', '<', '>', '\x27']

/-- Whether a character stands in a query as it is. -/
def inQuery (c : Char) : Bool := isVisible c && c.toNat < 0x80 && !escapedInQuery.contains c

/-- One dot, as it is or escaped. -/
def oneDot : List (List Char) := [".".toList, "%2e".toList]

/-- Two dots, as they are or escaped. -/
def twoDots : List (List Char) :=
  ["..".toList, ".%2e".toList, "%2e.".toList, "%2e%2e".toList]

/-- Whether a segment names a drive: a letter with a colon or a bar. -/
def isDrive : List Char → Bool
  | [c, mark] => c.isAlpha && (mark == ':' || mark == '|')
  | _ => false

/-- What two dots leave of the segments before them, last first: a drive is never left. -/
def parent (done : List (List Char)) : List (List Char) :=
  if done.head?.any isDrive then done else done.tail

/-- Resolves the segments of one or two dots; `done` holds the segments before, last first. -/
def resolve (done : List (List Char)) : List (List Char) → List (List Char)
  | [] => done.reverse
  | s :: rest =>
    if twoDots.contains (s.map Char.toLower) then
      if rest.isEmpty then ([] :: parent done).reverse else resolve (parent done) rest
    else if oneDot.contains (s.map Char.toLower) then
      if rest.isEmpty then ([] :: done).reverse else resolve done rest
    else resolve (s :: done) rest

def segmentText (s : List Char) : String := Text.Percent.encodeWith inPath (String.ofList s)

/-- The path that a text after the host denotes. -/
def pathOf (cs : List Char) : String :=
  let cs := (if cs.head?.any isSlash then cs.tail else cs).map fun c => if c = '\\' then '/' else c
  "/" ++ "/".intercalate ((resolve [] (Text.segments '/' cs)).map segmentText)

/-- The query in a text, without a fragment. -/
def queryOf : List Char → Option (List Char)
  | '?' :: cs => some (cs.takeWhile (· ≠ '#'))
  | _ => none

def endsPath (c : Char) : Bool := c == '?' || c == '#'

def ofText? (s : String) : Option Url := do
  let (origin, rest) ← origin? (cleaned s)
  return {
    origin
    path := pathOf (rest.takeWhile (!endsPath ·))
    query := (queryOf (rest.dropWhile (!endsPath ·))).map fun q =>
      Text.Percent.encodeWith inQuery (String.ofList q) }

/-! ## Targets -/

/-- Visible characters that may not stand in a path on the wire. -/
def notInTargetPath : List Char := ['#', '<', '>', '?', '\x60']

/-- Whether a character may stand in a path on the wire. -/
def inTargetPath (c : Char) : Bool := isVisible c && !notInTargetPath.contains c

/-- Visible characters that may not stand in a query on the wire. -/
def notInTargetQuery : List Char := ['"', '#', '<', '>']

/-- Whether a character may stand in a query on the wire. -/
def inTargetQuery (c : Char) : Bool := isVisible c && !notInTargetQuery.contains c

/-- The greatest number of octets of a path with its query. -/
def maxTarget : Nat := 65534

def ofTarget? (s : String) : Option Url := do
  guard (s.utf8ByteSize ≤ maxTarget)
  let path := s.toList.takeWhile (!endsPath ·)
  let query := queryOf (s.toList.dropWhile (!endsPath ·))
  guard (path.all inTargetPath && query.all (·.all inTargetQuery))
  return { origin := "", path := String.ofList path, query := query.map String.ofList }

end Url

end ReplicaPorts.Http
