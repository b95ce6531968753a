/-!
# Cutting texts

The ways in which a text is taken apart: at every separator (`segments`), at the first one (`cut?`),
behind the last one (`afterLast`), and from the first place where a given word starts (`from?`).
-/

set_option autoImplicit false

namespace ReplicaPorts.Text

/-- The parts of a text between the occurrences of a separator. There is always one part more than
there are separators. -/
def segments (sep : Char) : List Char → List (List Char)
  | [] => [[]]
  | c :: cs =>
    if c = sep then [] :: segments sep cs
    else match segments sep cs with
      | [] => [[c]]
      | part :: parts => (c :: part) :: parts

/-- The text before and the text after the first separator. -/
def cut? (sep : Char) : List Char → Option (List Char × List Char)
  | [] => none
  | c :: cs =>
    if c = sep then some ([], cs)
    else (cut? sep cs).map fun (before, after) => (c :: before, after)

/-- The text after the last separator, if there is a separator. -/
def afterLast? (sep : Char) (cs : List Char) : Option (List Char) :=
  if sep ∈ cs then some ((cs.reverse.takeWhile (· ≠ sep)).reverse) else none

/-- The text after the last separator, or all of it when there is none. -/
def afterLast (sep : Char) (cs : List Char) : List Char :=
  (cs.reverse.takeWhile (· ≠ sep)).reverse

/-- What follows a word at the start of a text. -/
def after? : List Char → List Char → Option (List Char)
  | [], cs => some cs
  | _ :: _, [] => none
  | w :: ws, c :: cs => if w = c then after? ws cs else none

/-- The rest of a text from the first place where a word starts. -/
def from? (word : List Char) : List Char → Option (List Char)
  | [] => if word = [] then some [] else none
  | c :: cs => if word.isPrefixOf (c :: cs) then some (c :: cs) else from? word cs

/-- Drops every occurrence of a character at the end. -/
def dropTrailing (c : Char) (s : String) : String :=
  String.ofList ((s.toList.reverse.dropWhile (· = c)).reverse)

/-- Drops every occurrence of a character at the start. -/
def dropLeading (c : Char) (s : String) : String :=
  String.ofList (s.toList.dropWhile (· = c))

end ReplicaPorts.Text
