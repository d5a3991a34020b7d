import LectureDeck.Text.Lowercase
import LectureDeck.Text.WordChar
import LectureDeck.Text.Blank
import LectureDeck.Text.Utf8

/-!
# Keys and identifiers

Names in a source are compared without regard to case and spacing. In a page they become
identifiers of letters, digits, dashes and dots, with all other characters percent-encoded.
-/

namespace LectureDeck.Reference

open LectureDeck.Text

/-- A name as a key: its words in lower case with one space between them. -/
def key (name : String) : String :=
  String.ofList (lowercase (joinWith [' '] (words name.toList)))

/-- A character that may stand in an identifier before percent-encoding. -/
def isIdChar (c : Char) : Bool := c == '-' || c == '.' || isWordChar c

/-- A text with each run of characters outside a class replaced by one dash. -/
def dashRuns (p : Char → Bool) : List Char → List Char
  | [] => []
  | c :: rest =>
    if p c then c :: dashRuns p rest
    else
      match rest with
      | next :: _ => if p next then '-' :: dashRuns p rest else dashRuns p rest
      | [] => ['-']

/-- A dash or a dot, neither of which stands at the edge of an identifier. -/
def isIdEdge (c : Char) : Bool := c == '-' || c == '.'

/-- The identifier of a name. -/
def slug (name : String) : String :=
  let dashed := dashRuns isIdChar (lowercase (trim name.toList))
  String.ofList (percentEncode (dropEndWhile isIdEdge (dashed.dropWhile isIdEdge)))

/-- The identifier of the place in a page that a name refers to. -/
def idOf (name : String) : String := "slidoc-ref-" ++ slug name

end LectureDeck.Reference
