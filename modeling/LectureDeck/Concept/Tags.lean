import LectureDeck.Text.Blank
import LectureDeck.Text.Lowercase

/-!
# Tags

A slide names the concepts that it is about, and after a colon those that it touches. Tags that
differ only in the case of letters name one concept.
-/

namespace LectureDeck

open LectureDeck.Text

/-- The concepts of a slide. -/
structure Tags where
  primary : List String := []
  secondary : List String := []
deriving DecidableEq, Repr

namespace Tags

/-- The tags of a list with semicolons. Empty ones and the word for none are left out. -/
def split (cs : List Char) : List String :=
  ((fields ';' cs).map fun field => String.ofList (trim field)).filter fun tag =>
    !tag.isEmpty && tag != "null"

def parse (text : String) : Tags :=
  match cut? ':' text.toList with
  | some (primary, secondary) => ⟨split primary, split secondary⟩
  | none => ⟨split text.toList, []⟩

def isEmpty (tags : Tags) : Bool := tags.primary.isEmpty && tags.secondary.isEmpty

/-- All tags, the primary ones first. -/
def all (tags : Tags) : List String := tags.primary ++ tags.secondary

/-- The tags as a text from which they can be read. -/
def render (tags : Tags) : String :=
  String.intercalate "; " tags.primary ++ " : " ++ String.intercalate "; " tags.secondary

/-- The concept that a tag names, whatever the case of its letters. -/
def concept (tag : String) : String := String.ofList (lowercase tag.toList)

end Tags

end LectureDeck
