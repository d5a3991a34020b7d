import LectureDeck.Decimal.Layout
import LectureDeck.Reference.Name

/-!
# Identifiers of files, slides and concepts
-/

namespace LectureDeck

/-- The identifier of a file by its number in the run. -/
def chapterId (fileNumber : Nat) : String :=
  "slidoc" ++ String.ofList (Decimal.twoDigits fileNumber)

/-- The identifier of a slide by the numbers of its file and its own. -/
def slideId (fileNumber slideNumber : Nat) : String :=
  chapterId fileNumber ++ "-" ++ String.ofList (Decimal.twoDigits slideNumber)

/-- The identifier of the concept index. -/
def indexId : String := "slidoc-index"

/-- The identifier of the index of concepts that questions ask for. -/
def questionIndexId : String := "slidoc-qindex"

/-- The identifier of a concept's entry in an index. -/
def conceptAnchor (index tag : String) : String := index ++ "-concept-" ++ Reference.slug tag

end LectureDeck
