/-!
# Sorted sets of texts

Sets of texts as lists in strictly ascending order.
-/

namespace LectureDeck.Text

/-- A text put into a sorted set. -/
def insertSorted (text : String) : List String → List String
  | [] => [text]
  | first :: rest =>
    if text < first then text :: first :: rest
    else if text = first then first :: rest
    else first :: insertSorted text rest

/-- Texts in ascending order without repetition. -/
def sortedSet (texts : List String) : List String := texts.foldr insertSorted []

theorem mem_insertSorted {text other : String} {set : List String} :
    other ∈ insertSorted text set ↔ other = text ∨ other ∈ set := by
  induction set with
  | nil => simp [insertSorted]
  | cons first rest later =>
    unfold insertSorted
    split
    · simp
    · split
      · rename_i same
        simp [same]
      · simp only [List.mem_cons, later]
        exact or_left_comm

/-- The sorted set has the texts that it was made from. -/
theorem mem_sortedSet {text : String} {texts : List String} :
    text ∈ sortedSet texts ↔ text ∈ texts := by
  induction texts with
  | nil => simp [sortedSet]
  | cons first rest later =>
    have : sortedSet (first :: rest) = insertSorted first (sortedSet rest) := rfl
    simp [this, mem_insertSorted, later]

end LectureDeck.Text
