import LectureDeck.Concept.Index

/-!
# Sub-questions

For each question of a run, the questions whose concepts are among its own, those with the most
concepts in common first. A question with many concepts is compared only with those that have the
same.
-/

namespace LectureDeck

/-- The positions below `count` that come next in lexicographic order: the last one that can still
move does, and those after it follow it closely. -/
def nextPositions? (count : Nat) : List Nat → Option (List Nat)
  | [] => none
  | first :: rest =>
    match nextPositions? count rest with
    | some later => some (first :: later)
    | none =>
      if first + rest.length + 1 < count then some (List.range' (first + 1) (rest.length + 1))
      else none

/-- One past the largest rank of a number of positions. -/
def rankBound (count : Nat) : Nat → Nat
  | 0 => 1
  | length + 1 => (count + 1) * rankBound count length

/-- How far positions are from the last ones, as a number with a digit for each. -/
def positionRank (count : Nat) : List Nat → Nat
  | [] => 0
  | first :: rest => (count - first) * rankBound count rest.length + positionRank count rest

theorem positionRank_lt (count : Nat) (positions : List Nat) :
    positionRank count positions < rankBound count positions.length := by
  induction positions with
  | nil => exact Nat.one_pos
  | cons first rest later =>
    have digit : (count - first) * rankBound count rest.length ≤
        count * rankBound count rest.length := Nat.mul_le_mul_right _ (Nat.sub_le count first)
    rw [positionRank, List.length_cons, rankBound, Nat.succ_mul]
    omega

theorem positionRank_lt_of_next {count : Nat} {positions next : List Nat}
    (moves : nextPositions? count positions = some next) :
    next.length = positions.length ∧ positionRank count next < positionRank count positions := by
  induction positions generalizing next with
  | nil => contradiction
  | cons first rest inner =>
    unfold nextPositions? at moves
    split at moves
    · rename_i later moved
      cases moves
      obtain ⟨length, lower⟩ := inner moved
      simp only [List.length_cons, positionRank, length]
      exact ⟨trivial, Nat.add_lt_add_left lower _⟩
    · split at moves
      · rename_i within
        cases moves
        refine ⟨List.length_range', ?_⟩
        have below := positionRank_lt count (List.range' (first + 1 + 1) rest.length)
        rw [List.length_range'] at below
        have apart : count - first = count - (first + 1) + 1 := by omega
        rw [List.range'_succ, positionRank, positionRank, List.length_range', apart, Nat.succ_mul]
        omega
      · contradiction

/-- The given positions and all that come after them. -/
def positionsFrom (count : Nat) (positions : List Nat) : List (List Nat) :=
  positions ::
    match _ : nextPositions? count positions with
    | some next => positionsFrom count next
    | none => []
termination_by positionRank count positions
decreasing_by exact (positionRank_lt_of_next ‹_›).2

/-- The choices of a positive number of items of a list. -/
def combinations (items : List String) (size : Nat) : List (List String) :=
  if size = 0 || items.length < size then []
  else
    (positionsFrom items.length (List.range size)).map fun positions =>
      positions.map fun position => items.getD position ""

/-- A question and those whose concepts are among its own. -/
structure SubquestionEntry where
  question : TaggedQuestion
  concepts : List String
  /-- Each related question with a mark, which tells how many concepts it has. -/
  related : List (String × TaggedQuestion)
deriving DecidableEq, Repr

/-- The sub-questions of a run. -/
structure SubquestionReport where
  entries : List SubquestionEntry
  /-- The questions with many concepts, and how many those are. -/
  oversized : List (TaggedQuestion × Nat)
deriving DecidableEq, Repr

namespace SubquestionReport

/-- The number of concepts up to which all subsets are looked at. -/
def maxConcepts : Nat := 8

/-- The sizes of the sets of concepts to look at for a question, the largest first. -/
def sizes (count : Nat) : List Nat :=
  if maxConcepts < count then [count] else ((List.range count).map (· + 1)).reverse

/-- The mark of a question with a number of concepts among a number of them. -/
def mark (size count : Nat) : String := if size = count then "*" else Decimal.naturalText size

/-- The other questions with a set of concepts, which is looked up by its key. -/
def sharing (questions : List ConceptQuestion) (question : TaggedQuestion)
    (concepts : List String) :
    List TaggedQuestion :=
  let key := conceptKey concepts
  ((questions.filter fun other => other.key = key).map ConceptQuestion.question).filter
    fun other => other ≠ question

/-- The related questions of a question, with their marks. -/
def related (questions : List ConceptQuestion) (question : ConceptQuestion) :
    List (String × TaggedQuestion) :=
  let concepts := conceptsOfKey question.key
  let count := concepts.length
  (sizes count).flatMap fun size =>
    (combinations concepts size).flatMap fun subset =>
      (sharing questions question.question subset).map (mark size count, ·)

def ofQuestions (questions : List ConceptQuestion) : SubquestionReport where
  entries := questions.map fun question =>
    ⟨question.question, conceptsOfKey question.key, related questions question⟩
  oversized := (questions.filter fun question =>
      maxConcepts < (conceptsOfKey question.key).length).map
    fun question => (question.question, (conceptsOfKey question.key).length)

end SubquestionReport

end LectureDeck
