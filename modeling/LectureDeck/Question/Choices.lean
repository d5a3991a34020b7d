import LectureDeck.Deck.Fault

/-!
# Choices

The choices of a question are presented under the letters from A on, each in its turn. Up to two
restatements of the question, under the letter Q, may come first, and a choice may have more
versions where the options of the file allow it.
-/

namespace LectureDeck

/-- The choices that a slide has presented so far. -/
structure Choices where
  count : Nat := 0
  /-- How often the question was restated. -/
  restatements : Nat := 0
  /-- The letter of each further version of a choice. -/
  alternatives : List Char := []
deriving DecidableEq, Repr

namespace Choices

/-- The letter of the choice after `count` others. -/
def letter (count : Nat) : Char := Char.ofNat ('A'.toNat + count)

/-- The letter under which a question is restated. -/
def restatement : Char := 'Q'

def letters (choices : Choices) : List Char := (List.range choices.count).map letter

/-- The choices after one more marker, given whether choices may have more than one version. -/
def present (multiplicity : Bool) (choices : Choices) (found : Char) (alternative : Bool) :
    Except SlideFault Choices :=
  let outOfSequence := SlideFault.choiceOutOfSequence (letter choices.count) found
  if found = restatement then
    if 0 < choices.count || 2 ≤ choices.restatements then .error outOfSequence
    else .ok { choices with restatements := choices.restatements + 1 }
  else if found = letter choices.count then .ok { choices with count := choices.count + 1 }
  else if alternative && 0 < choices.count && found = letter (choices.count - 1) then
    if multiplicity then .ok { choices with alternatives := choices.alternatives ++ [found] }
    else .error (.alternativeChoice found)
  else .error outOfSequence

/-- The choices after all markers of a sequence. -/
def presentAll (multiplicity : Bool) (choices : Choices) (markers : List (Char × Bool)) :
    Except SlideFault Choices :=
  markers.foldlM (fun choices marker => choices.present multiplicity marker.1 marker.2) choices

end Choices

end LectureDeck
