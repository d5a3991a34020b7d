import LectureDeck.Deck.Error
import LectureDeck.Deck.Model
import LectureDeck.Text.Sorted

/-!
# Concept index

The concepts of a run: which slides mention them, and which questions ask for them. A question
should ask only for concepts that a slide before it has mentioned.
-/

namespace LectureDeck

open LectureDeck.Text

/-- A slide as an index names it. -/
structure SlidePlace where
  slideId : String
  header : String
deriving DecidableEq, Repr

/-- A tag on a slide. -/
structure Mention where
  tag : String
  file : String
  place : SlidePlace
  /-- The slide is about the concept. -/
  primary : Bool
  /-- The slide has a question. -/
  onQuestion : Bool
deriving DecidableEq, Repr

def Mention.concept (mention : Mention) : String := Tags.concept mention.tag

/-- A question with tags. -/
structure TaggedQuestion where
  file : String
  slideId : String
  header : String
  number : Nat
deriving DecidableEq, Repr

/-- A question and the key of its concepts, which are in it in ascending order. -/
structure ConceptQuestion where
  question : TaggedQuestion
  key : String
deriving DecidableEq, Repr

/-- The concepts of a run, in the order in which they are mentioned. -/
structure ConceptIndex where
  mentions : List Mention := []
  questions : List ConceptQuestion := []
deriving DecidableEq, Repr

namespace Tags

/-- The tags of a slide, each with whether the slide is about it. -/
def ranked (tags : Tags) : List (String × Bool) :=
  tags.primary.map (·, true) ++ tags.secondary.map (·, false)

/-- The concepts that tags name, in ascending order. -/
def concepts (tags : Tags) : List String := sortedSet (tags.all.map concept)

end Tags

/-- The text by which a set of concepts is looked up. -/
def conceptKey (concepts : List String) : String := String.intercalate ";" concepts

/-- The concepts that a key names. -/
def conceptsOfKey (key : String) : List String := (fields ';' key.toList).map String.ofList

namespace Occurrence

/-- The mentions that the tags of a slide make. -/
def mentions (occurrence : Occurrence) : List Mention :=
  occurrence.tags.ranked.map fun (tag, primary) =>
    ⟨tag, occurrence.file, ⟨occurrence.slideId, occurrence.header⟩, primary,
      occurrence.question.isSome⟩

/-- The question on a slide with its concepts, if it has both. -/
def conceptQuestions (occurrence : Occurrence) : List ConceptQuestion :=
  match occurrence.question with
  | none => []
  | some number =>
    let key := conceptKey occurrence.tags.concepts
    if key.isEmpty then []
    else [⟨⟨occurrence.file, occurrence.slideId, occurrence.header, number⟩, key⟩]

end Occurrence

namespace ConceptIndex

def mention (index : ConceptIndex) (mention : Mention) : ConceptIndex :=
  { index with mentions := index.mentions ++ [mention] }

/-- A slide without a question has mentioned a concept. -/
def covers (index : ConceptIndex) (concept : String) : Bool :=
  index.mentions.any fun mention => !mention.onQuestion && mention.concept == concept

/-- The concepts that a question asks for before a slide has mentioned them. -/
def uncovered (index : ConceptIndex) (occurrence : Occurrence) : List Warning :=
  if occurrence.question.isNone then []
  else
    (occurrence.tags.ranked.filter fun tag => !index.covers (Tags.concept tag.1)).map fun tag =>
      ⟨occurrence.file, some occurrence.slide, .conceptNotCovered tag.1 tag.2⟩

/-- The index with the tags of one more slide. -/
def add (index : ConceptIndex) (occurrence : Occurrence) : ConceptIndex where
  mentions := index.mentions ++ occurrence.mentions
  questions := index.questions ++ occurrence.conceptQuestions

/-- The index with the slides of a file. -/
def merge (index : ConceptIndex) (occurrences : List Occurrence) : ConceptIndex :=
  occurrences.foldl add index

/-- What there is to warn of when the slides of a file are added. In an assessment, questions may
ask for anything. -/
def mergeWarnings (assessment : Bool) (index : ConceptIndex) : List Occurrence → List Warning
  | [] => []
  | occurrence :: rest =>
    (if assessment then [] else index.uncovered occurrence) ++
      mergeWarnings assessment (index.add occurrence) rest

/-- The spelling of a concept: that of its first mention. -/
def spelling (index : ConceptIndex) (concept : String) : String :=
  ((index.mentions.find? fun mention => mention.concept == concept).map Mention.tag).getD concept

end ConceptIndex

end LectureDeck
