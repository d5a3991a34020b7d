import LectureDeck.Concept.Index
import LectureDeck.Deck.Name
import LectureDeck.Deck.Options

/-!
# Views of a concept index

An index page lists concepts in alphabetical order, grouped by their first letters, with links to
the slides that mention them. Each link tells the page it leads to of the other links, as far as
the address does not become too long.
-/

namespace LectureDeck

open LectureDeck.Text

/-- A link of an index to a slide. -/
structure IndexLink where
  file : String
  place : SlidePlace
  /-- The slide is about the concept. -/
  primary : Bool
  /-- What the address says of the entry, unless that is too long. -/
  query : Option String
deriving DecidableEq, Repr

/-- A concept in an index. -/
structure IndexEntry where
  tag : String
  /-- The tag as shown, without what it has in common with the entry before. -/
  label : String
  id : String
  /-- The letter, for the first entry of its group. -/
  letter : Option Char
  /-- The entry begins another family of tags in its group. -/
  isSpaced : Bool
  links : List IndexLink
deriving DecidableEq, Repr

/-- An index as it is shown. -/
structure IndexView where
  indexId : String
  letters : List Char
  entries : List IndexEntry
  /-- The first link to each file, by tag. -/
  firstLinks : List (String × List IndexLink)
  /-- The tags that slides of a file are about, with the first such slide, by file. -/
  covered : List (String × List (String × SlidePlace))
deriving DecidableEq, Repr

/-- An index page. -/
structure IndexPage where
  id : String
  file : String
deriving DecidableEq, Repr

namespace IndexPage

/-- The page of concepts that slides mention. -/
def concepts (options : Options) : IndexPage := ⟨indexId, options.indexFile⟩

/-- The page of concepts that questions ask for. -/
def questions (options : Options) : IndexPage := ⟨questionIndexId, options.questionIndexFile⟩

end IndexPage

/-- The mentions that a page is made of, with the spelling of each concept. -/
structure MentionView where
  mentions : List Mention
  spelling : String → String

namespace MentionView

def ofConcept (view : MentionView) (concept : String) : List Mention :=
  view.mentions.filter fun mention => mention.concept == concept

/-- All concepts, in ascending order. -/
def concepts (view : MentionView) : List String := sortedSet (view.mentions.map Mention.concept)

/-- Mentions of which the first on each slide is kept. -/
def firstOnSlides : List Mention → List Mention
  | [] => []
  | mention :: rest =>
    mention :: (firstOnSlides rest).filter fun other => other.place.slideId != mention.place.slideId

/-- The mentions in a file to link to: those of slides about the concept come first, and no slide
has more than one. -/
def inFile (mentions : List Mention) (file : String) : List Mention :=
  let here := mentions.filter fun mention => mention.file == file
  firstOnSlides (here.filter Mention.primary ++ here.filter fun mention => !mention.primary)

/-- The files of mentions, in ascending order. -/
def files (mentions : List Mention) : List String := sortedSet (mentions.map Mention.file)

/-- The mentions of a concept to link to, by file. -/
def linked (view : MentionView) (concept : String) : List (List Mention) :=
  let mentions := view.ofConcept concept
  (files mentions).map (inFile mentions)

end MentionView

namespace IndexLink

/-- The longest query that an address may have. -/
def maxQuery : Nat := 500

/-- A link without a query. -/
def ofMention (mention : Mention) : IndexLink :=
  ⟨mention.file, mention.place, mention.primary, none⟩

/-- A text as a part of a query. -/
def encoded (text : String) : String := String.ofList (percentEncode text.toList)

/-- The places of all links of an entry. -/
def placeList (links : List IndexLink) : String :=
  String.intercalate ";" (links.map fun link => link.file ++ "#" ++ link.place.slideId)

/-- What the address of a link says: the number of the link, the tag, where its entry is, and the
places of all links. -/
def queryText (page : IndexPage) (tag id : String) (links : List IndexLink)
    (number : Nat) : String :=
  "?tagindex=" ++ Decimal.naturalText number ++ "&tagconcept=" ++ encoded tag ++
    "&tagconceptref=" ++ encoded (page.file ++ "#" ++ id) ++
    "&taglist=" ++ encoded (placeList links)

/-- The links of an entry with their queries. -/
def withQueries (page : IndexPage) (tag id : String) (links : List IndexLink) : List IndexLink :=
  links.mapIdx fun position link =>
    let query := queryText page tag id links (position + 1)
    { link with query := if query.length ≤ maxQuery then some query else none }

end IndexLink

namespace IndexEntry

/-- The letter under which a tag stands. -/
def initial (tag : String) : Char :=
  match tag.toList with
  | c :: _ => c.toUpper
  | [] => '_'

/-- The family of a concept: what stands before its first comma. -/
def family (concept : String) : List Char :=
  trim (((fields ',' concept.toList).head?).getD [])

/-- A tag without its family. -/
def compressed (tag : String) : String :=
  match cut? ',' tag.toList with
  | some (_, rest) => "___, " ++ String.ofList (trim rest)
  | none => tag

/-- The entries of concepts, given the letter and the family of the entry before. -/
def list (view : MentionView) (page : IndexPage) (previous : Option (Char × List Char)) :
    List String → List IndexEntry
  | [] => []
  | concept :: rest =>
    let tag := view.spelling concept
    let id := conceptAnchor page.id concept
    let position := (initial tag, family concept)
    let opensGroup := previous.map Prod.fst != some position.1
    let continuesFamily := previous == some position
    let links := (view.linked concept).flatten.map IndexLink.ofMention
    { tag := tag
      label := if continuesFamily then compressed tag else tag
      id := id
      letter := if opensGroup then some position.1 else none
      isSpaced := !opensGroup && !continuesFamily
      links := IndexLink.withQueries page tag id links } :: list view page (some position) rest

end IndexEntry

namespace IndexView

/-- Pairs in ascending order of their keys. -/
def byKey {α : Type} (pairs : List (String × α)) : List (String × α) :=
  pairs.mergeSort fun first second => !(second.1 < first.1)

def firstLinksOf (view : MentionView) (concept : String) : List IndexLink :=
  (view.linked concept).filterMap fun mentions => mentions.head?.map IndexLink.ofMention

/-- The tags that slides of a file are about, with the first such slide. -/
def coveredIn (view : MentionView) (file : String) : List (String × SlidePlace) :=
  byKey (view.concepts.filterMap fun concept =>
    let first := (view.ofConcept concept).find? fun mention =>
      mention.primary && mention.file == file
    first.map fun mention => (view.spelling concept, mention.place))

def ofMentions (view : MentionView) (page : IndexPage) : IndexView :=
  let entries := IndexEntry.list view page none view.concepts
  { indexId := page.id
    letters := entries.filterMap IndexEntry.letter
    entries := entries
    firstLinks := byKey (view.concepts.map fun concept =>
      (view.spelling concept, firstLinksOf view concept))
    covered := (MentionView.files (view.mentions.filter Mention.primary)).map fun file =>
      (file, coveredIn view file) }

end IndexView

namespace ConceptIndex

/-- The mentions on slides with a question or without. -/
def view (index : ConceptIndex) (onQuestion : Bool) : MentionView :=
  ⟨index.mentions.filter fun mention => mention.onQuestion == onQuestion, index.spelling⟩

/-- The index of concepts that slides mention. -/
def conceptView (index : ConceptIndex) (page : IndexPage) : IndexView :=
  IndexView.ofMentions (index.view false) page

def questionView (index : ConceptIndex) (page : IndexPage) : IndexView :=
  IndexView.ofMentions (index.view true) page

end ConceptIndex

end LectureDeck
