import LectureDeck.Deck.Fault
import LectureDeck.Markup.Outline
import LectureDeck.Plugin.Template
import LectureDeck.Question.Weight

/-!
# Errors and warnings

Why a file does not compile, and what a run finds that does not stop it. Errors name the slide on
which they were found, except for those that belong to no slide: a pattern of hidden headings that
cannot be read, and two that no source brings about.
-/

namespace LectureDeck

/-- A slide of a file. -/
structure Location where
  file : String
  slide : Nat
deriving DecidableEq, Repr

def Location.text (location : Location) : String :=
  location.file ++ ": slide " ++ Decimal.naturalText location.slide

/-- Why a file does not compile. -/
inductive CompileError (W : Type) where
  | faultySlide (location : Location) (fault : SlideFault)
  /-- A link over questions that count for the grade. -/
  | gradedSkip (location : Location) (target : String) (weight : W)
  /-- A template of a plugin asks for a field that there is not. -/
  | unknownField (location : Location) (plugin field : String)
  | hidePattern (pattern : String)
  /-- The slides that were read are not as many as the slices of the source. -/
  | slideCount (file : String) (slices slides : Nat)
  | unread (text : UnreadText)
deriving DecidableEq, Repr

namespace CompileError

variable {W : Type}

/-- Where the error was found, if on a slide. -/
def location? : CompileError W → Option Location
  | faultySlide location _ => some location
  | gradedSkip location _ _ => some location
  | unknownField location _ _ => some location
  | hidePattern _ => none
  | slideCount .. => none
  | unread _ => none

/-- What is said of an error. -/
def message [Weight W] : CompileError W → String
  | faultySlide location fault => location.text ++ ": " ++ fault.message
  | gradedSkip location target weight =>
    location.text ++ ": forward link to '" ++ target ++
      "' skips questions carrying grade weight " ++ Weight.text weight
  | unknownField location plugin field =>
    location.text ++ ": template error in plugin '" ++ plugin ++ "': " ++
    Template.unknownField field
  | hidePattern pattern => "invalid hide pattern '" ++ pattern ++ "'"
  | slideCount file slices slides =>
    file ++ ": tokenizer found " ++ Decimal.naturalText slices ++
      " slides but the renderer produced " ++ Decimal.naturalText slides
  | unread text => text.message

end CompileError

/-- What a warning is about. -/
inductive Finding where
  | conceptNotCovered (tag : String) (primary : Bool)
  | duplicateReference (id renamed : String)
  | unresolvedLink (id : String)
  /-- A call to a plugin that the slide does not embed. -/
  | missingEmbed (plugin : String)
  | duplicateAnswer
  | tagsAfterNotes
  | unknownPlugin (plugin : String)
  | imageNotFound (path : String)
  | largeConceptSet (question size : Nat)
  | unknownDefault (key : String)
deriving DecidableEq, Repr

/-- What is said of a finding. -/
def Finding.message : Finding → String
  | conceptNotCovered tag primary =>
    (if primary then "primary" else "secondary") ++
    " concept '" ++ tag ++ "' not covered before use"
  | duplicateReference id renamed =>
    "duplicate reference '" ++ id ++ "' (renamed to '" ++ renamed ++ "')"
  | unresolvedLink id => "forward link to '" ++ id ++ "' never resolved"
  | missingEmbed plugin => "inline call to plugin '" ++ plugin ++ "' without an embed"
  | duplicateAnswer => "additional Answer: line ignored"
  | tagsAfterNotes => "Tags: after Notes: ignored"
  | unknownPlugin plugin => "unknown plugin '" ++ plugin ++ "'"
  | imageNotFound path => "image '" ++ path ++ "' not found"
  | largeConceptSet question size =>
    "question " ++ Decimal.naturalText question ++ " has " ++ Decimal.naturalText size ++
      " concepts; only exact variants are reported"
  | unknownDefault key => "unknown default '--" ++ key ++ "'"

/-- A finding in a file, or on a slide of it. -/
structure Warning where
  file : String
  slide : Option Nat
  finding : Finding
deriving DecidableEq, Repr

/-- The text of a warning. -/
def Warning.message (warning : Warning) : String :=
  match warning.slide with
  | some slide =>
    warning.file ++ ": slide " ++ Decimal.naturalText slide ++ ": " ++ warning.finding.message
  | none => warning.file ++ ": " ++ warning.finding.message

end LectureDeck
