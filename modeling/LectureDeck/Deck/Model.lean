import LectureDeck.Concept.Tags
import LectureDeck.Deck.Fault
import LectureDeck.Reference.Forward
import LectureDeck.Reference.Table
import LectureDeck.Text.Entity

/-!
# Models of files

What there is to know of a file apart from its page: slides, questions with their weights,
references, and the plugins that it uses. The model does not depend on how the page is presented.
-/

namespace LectureDeck

/-- A slide of a file. -/
structure Slide where
  /-- Counts from 1. -/
  number : Nat
  id : String
  header : Option String
  tags : Tags
  /-- The number of the question on the slide. -/
  question : Option Nat
  /-- The blocks before the slide. -/
  firstBlock : Nat
  /-- The blocks up to the end of the slide. -/
  endBlock : Nat
  /-- Every region opened on the slide. -/
  regions : List Region
  /-- The paths of the images on the slide, each once. -/
  images : List String
  /-- The slide asks for a discussion. -/
  discuss : Bool
  /-- The plugins that the slide embeds. -/
  plugins : List String
deriving DecidableEq, Repr

/-- A question. -/
structure Question (W : Type) where
  /-- Counts from 1 within the file. -/
  number : Nat
  slide : Nat
  slideId : String
  kind : QuestionKind
  correct : Option CorrectAnswer
  weight : W
  gradeWeight : Option W
  voteWeight : W
  settings : QuestionSettings
  retry : Option Retry
  /-- The penalty of each hint, in percent. -/
  hints : List Float
  /-- The digest of the text of the slide. -/
  digest : String
  /-- The number of choices presented. -/
  choices : Nat
  /-- The letter of each further version of a choice. -/
  alternatives : List Char
  /-- What a reader may skip from here. -/
  skip : Option (Skip W)
deriving Repr

/-- A use of a plugin on a slide. -/
structure PluginUse where
  name : String
  slide : Nat
  /-- The file did not use the plugin before. -/
  isFirst : Bool
  arguments : String
  /-- The fields that the body of the plugin asks for. -/
  bodyFields : List String
deriving DecidableEq, Repr

/-- A plugin that a file defines. -/
structure PluginText where
  name : String
  content : String
deriving DecidableEq, Repr

/-- The tags of a slide, with what an index says of the slide. -/
structure Occurrence where
  file : String
  slide : Nat
  slideId : String
  header : String
  tags : Tags
  /-- The number of the question on the slide. -/
  question : Option Nat
deriving DecidableEq, Repr

/-- What there is to know of a file. -/
structure FileModel (W : Type) where
  file : String
  fileNumber : Nat
  chapterId : String
  header : Option String
  slides : List Slide
  questions : List (Question W)
  ledger : Ledger W
  references : List Reference
  pluginUses : List PluginUse
  pluginTexts : List PluginText
  /-- The slides of the sections and their headings. -/
  sections : List (String × String)
deriving Repr

namespace FileModel

variable {W : Type} [Weight W]

def totalScore (model : FileModel W) : W := model.ledger.scores.getLastD Weight.zero

def totalGrade (model : FileModel W) : W := model.ledger.grades.getLastD Weight.zero

end FileModel

/-- An entry of a list of sections that links to the section. -/
def sectionEntry (url : String) (entry : String × String) : String :=
  "<li><a class=\"header-link\" href=\"" ++ url ++ "#" ++ entry.1 ++ "\">" ++
    Text.escape entry.2 ++ "</a></li>\n"

/-- The list of the sections of a file, linking to its page. It is empty when there are none. -/
def FileModel.contents {W : Type} (model : FileModel W) (url : String) (numbered : Bool) : String :=
  if model.sections.isEmpty then ""
  else
    (if numbered then "<ol" else "<ul style=\"list-style-type: none;\"") ++
      " class=\"slidoc-toc " ++ model.chapterId ++ "-toc\">\n" ++
      String.join (model.sections.map (sectionEntry url)) ++
      (if numbered then "</ol>\n" else "</ul>\n")

end LectureDeck
