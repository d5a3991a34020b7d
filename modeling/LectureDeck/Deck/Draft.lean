import LectureDeck.Deck.Error
import LectureDeck.Deck.Model
import LectureDeck.Deck.Name
import LectureDeck.Deck.Piece
import LectureDeck.Markup.Outline
import LectureDeck.Pattern.Basic
import LectureDeck.Plugin.Registry
import LectureDeck.Question.Answer
import LectureDeck.Question.Choices

/-!
# Drafts

What the reading of a file depends on, and a file while it is read: what is known of it so far, and
the slide that is being read. Pieces are written to the script of the slide together with the
regions that are open. Options of presentation are not among what reading depends on: what a file
means is the same for all of them.
-/

namespace LectureDeck

/-- Finds the bytes of an image by the file and the slide that show it and by its path. -/
abbrev ImageSource : Type := (file slideId path : String) → Option (List UInt8)

/-- What the reading of a file depends on. -/
structure Setting where
  file : String
  fileNumber : Nat
  /-- Slides whose first heading matches begin hidden. -/
  hide : Option Pattern
  /-- Choices may have more than one version. -/
  multiplicity : Bool
  /-- Images that are found become part of the page. -/
  embedImages : Bool
  plugins : Plugins
  images : ImageSource
  source : List Char
  outline : Outline

/-- A slide while it is read. -/
structure SlideDraft (W : Type) where
  number : Nat
  id : String
  /-- The number of blocks before the slide. -/
  firstBlock : Nat
  header : Option String := none
  /-- The number of headings. -/
  headings : Nat := 0
  /-- A block outside quotes is content of the slide. -/
  hasContent : Bool := false
  /-- The number of quotes that are open. -/
  depth : Nat := 0
  /-- The regions that are open, the innermost first. -/
  regions : List Region := []
  /-- Every region that was opened. -/
  opened : List Region := []
  /-- What is written now is in no page. -/
  isDiscarding : Bool := false
  notesSeen : Bool := false
  /-- The number of hints that were opened. -/
  hintCount : Nat := 0
  /-- The penalty of each hint. -/
  hints : List Float := []
  /-- The list that is open, and whether it is ordered. -/
  list : Option Bool := none
  choices : Choices := {}
  choicesOpen : Bool := false
  answer : Option (Answer W) := none
  tags : Option Tags := none
  /-- The plugins that the slide embeds. -/
  embeds : List String := []
  /-- The plugins that running text calls. -/
  calls : List String := []
  images : List String := []
  discuss : Bool := false
  script : List Entry := []

/-- A file while it is read. -/
structure FileDraft (W : Type) where
  references : Reference.Table
  forward : ForwardLinks := {}
  ledger : Ledger W
  questions : List (Question W) := []
  slides : List Slide := []
  /-- What each slide wrote. -/
  scripts : List (List Entry) := []
  occurrences : List Occurrence := []
  warnings : List Warning := []
  header : Option String := none
  sections : List (String × String) := []
  pluginUses : List PluginUse := []
  pluginTexts : List PluginText := []
  /-- What the plugins put at the head of the page. -/
  heads : List String := []

/-- A file and the slide of it that is being read. -/
structure Draft (W : Type) where
  file : FileDraft W
  slide : SlideDraft W

namespace SlideDraft

variable {W : Type}

/-- The draft of a slide of which nothing is read yet. -/
def start (fileNumber number firstBlock : Nat) : SlideDraft W where
  number := number
  id := slideId fileNumber number
  firstBlock := firstBlock

/-- A piece written to the script. -/
def write (slide : SlideDraft W) (piece : Piece) : SlideDraft W :=
  { slide with script := slide.script ++ [⟨piece, slide.regions, slide.isDiscarding⟩] }

/-- The identifier of a region. Hints are numbered. -/
def regionId (slide : SlideDraft W) : Region → String
  | .hint => slide.id ++ "-hint-" ++ Decimal.naturalText slide.hintCount
  | region => slide.id ++ "-" ++ region.name

def regionElement (slide : SlideDraft W) (region : Region) : Element :=
  .region region (slide.regionId region)

/-- A slide in a region, which is inside those that are open. -/
def enter (slide : SlideDraft W) (region : Region) : SlideDraft W :=
  { slide with
    regions := region :: slide.regions
    opened := slide.opened ++ [region]
    hintCount := if region = .hint then slide.hintCount + 1 else slide.hintCount }

/-- A region opened, unless it is open. -/
def openRegion (slide : SlideDraft W) (region : Region) : Except SlideFault (SlideDraft W) :=
  if slide.regions.contains region then .error (.regionAlreadyOpen region)
  else
    let inside := slide.enter region
    .ok (inside.write (.opening (inside.regionElement region)))

/-- The innermost region closed. -/
def closeInnermost (slide : SlideDraft W) : SlideDraft W :=
  match slide.regions with
  | [] => slide
  | region :: outer =>
    { slide.write (.closing (slide.regionElement region)) with regions := outer }

/-- A number of regions closed from the inside. -/
def closeMany : Nat → SlideDraft W → SlideDraft W
  | 0, slide => slide
  | count + 1, slide => closeMany count slide.closeInnermost

/-- A region closed, and what is open inside it, if it is open. -/
def closeRegion (slide : SlideDraft W) (region : Region) : SlideDraft W :=
  if slide.regions.contains region then
    closeMany ((slide.regions.takeWhile (· != region)).length + 1) slide
  else slide

/-- The list closed, if one is open. -/
def closeList (slide : SlideDraft W) : SlideDraft W :=
  match slide.list with
  | some ordered => { slide with list := none }.write (.closing (.list ordered))
  | none => slide

/-- The choices closed, if they are open. -/
def closeChoices (slide : SlideDraft W) : SlideDraft W :=
  if slide.choicesOpen then { slide with choicesOpen := false }.write (.closing .choices) else slide

def openChoices (slide : SlideDraft W) : SlideDraft W :=
  if slide.choicesOpen then slide
  else { slide with choicesOpen := true }.write (.opening .choices)

def openList (slide : SlideDraft W) (ordered : Bool) : SlideDraft W :=
  if slide.list = some ordered then slide
  else { slide.closeList with list := some ordered }.write (.opening (.list ordered))

/-- All that is open on the slide closed, at its end. -/
def closeAll (slide : SlideDraft W) : SlideDraft W :=
  [Region.extra, .hint, .notes, .hidden].foldl closeRegion
    { slide with isDiscarding := false }.closeList.closeChoices

end SlideDraft

namespace Draft

variable {W : Type}

/-- The draft of a file of which nothing is read yet. -/
def start [Weight W] (fileNumber : Nat) : Draft W where
  file := { references := ⟨fileNumber, [], []⟩, ledger := Ledger.empty }
  slide := .start fileNumber 1 0

def withSlide (draft : Draft W) (slide : SlideDraft W) : Draft W := { draft with slide := slide }

/-- A piece written to the script of the slide. -/
def write (draft : Draft W) (piece : Piece) : Draft W := draft.withSlide (draft.slide.write piece)

/-- A fault of the slide as an error of the file. -/
def located {α : Type} (setting : Setting) (draft : Draft W) :
    Except SlideFault α → Except (CompileError W) α
  | .ok a => .ok a
  | .error fault => .error (.faultySlide ⟨setting.file, draft.slide.number⟩ fault)

/-- A warning about the slide. -/
def warn (setting : Setting) (draft : Draft W) (finding : Finding) : Draft W :=
  { draft with file := { draft.file with
      warnings := draft.file.warnings ++ [⟨setting.file, some draft.slide.number, finding⟩] } }

variable [Weight W]

/-- A question with what a reader may skip from it, if it is the one of a number. -/
def annotate (skip : Nat × Skip W) (question : Question W) : Question W :=
  if question.number = skip.1 then { question with skip := some skip.2 } else question

/-- All forward links settled that can be. -/
def settle (setting : Setting) (draft : Draft W) : Except (CompileError W) (Draft W) :=
  match draft.file.forward.settle draft.file.ledger with
  | .error violation =>
    .error (.gradedSkip ⟨setting.file, violation.originSlide⟩ violation.target violation.weight)
  | .ok (forward, skips) =>
    let questions := skips.foldl (fun questions skip => questions.map (annotate skip))
      draft.file.questions
    .ok { draft with file := { draft.file with forward := forward, questions := questions } }

/-- A reference defined on the slide, and what became of it. -/
def define (setting : Setting) (draft : Draft W) (id : String) (kind : ReferenceKind)
    (counter : String) : Except (CompileError W) (Draft W × Reference.Defined) := do
  let (references, defined) := draft.file.references.define id kind counter draft.slide.number
  let file := { draft.file with references := references }
  if defined.isNew then
    let forward := file.forward.define id draft.slide.number
    let draft ← settle setting { draft with file := { file with forward := forward } }
    return (draft, defined)
  else
    return (warn setting { draft with file := file } (.duplicateReference id defined.id), defined)

/-- A link to a name followed, which leads forward when the name is not defined yet. -/
def follow (draft : Draft W) (id : String) : Draft W :=
  if draft.file.references.contains id then draft
  else { draft with file := { draft.file with
      forward := draft.file.forward.add id draft.slide.number } }

end Draft

end LectureDeck
