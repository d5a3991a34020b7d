import LectureDeck.Page.Presentation

/-!
# Rendering of slides

A file is rendered in one pass over its blocks. Each block adds to the model of the file, and to the
page of its slide in markup. What the options leave out, number or link to is decided where the
markup is written: a fragment goes to the page of the slide unless the slide discards it or it
stands in a region that is left out.
-/

namespace LectureDeck

/-- What rendering a file depends on. -/
structure RenderContext where
  file : String
  fileNumber : Nat
  /-- The options of the run with the defaults of the file. -/
  options : Options
  /-- Slides whose first heading matches begin hidden. -/
  hide : Option Pattern
  plugins : Plugins
  highlight : Highlighter
  images : ImageSource
  source : List Char
  outline : Outline

/-- What the reading of the file depends on: of the options, the features and the embedding of
images. -/
def RenderContext.setting (context : RenderContext) : Setting where
  file := context.file
  fileNumber := context.fileNumber
  hide := context.hide
  multiplicity := context.options.features.multiplicity
  embedImages := context.options.embedImages
  plugins := context.plugins
  images := context.images
  source := context.source
  outline := context.outline

/-- A slide while it is rendered. -/
structure SlideRendering (W : Type) where
  number : Nat
  id : String
  /-- The number of blocks before the slide. -/
  firstBlock : Nat
  header : Option String := none
  /-- The number of headings. -/
  headings : Nat := 0
  /-- A block outside quotes is content of the slide. -/
  hasContent : Bool := false
  /-- The number of quotes that are open. -/
  depth : Nat := 0
  /-- The regions that are open, the innermost first. -/
  regions : List Region := []
  /-- Every region that was opened. -/
  opened : List Region := []
  /-- What is written now is in no page. -/
  isDiscarding : Bool := false
  notesSeen : Bool := false
  /-- The number of hints that were opened. -/
  hintCount : Nat := 0
  /-- The penalty of each hint. -/
  hints : List Float := []
  /-- The list that is open, and whether it is ordered. -/
  list : Option Bool := none
  choices : Choices := {}
  choicesOpen : Bool := false
  answer : Option (Answer W) := none
  tags : Option Tags := none
  /-- The plugins that the slide embeds. -/
  embeds : List String := []
  /-- The plugins that running text calls. -/
  calls : List String := []
  images : List String := []
  discuss : Bool := false
  /-- The markup of the slide so far. -/
  fragments : List Fragment := []

/-- A file while it is rendered. -/
structure FileRendering (W : Type) where
  references : Reference.Table
  forward : ForwardLinks := {}
  ledger : Ledger W
  questions : List (Question W) := []
  slides : List Slide := []
  /-- The pages of the slides that have ended. -/
  pages : List SlidePage := []
  occurrences : List Occurrence := []
  warnings : List Warning := []
  header : Option String := none
  sections : List (String × String) := []
  pluginUses : List PluginUse := []
  pluginTexts : List PluginText := []
  /-- The plugins whose top was filled in. -/
  loaded : List String := []
  /-- What the plugins put at the head of the page. -/
  heads : List String := []

/-- A file and the slide of it that is being rendered. -/
structure Rendering (W : Type) where
  file : FileRendering W
  slide : SlideRendering W

namespace SlideRendering

variable {W : Type}

/-- A slide of which nothing is rendered yet. -/
def start (fileNumber number firstBlock : Nat) : SlideRendering W where
  number := number
  id := slideId fileNumber number
  firstBlock := firstBlock

/-- What is written now is in no page: the slide discards it, or a region around it is left out. -/
def isDropping (context : RenderContext) (slide : SlideRendering W) : Bool :=
  slide.isDiscarding || slide.regions.any context.options.strip.omits

/-- A fragment written to the page of the slide, unless it is dropped. -/
def emit (context : RenderContext) (slide : SlideRendering W) (fragment : Fragment) :
    SlideRendering W :=
  if slide.isDropping context then slide
  else { slide with fragments := slide.fragments ++ [fragment] }

/-- A piece written to the page of the slide as the options have it. -/
def put (context : RenderContext) (slide : SlideRendering W) (piece : Piece) : SlideRendering W :=
  slide.emit context (piece.fragment context.options context.highlight)

/-- What is known of the slide, as a draft that has written nothing. -/
def draft (slide : SlideRendering W) : SlideDraft W where
  number := slide.number
  id := slide.id
  firstBlock := slide.firstBlock
  header := slide.header
  headings := slide.headings
  hasContent := slide.hasContent
  depth := slide.depth
  regions := slide.regions
  opened := slide.opened
  isDiscarding := slide.isDiscarding
  notesSeen := slide.notesSeen
  hintCount := slide.hintCount
  hints := slide.hints
  list := slide.list
  choices := slide.choices
  choicesOpen := slide.choicesOpen
  answer := slide.answer
  tags := slide.tags
  embeds := slide.embeds
  calls := slide.calls
  images := slide.images
  discuss := slide.discuss

/-- A slide in a region, which is inside those that are open. -/
def enter (slide : SlideRendering W) (region : Region) : SlideRendering W :=
  { slide with
    regions := region :: slide.regions
    opened := slide.opened ++ [region]
    hintCount := if region = .hint then slide.hintCount + 1 else slide.hintCount }

/-- A region opened, unless it is open. Its opening stands inside it, so that it is dropped when the
region is left out. -/
def openRegion (context : RenderContext) (slide : SlideRendering W) (region : Region) :
    Except SlideFault (SlideRendering W) :=
  if slide.regions.contains region then .error (.regionAlreadyOpen region)
  else
    let inside := slide.enter region
    .ok (inside.put context (.opening (inside.draft.regionElement region)))

/-- The innermost region closed. Its closing still stands inside it. -/
def closeInnermost (context : RenderContext) (slide : SlideRendering W) : SlideRendering W :=
  match slide.regions with
  | [] => slide
  | region :: outer =>
    { slide.put context (.closing (slide.draft.regionElement region)) with regions := outer }

/-- A number of regions closed from the inside. -/
def closeMany (context : RenderContext) : Nat → SlideRendering W → SlideRendering W
  | 0, slide => slide
  | count + 1, slide => closeMany context count (slide.closeInnermost context)

/-- A region closed, and what is open inside it, if it is open. -/
def closeRegion (context : RenderContext) (slide : SlideRendering W) (region : Region) :
    SlideRendering W :=
  if slide.regions.contains region then
    closeMany context ((slide.regions.takeWhile (· != region)).length + 1) slide
  else slide

/-- The list closed, if one is open. -/
def closeList (context : RenderContext) (slide : SlideRendering W) : SlideRendering W :=
  match slide.list with
  | some ordered => { slide with list := none }.put context (.closing (.list ordered))
  | none => slide

/-- The choices closed, if they are open. -/
def closeChoices (context : RenderContext) (slide : SlideRendering W) : SlideRendering W :=
  if slide.choicesOpen then { slide with choicesOpen := false }.put context (.closing .choices)
  else slide

def openChoices (context : RenderContext) (slide : SlideRendering W) : SlideRendering W :=
  if slide.choicesOpen then slide
  else { slide with choicesOpen := true }.put context (.opening .choices)

def openList (context : RenderContext) (slide : SlideRendering W) (ordered : Bool) :
    SlideRendering W :=
  if slide.list = some ordered then slide
  else { slide.closeList context with list := some ordered }.put context (.opening (.list ordered))

/-- All that is open on the slide closed, at its end. -/
def closeAll (context : RenderContext) (slide : SlideRendering W) : SlideRendering W :=
  [Region.extra, .hint, .notes, .hidden].foldl (closeRegion context)
    (({ slide with isDiscarding := false }.closeList context).closeChoices context)

/-- The page of the slide. A slide without a heading is numbered on request. -/
def page (context : RenderContext) (slide : SlideRendering W) : SlidePage where
  number := slide.number
  id := slide.id
  fragments :=
    (if context.options.number && slide.header.isNone then
      [SlidePage.untitled context.fileNumber slide.number]
    else []) ++ slide.fragments

end SlideRendering

namespace Rendering

variable {W : Type}

/-- A file of which nothing is rendered yet. -/
def start [Weight W] (fileNumber : Nat) : Rendering W where
  file := { references := ⟨fileNumber, [], []⟩, ledger := Ledger.empty }
  slide := .start fileNumber 1 0

def withSlide (rendering : Rendering W) (slide : SlideRendering W) : Rendering W :=
  { rendering with slide := slide }

def emit (context : RenderContext) (rendering : Rendering W) (fragment : Fragment) : Rendering W :=
  rendering.withSlide (rendering.slide.emit context fragment)

def put (context : RenderContext) (rendering : Rendering W) (piece : Piece) : Rendering W :=
  rendering.withSlide (rendering.slide.put context piece)

/-- A fault of the slide as an error of the file. -/
def located {α : Type} (context : RenderContext) (rendering : Rendering W) :
    Except SlideFault α → Except (CompileError W) α
  | .ok a => .ok a
  | .error fault => .error (.faultySlide ⟨context.file, rendering.slide.number⟩ fault)

def fault {α : Type} (context : RenderContext) (rendering : Rendering W) (fault : SlideFault) :
    Except (CompileError W) α := located context rendering (.error fault)

/-- A warning about the slide. -/
def warn (context : RenderContext) (rendering : Rendering W) (finding : Finding) : Rendering W :=
  { rendering with file := { rendering.file with
      warnings := rendering.file.warnings ++
        [⟨context.file, some rendering.slide.number, finding⟩] } }

/-- A link to a name that is not defined yet. -/
def await (rendering : Rendering W) (id : String) : Rendering W :=
  { rendering with file := { rendering.file with
      forward := rendering.file.forward.add id rendering.slide.number } }

variable [Weight W]

/-- All forward links settled that can be. -/
def settle (context : RenderContext) (rendering : Rendering W) :
    Except (CompileError W) (Rendering W) :=
  match rendering.file.forward.settle rendering.file.ledger with
  | .error violation =>
    .error (.gradedSkip ⟨context.file, violation.originSlide⟩ violation.target violation.weight)
  | .ok (forward, skips) =>
    let questions := skips.foldl (fun questions skip => questions.map (Draft.annotate skip))
      rendering.file.questions
    .ok { rendering with file := { rendering.file with
        forward := forward, questions := questions } }

/-- A reference defined on the slide, and what became of it. -/
def define (context : RenderContext) (rendering : Rendering W) (id : String)
    (kind : ReferenceKind) (counter : String) :
    Except (CompileError W) (Rendering W × Reference.Defined) := do
  let (references, defined) :=
    rendering.file.references.define id kind counter rendering.slide.number
  let file := { rendering.file with references := references }
  if defined.isNew then
    let forward := file.forward.define id rendering.slide.number
    let rendering ← settle context { rendering with file := { file with forward := forward } }
    return (rendering, defined)
  else
    return (warn context { rendering with file := file } (.duplicateReference id defined.id),
      defined)

end Rendering

end LectureDeck
