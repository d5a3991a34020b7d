import LectureDeck.Deck.Running
import LectureDeck.Digest.Short
import LectureDeck.Plugin.Template

/-!
# Reading of slides

A file is read block by block onto a draft. Directives open and close the regions of a slide,
present its choices and give its answer; at the end of the slide its question is checked and
recorded. Where slides end is found here from the blocks alone. What reading a file yields is its
analysis: its model, what each slide wrote, and what there is to warn of. No option of presentation
takes part in it.
-/

namespace LectureDeck

open LectureDeck.Text

/-- Running text cut at the markers of choices: what stands before the first marker, and each
marker with what follows it. -/
def cutChoices : List Inline → List Inline × List ((Char × Bool) × List Inline)
  | [] => ([], [])
  | .choice letter alternative :: rest =>
    let (content, items) := cutChoices rest
    ([], ((letter, alternative), content) :: items)
  | token :: rest =>
    let (content, items) := cutChoices rest
    (token :: content, items)

/-- The identifier at the end of a heading, after the brace that opens it. -/
def headingId? (cs : List Char) : Option String := do
  let start ← literal? "#" (skipGap cs)
  let isIdChar := fun c => c != '\x7d' && !isBlank c
  let (id, rest) ← run? isIdChar start
  let rest ← literal? "\x7d" (skipGap rest)
  if (skipGap rest).isEmpty then some (String.ofList id) else none

/-- The text of a heading before its identifier, and the identifier. -/
def cutHeading : List Char → List Char × Option String
  | [] => ([], none)
  | c :: rest =>
    let id := if c = '\x7b' then headingId? rest else none
    match id with
    | some id => ([], some id)
    | none =>
      let (content, id) := cutHeading rest
      (c :: content, id)

/-- The distinct elements of a list, each at its first place. -/
def distinct (names : List String) : List String :=
  names.foldl (fun kept name => if kept.contains name then kept else kept ++ [name]) []

namespace Draft

variable {W : Type}

def fault {α : Type} (setting : Setting) (draft : Draft W) (fault : SlideFault) :
    Except (CompileError W) α := located setting draft (.error fault)

/-- A marker of a choice. Choices do not go with an answer of another kind. -/
def readMarker (setting : Setting) (draft : Draft W) (marker : Char × Bool) :
    Except (CompileError W) (Draft W) := do
  if let some kind := draft.slide.answer.bind Answer.kind then
    if !kind.isChoice then fault setting draft (.choiceTypeConflict marker.1 kind)
  let choices ← located setting draft
    (draft.slide.choices.present setting.multiplicity marker.1 marker.2)
  return draft.withSlide { draft.slide with choices := choices }.openChoices

/-- Tags of the slide. They come before notes, and once. -/
def readTags (setting : Setting) (draft : Draft W) (content : String) :
    Except (CompileError W) (Draft W) := do
  let draft := draft.withSlide draft.slide.closeChoices
  if draft.slide.notesSeen then return warn setting draft .tagsAfterNotes
  if draft.slide.tags.isSome then fault setting draft .duplicateTags
  let tags := Tags.parse content
  let draft := if tags.isEmpty then draft else draft.write (.concepts tags.all)
  return draft.withSlide { draft.slide with tags := some tags }

/-- A slide is past its body, so that hints and notes are not shown any more. -/
def isPastBody (draft : Draft W) : Bool :=
  draft.slide.isDiscarding || draft.slide.regions.contains .extra

/-- A hint. Its region ends with the next hint or the answer. -/
def readHint (setting : Setting) (draft : Draft W) (penalty : Option Float) :
    Except (CompileError W) (Draft W) := do
  let draft := draft.withSlide draft.slide.closeChoices
  if draft.isPastBody then return draft.withSlide { draft.slide with isDiscarding := true }
  let slide := draft.slide.closeRegion .hint
  let slide := { slide with hints := slide.hints ++ [penalty.getD 0.0] }
  return draft.withSlide (← located setting draft (slide.openRegion .hint))

/-- The notes of the slide. -/
def readNotes (setting : Setting) (draft : Draft W) : Except (CompileError W) (Draft W) := do
  let draft := draft.withSlide (draft.slide.closeRegion .hint).closeChoices
  if draft.isPastBody then return draft.withSlide { draft.slide with isDiscarding := true }
  let draft := draft.withSlide { draft.slide with notesSeen := true }
  if draft.slide.regions.contains .notes then return draft
  return draft.withSlide (← located setting draft (draft.slide.openRegion .notes))

/-- Extra material, to the end of the slide. -/
def readExtra (setting : Setting) (draft : Draft W) : Except (CompileError W) (Draft W) := do
  let draft := draft.withSlide (draft.slide.closeRegion .hint).closeChoices
  return draft.withSlide (← located setting draft (draft.slide.openRegion .extra))

def fill (setting : Setting) (draft : Draft W) (fields : TemplateFields) (template : String) :
    Except (CompileError W) String :=
  match Template.fill template fields with
  | .ok filled => .ok filled
  | .error field =>
    .error (.unknownField ⟨setting.file, draft.slide.number⟩ fields.plugin field)

/-- A plugin that the run knows, on the slide. Its head and its top are for the first use. -/
def readPlugin (setting : Setting) (draft : Draft W) (name arguments : String) (plugin : Plugin) :
    Except (CompileError W) (Draft W) := do
  let fields : TemplateFields := ⟨name, draft.slide.id, arguments, setting.fileNumber⟩
  let isFirst := !draft.file.pluginUses.any fun use => use.name == name
  let heads ← if isFirst && !plugin.head.isEmpty then
      (fill setting draft fields plugin.head).map fun head => [head]
    else .ok []
  let top ← if isFirst then fill setting draft fields plugin.top else .ok ""
  let body ← fill setting draft fields plugin.body
  let button ← fill setting draft fields plugin.button
  let use : PluginUse :=
    ⟨name, draft.slide.number, isFirst, arguments, Template.fieldNames plugin.body⟩
  let draft := draft.write (.plugin draft.slide.id name top body button)
  return { draft with file := { draft.file with
      heads := draft.file.heads ++ heads, pluginUses := draft.file.pluginUses ++ [use] } }

/-- A plugin on the slide, at most once. -/
def readEmbed (setting : Setting) (draft : Draft W) (name arguments : String) :
    Except (CompileError W) (Draft W) := do
  if draft.slide.embeds.contains name then fault setting draft (.duplicatePlugin name)
  let draft := draft.withSlide { draft.slide with embeds := draft.slide.embeds ++ [name] }
  match setting.plugins.get? name with
  | some plugin => readPlugin setting draft name arguments plugin
  | none =>
    return (warn setting draft (.unknownPlugin name)).write (.missingPlugin name arguments)

variable [Weight W]

/-- The answer of the slide. Only the first counts. -/
def readAnswer (setting : Setting) (draft : Draft W) (content : String) :
    Except (CompileError W) (Draft W) := do
  let draft := draft.withSlide (draft.slide.closeRegion .hint).closeChoices
  if draft.slide.answer.isSome then return warn setting draft .duplicateAnswer
  let hasChoices := 0 < draft.slide.choices.count
  let answer : Answer W ← located setting draft (Answer.parse content hasChoices setting.plugins)
  if let some kind := answer.kind then
    if hasChoices && !kind.isChoice then fault setting draft (.answerTypeConflict .choice kind)
  let keyword := (answer.kind.getD .choice).keyword
  let draft := draft.write (.answer draft.slide.id keyword answer.correct)
  return draft.withSlide { draft.slide with answer := some answer }

/-- The text of a choice or of a restatement of the question. -/
def readChoice (setting : Setting) (draft : Draft W) (item : (Char × Bool) × List Inline) :
    Except (CompileError W) (Draft W) := do
  let draft ← readMarker setting draft item.1
  let element :=
    if item.1.1 = Choices.restatement then Element.restatement else .choice item.1.1
  readInside setting element (item.2.flatMap TextStep.ofToken) draft

/-- A paragraph, which may present choices. -/
def readParagraph (setting : Setting) (draft : Draft W) (content : String) :
    Except (CompileError W) (Draft W) := do
  let (lead, items) := cutChoices (Inline.scan content)
  let draft ←
    if lead.isEmpty && !items.isEmpty then .ok draft
    else readInside setting .paragraph (lead.flatMap TextStep.ofToken) draft
  items.foldlM (readChoice setting) draft

/-- The reference that a heading defines, and the identifier it is shown under. A heading without
an identifier of its own defines its text, unless that is defined already. -/
def defineHeading (setting : Setting) (draft : Draft W) (content : String) (key : Option String) :
    Except (CompileError W) (Draft W × Option String) := do
  let counter := Reference.key content
  match key with
  | some key =>
    let declaration := Reference.Declaration.parse key content
    let (draft, defined) ← define setting draft declaration.id declaration.kind counter
    return (draft, some defined.id)
  | none =>
    let id := Reference.idOf content
    if content.isEmpty || draft.file.references.contains id then return (draft, none)
    let (draft, defined) ← define setting draft id .plain counter
    return (draft, some defined.id)

/-- The number of a heading, which is a chapter or a section by its level, and the draft in which
it is one. -/
def numberHeading (setting : Setting) (draft : Draft W) (level : Nat) (content : String) :
    Draft W × HeadingNumber :=
  let file := draft.file
  if level = 1 && file.header.isNone then
    ({ draft with file := { file with header := some content } }, .chapter setting.fileNumber)
  else if level = 2 then
    let sections := file.sections ++ [(draft.slide.id, content)]
    ({ draft with file := { file with sections := sections } },
      .section setting.fileNumber sections.length)
  else (draft, .absent)

/-- A heading begins a hidden slide when it is the first and its text asks for it. -/
def hides (setting : Setting) (draft : Draft W) (level : Nat) (content : String) : Bool :=
  draft.slide.headings == 0 && (level == 2 || level == 3) &&
    setting.hide.any fun pattern => pattern.matches content

def readHeading (setting : Setting) (draft : Draft W) (level : Nat) (content : String) :
    Except (CompileError W) (Draft W) := do
  let (content, key) := cutHeading content.toList
  let content := String.ofList (trim content)
  let slide ← if hides setting draft level content then
      located setting draft (draft.slide.openRegion .hidden)
    else .ok draft.slide
  let header := if content.isEmpty then slide.header else slide.header.or (some content)
  let draft := draft.withSlide { slide with headings := slide.headings + 1, header := header }
  let (draft, number) := numberHeading setting draft level content
  let (draft, id) ← defineHeading setting draft content key
  readInside setting (.heading level id number) (TextStep.ofText content) draft

def readListItem (setting : Setting) (draft : Draft W) (ordered : Bool) (content : String) :
    Except (CompileError W) (Draft W) :=
  readInside setting .listItem (TextStep.ofText content)
    (draft.withSlide (draft.slide.openList ordered))

/-- A question to discuss. -/
def readDiscuss (setting : Setting) (draft : Draft W) (content : String) :
    Except (CompileError W) (Draft W) :=
  let slide := { draft.slide.closeChoices with discuss := true }
  readInside setting (.discussion slide.id) (TextStep.ofText content) (draft.withSlide slide)

/-- What a block says, given that it is part of the slide. -/
def readContent (setting : Setting) (draft : Draft W) :
    Block → Except (CompileError W) (Draft W)
  | .text content => readParagraph setting draft content
  | .heading level content => readHeading setting draft level content
  | .displayMath content => .ok (draft.write (.blockMath content))
  | .environment name content => .ok (draft.write (.environment name content))
  | .pluginDefinition name content =>
    .ok { draft with file := { draft.file with
        pluginTexts := draft.file.pluginTexts ++ [⟨name, content⟩] } }
  | .pluginEmbed name arguments => readEmbed setting draft name arguments
  | .metadata name content =>
    .ok (if name == "defaults" then draft else draft.write (.comment name content))
  | .answer content => readAnswer setting draft content
  | .discuss content => readDiscuss setting draft content
  | .tags content => readTags setting draft content
  | .hint penalty => readHint setting draft penalty
  | .notes => readNotes setting draft
  | .extra => readExtra setting draft
  | .minirule => .ok (draft.write .minirule)
  | .pause => .ok (draft.write .pause)
  | .rule => .ok (draft.write .rule)
  | .listItem ordered content => readListItem setting draft ordered content
  | .code language content => .ok (draft.write (.blockCode language content))
  | .quoteStart =>
    let slide := draft.slide
    .ok ((draft.withSlide { slide with depth := slide.depth + 1 }).write (.opening .quote))
  | .quoteEnd =>
    let slide := draft.slide
    .ok ((draft.withSlide { slide with depth := slide.depth - 1 }).write (.closing .quote))
  | .html content => .ok (draft.write (.blockHtml content))

/-- The draft in which a list ends, unless the block that follows is an item of a list. -/
def beforeBlock (draft : Draft W) : Block → Draft W
  | .listItem .. => draft
  | _ => draft.withSlide draft.slide.closeList

/-- The correct answer names choices that were presented, and the plugin that decides is
embedded. -/
def checkAnswer (slide : SlideDraft W) (answer : Answer W) (kind : QuestionKind) :
    Except SlideFault Unit := do
  let shown := (answer.correct.map CorrectAnswer.shown).getD ""
  if kind.isChoice then
    if slide.choices.count = 0 then .error (.invalidAnswer shown .nothingPresented)
    if let some (.choices letters) := answer.correct then
      if let some letter := letters.find? fun letter => !slide.choices.letters.contains letter then
        .error (.invalidAnswer shown (.notPresented letter))
  if let some plugin := answer.requiredPlugin then
    if !slide.embeds.contains plugin then .error (.missingPlugin plugin)

/-- The answer of the question on the slide, if there is a question. Choices alone make one. -/
def answer? (slide : SlideDraft W) : Option (Answer W) :=
  slide.answer.or
    (if 0 < slide.choices.count then some ⟨none, none, none, AnswerOptions.initial⟩ else none)

/-- The kind of a question whose answer may not give it. -/
def kindOf (slide : SlideDraft W) (answer : Answer W) : QuestionKind :=
  answer.kind.getD (if 0 < slide.choices.count then .choice else .text)

def slideText (setting : Setting) (number : Nat) : List Char :=
  ((setting.outline.slices[number - 1]?).map fun slice => slice.text setting.source).getD []

/-- The slide's question checked and recorded, if it has one. -/
def recordQuestion (setting : Setting) (draft : Draft W) :
    Except (CompileError W) (Draft W × Option Nat) := do
  let slide := draft.slide
  match answer? slide with
  | none => return (draft, none)
  | some answer =>
    let kind := kindOf slide answer
    located setting draft (checkAnswer slide answer kind)
    let options := answer.options
    let ledger := draft.file.ledger.push slide.number options.weight options.gradeWeight
    let question : Question W := {
      number := ledger.size, slide := slide.number, slideId := slide.id, kind := kind
      correct := answer.correct, weight := options.weight, gradeWeight := options.gradeWeight
      voteWeight := options.voteWeight, settings := options.settings, retry := options.retry
      hints := slide.hints, digest := digest (slideText setting slide.number)
      choices := slide.choices.count
      alternatives := slide.choices.alternatives, skip := none }
    return ({ draft with file := { draft.file with
        ledger := ledger, questions := draft.file.questions ++ [question] } }, some question.number)

/-- A warning for each plugin that running text calls and the slide does not embed. -/
def warnOfCalls (setting : Setting) (draft : Draft W) : Draft W :=
  ((distinct draft.slide.calls).filter fun plugin => !draft.slide.embeds.contains plugin).foldl
    (fun draft plugin => warn setting draft (.missingEmbed plugin)) draft

/-- What an index has to know of the slide, if it has tags. -/
def occurrences (setting : Setting) (slide : SlideDraft W) (question : Option Nat) :
    List Occurrence :=
  match slide.tags with
  | none => []
  | some tags =>
    if tags.isEmpty then []
    else [⟨setting.file, slide.number, slide.id, slide.header.getD "", tags, question⟩]

/-- The slide at its end as a part of the model. -/
def finished (slide : SlideDraft W) (question : Option Nat) (endBlock : Nat) : Slide where
  number := slide.number
  id := slide.id
  header := slide.header
  tags := slide.tags.getD {}
  question := question
  firstBlock := slide.firstBlock
  endBlock := endBlock
  regions := slide.opened
  images := slide.images
  discuss := slide.discuss
  plugins := slide.embeds

/-- The end of the slide, given the number of blocks up to it. -/
def closeSlide (setting : Setting) (draft : Draft W) (endBlock : Nat) :
    Except (CompileError W) (Draft W) := do
  let draft := draft.withSlide draft.slide.closeAll
  let (draft, question) ← recordQuestion setting draft
  let draft := warnOfCalls setting draft
  let file := draft.file
  let slide := draft.slide
  settle setting { draft with file := { file with
    occurrences := file.occurrences ++ occurrences setting slide question
    scripts := file.scripts ++ [slide.script]
    slides := file.slides ++ [finished slide question endBlock]
    forward := file.forward.closeSlide (file.slides.length + 1) question } }

/-- The end of the slide and the start of the next one. -/
def nextSlide (setting : Setting) (draft : Draft W) (endBlock : Nat) :
    Except (CompileError W) (Draft W) := do
  let draft ← closeSlide setting draft endBlock
  return draft.withSlide (.start setting.fileNumber (draft.file.slides.length + 1) endBlock)

def readPart (setting : Setting) (draft : Draft W) (block : Block) :
    Except (CompileError W) (Draft W) := readContent setting (beforeBlock draft block) block

/-- A block that stands outside quotes and does not end the slide, given that it may be content. -/
def noteContent (draft : Draft W) (block : Block) : Draft W :=
  draft.withSlide
    { draft.slide with hasContent := draft.slide.hasContent || block.isContent }

/-- A block, given the number of blocks before it. Outside quotes a rule ends the slide and is not
part of it, and a heading may begin a slide. -/
def readBlock (setting : Setting) (draft : Draft W) (place : Block × Nat) :
    Except (CompileError W) (Draft W) := do
  let (block, before) := place
  if draft.slide.depth = 0 then
    if block.endsSlide then nextSlide setting draft (before + 1)
    else
      let draft ← if block.startsSlide && draft.slide.hasContent then nextSlide setting draft before
        else .ok draft
      readPart setting (draft.noteContent block) block
  else readPart setting draft block

/-- All blocks of a file read, and its last slide ended. -/
def readFile (setting : Setting) : Except (CompileError W) (Draft W) := do
  let blocks := setting.outline.blocks
  let draft ← blocks.zipIdx.foldlM (readBlock setting) (start setting.fileNumber)
  closeSlide setting draft blocks.length

end Draft

/-- What reading a file yields. -/
structure Analysis (W : Type) where
  model : FileModel W
  /-- What each slide wrote. -/
  scripts : List (List Entry)
  /-- What the plugins put at the head of the page. -/
  heads : List String
  occurrences : List Occurrence
  warnings : List Warning
deriving Repr

namespace Analysis

variable {W : Type} [Weight W]

/-- A warning of a link that never found its target. -/
def unresolvedWarning (setting : Setting) (link : String × Nat) : Warning :=
  ⟨setting.file, some link.2, .unresolvedLink link.1⟩

/-- The analysis of a file that is read to its end. -/
def ofDraft (setting : Setting) (draft : FileDraft W) : Analysis W where
  model := {
    file := setting.file, fileNumber := setting.fileNumber,
    chapterId := chapterId setting.fileNumber
    header := draft.header, slides := draft.slides, questions := draft.questions
    ledger := draft.ledger, references := draft.references.references
    pluginUses := draft.pluginUses, pluginTexts := draft.pluginTexts, sections := draft.sections }
  scripts := draft.scripts
  heads := draft.heads
  occurrences := draft.occurrences
  warnings := draft.warnings ++ draft.forward.unresolved.map (unresolvedWarning setting)

/-- The analysis of a file. Its slides have to be as many as the slices of its source. -/
def ofSetting (setting : Setting) : Except (CompileError W) (Analysis W) := do
  let draft ← Draft.readFile setting
  let slices := setting.outline.slices.length
  let slides := draft.file.slides.length
  if slides = slices then return ofDraft setting draft.file
  else .error (.slideCount setting.file slices slides)

end Analysis

end LectureDeck
