import LectureDeck.Render.Text

/-!
# Rendering of files

The blocks of a file are rendered one by one. Directives open and close the regions of a slide,
present its choices and give its answer. At the end of the slide its question is checked and
recorded, and its page is complete. Labels that are pending at the end of the file are put in then.
-/

namespace LectureDeck

open LectureDeck.Text

/-- What rendering a file yields. -/
structure Rendered (W : Type) where
  model : FileModel W
  document : Document
  /-- What the plugins put at the head of the page. -/
  heads : List String
  occurrences : List Occurrence
  warnings : List Warning

namespace Rendering

variable {W : Type}

/-- A marker of a choice. Choices do not go with an answer of another kind. -/
def renderMarker (context : RenderContext) (rendering : Rendering W) (marker : Char × Bool) :
    Except (CompileError W) (Rendering W) := do
  if let some kind := rendering.slide.answer.bind Answer.kind then
    if !kind.isChoice then fault context rendering (.choiceTypeConflict marker.1 kind)
  let choices ← located context rendering
    (rendering.slide.choices.present context.options.features.multiplicity marker.1 marker.2)
  return rendering.withSlide ({ rendering.slide with choices := choices }.openChoices context)

/-- Tags of the slide. They come before notes, and once. -/
def renderTags (context : RenderContext) (rendering : Rendering W) (content : String) :
    Except (CompileError W) (Rendering W) := do
  let rendering := rendering.withSlide (rendering.slide.closeChoices context)
  if rendering.slide.notesSeen then return warn context rendering .tagsAfterNotes
  if rendering.slide.tags.isSome then fault context rendering .duplicateTags
  let tags := Tags.parse content
  let rendering :=
    if !context.options.strip.concepts && !tags.isEmpty then
      rendering.put context (.concepts tags.all)
    else rendering
  return rendering.withSlide { rendering.slide with tags := some tags }

/-- A slide is past its body, so that hints and notes are not shown any more. -/
def isPastBody (rendering : Rendering W) : Bool :=
  rendering.slide.isDiscarding || rendering.slide.regions.contains .extra

/-- A hint. Its region ends with the next hint or the answer. -/
def renderHint (context : RenderContext) (rendering : Rendering W) (penalty : Option Float) :
    Except (CompileError W) (Rendering W) := do
  let rendering := rendering.withSlide (rendering.slide.closeChoices context)
  if rendering.isPastBody then
    return rendering.withSlide { rendering.slide with isDiscarding := true }
  let slide := rendering.slide.closeRegion context .hint
  let slide := { slide with hints := slide.hints ++ [penalty.getD 0.0] }
  return rendering.withSlide (← located context rendering (slide.openRegion context .hint))

/-- The notes of the slide. -/
def renderNotes (context : RenderContext) (rendering : Rendering W) :
    Except (CompileError W) (Rendering W) := do
  let rendering := rendering.withSlide
    ((rendering.slide.closeRegion context .hint).closeChoices context)
  if rendering.isPastBody then
    return rendering.withSlide { rendering.slide with isDiscarding := true }
  let rendering := rendering.withSlide { rendering.slide with notesSeen := true }
  if rendering.slide.regions.contains .notes then return rendering
  return rendering.withSlide (← located context rendering
    (rendering.slide.openRegion context .notes))

/-- Extra material, to the end of the slide. -/
def renderExtra (context : RenderContext) (rendering : Rendering W) :
    Except (CompileError W) (Rendering W) := do
  let rendering := rendering.withSlide
    ((rendering.slide.closeRegion context .hint).closeChoices context)
  return rendering.withSlide (← located context rendering
    (rendering.slide.openRegion context .extra))

def fill (context : RenderContext) (rendering : Rendering W) (fields : TemplateFields)
    (template : String) : Except (CompileError W) String :=
  match Template.fill template fields with
  | .ok filled => .ok filled
  | .error field =>
    .error (.unknownField ⟨context.file, rendering.slide.number⟩ fields.plugin field)

/-- A plugin that the run knows, on the slide. Its head and its top are for the first use. -/
def renderPlugin (context : RenderContext) (rendering : Rendering W) (name arguments : String)
    (plugin : Plugin) : Except (CompileError W) (Rendering W) := do
  let fields : TemplateFields := ⟨name, rendering.slide.id, arguments, context.fileNumber⟩
  let isFirst := !rendering.file.loaded.contains name
  let heads ← if isFirst && !plugin.head.isEmpty then
      (fill context rendering fields plugin.head).map fun head => [head]
    else .ok []
  let top ← if isFirst then fill context rendering fields plugin.top else .ok ""
  let body ← fill context rendering fields plugin.body
  let button ← fill context rendering fields plugin.button
  let use : PluginUse :=
    ⟨name, rendering.slide.number, isFirst, arguments, Template.fieldNames plugin.body⟩
  let rendering := rendering.put context (.plugin rendering.slide.id name top body button)
  return { rendering with file := { rendering.file with
      loaded := rendering.file.loaded ++ [name]
      heads := rendering.file.heads ++ heads, pluginUses := rendering.file.pluginUses ++ [use] } }

/-- A plugin on the slide, at most once. -/
def renderEmbed (context : RenderContext) (rendering : Rendering W) (name arguments : String) :
    Except (CompileError W) (Rendering W) := do
  if rendering.slide.embeds.contains name then fault context rendering (.duplicatePlugin name)
  let rendering :=
    rendering.withSlide { rendering.slide with embeds := rendering.slide.embeds ++ [name] }
  match context.plugins.get? name with
  | some plugin => renderPlugin context rendering name arguments plugin
  | none =>
    return (warn context rendering (.unknownPlugin name)).put context
      (.missingPlugin name arguments)

variable [Weight W]

/-- The answer of the slide. Only the first counts. -/
def renderAnswer (context : RenderContext) (rendering : Rendering W) (content : String) :
    Except (CompileError W) (Rendering W) := do
  let rendering := rendering.withSlide
    ((rendering.slide.closeRegion context .hint).closeChoices context)
  if rendering.slide.answer.isSome then return warn context rendering .duplicateAnswer
  let hasChoices := 0 < rendering.slide.choices.count
  let answer : Answer W ←
    located context rendering (Answer.parse content hasChoices context.plugins)
  if let some kind := answer.kind then
    if hasChoices && !kind.isChoice then
      fault context rendering (.answerTypeConflict .choice kind)
  let keyword := (answer.kind.getD .choice).keyword
  let shown := if context.options.strip.answers then none else answer.correct
  let rendering := rendering.put context (.answer rendering.slide.id keyword shown)
  return rendering.withSlide { rendering.slide with answer := some answer }

/-- The text of a choice or of a restatement of the question. -/
def renderChoice (context : RenderContext) (rendering : Rendering W)
    (item : (Char × Bool) × List Inline) : Except (CompileError W) (Rendering W) := do
  let rendering ← renderMarker context rendering item.1
  let element :=
    if item.1.1 = Choices.restatement then Element.restatement else .choice item.1.1
  renderInside context element (item.2.flatMap TextStep.ofToken) rendering

/-- A paragraph, which may present choices. -/
def renderParagraph (context : RenderContext) (rendering : Rendering W) (content : String) :
    Except (CompileError W) (Rendering W) := do
  let (lead, items) := cutChoices (Inline.scan content)
  let rendering ←
    if lead.isEmpty && !items.isEmpty then .ok rendering
    else renderInside context .paragraph (lead.flatMap TextStep.ofToken) rendering
  items.foldlM (renderChoice context) rendering

/-- The reference that a heading defines, and the identifier it is shown under. A heading without
an identifier of its own defines its text, unless that is defined already. -/
def defineHeading (context : RenderContext) (rendering : Rendering W) (content : String)
    (key : Option String) : Except (CompileError W) (Rendering W × Option String) := do
  let counter := Reference.key content
  match key with
  | some key =>
    let declaration := Reference.Declaration.parse key content
    let (rendering, defined) ←
      define context rendering declaration.id declaration.kind counter
    return (rendering, some defined.id)
  | none =>
    let id := Reference.idOf content
    if content.isEmpty || rendering.file.references.contains id then return (rendering, none)
    let (rendering, defined) ← define context rendering id .plain counter
    return (rendering, some defined.id)

/-- A heading that is a chapter or a section by its level counted as one, and the number that is
shown before it, if numbers of its kind are not left out. -/
def numberHeading (context : RenderContext) (rendering : Rendering W) (level : Nat)
    (content : String) : Rendering W × HeadingNumber :=
  let file := rendering.file
  if level = 1 && file.header.isNone then
    ({ rendering with file := { file with header := some content } },
      if context.options.strip.chapters then .absent else .chapter context.fileNumber)
  else if level = 2 then
    let sections := file.sections ++ [(rendering.slide.id, content)]
    ({ rendering with file := { file with sections := sections } },
      if context.options.strip.sections then .absent
      else .section context.fileNumber sections.length)
  else (rendering, .absent)

/-- A heading begins a hidden slide when it is the first and its text asks for it. -/
def hides (context : RenderContext) (rendering : Rendering W) (level : Nat)
    (content : String) : Bool :=
  rendering.slide.headings == 0 && (level == 2 || level == 3) &&
    context.hide.any fun pattern => pattern.matches content

def renderHeading (context : RenderContext) (rendering : Rendering W) (level : Nat)
    (content : String) : Except (CompileError W) (Rendering W) := do
  let (content, key) := cutHeading content.toList
  let content := String.ofList (trim content)
  let slide ← if hides context rendering level content then
      located context rendering (rendering.slide.openRegion context .hidden)
    else .ok rendering.slide
  let header := if content.isEmpty then slide.header else slide.header.or (some content)
  let rendering :=
    rendering.withSlide { slide with headings := slide.headings + 1, header := header }
  let (rendering, number) := numberHeading context rendering level content
  let (rendering, id) ← defineHeading context rendering content key
  renderInside context (.heading level id number) (TextStep.ofText content) rendering

def renderListItem (context : RenderContext) (rendering : Rendering W) (ordered : Bool)
    (content : String) : Except (CompileError W) (Rendering W) :=
  renderInside context .listItem (TextStep.ofText content)
    (rendering.withSlide (rendering.slide.openList context ordered))

/-- A question to discuss. -/
def renderDiscuss (context : RenderContext) (rendering : Rendering W) (content : String) :
    Except (CompileError W) (Rendering W) :=
  let slide := { rendering.slide.closeChoices context with discuss := true }
  renderInside context (.discussion slide.id) (TextStep.ofText content) (rendering.withSlide slide)

/-- A block, given that it is part of the slide. -/
def renderContent (context : RenderContext) (rendering : Rendering W) :
    Block → Except (CompileError W) (Rendering W)
  | .text content => renderParagraph context rendering content
  | .heading level content => renderHeading context rendering level content
  | .displayMath content => .ok (rendering.put context (.blockMath content))
  | .environment name content => .ok (rendering.put context (.environment name content))
  | .pluginDefinition name content =>
    .ok { rendering with file := { rendering.file with
        pluginTexts := rendering.file.pluginTexts ++ [⟨name, content⟩] } }
  | .pluginEmbed name arguments => renderEmbed context rendering name arguments
  | .metadata name content =>
    .ok (if name == "defaults" then rendering else rendering.put context (.comment name content))
  | .answer content => renderAnswer context rendering content
  | .discuss content => renderDiscuss context rendering content
  | .tags content => renderTags context rendering content
  | .hint penalty => renderHint context rendering penalty
  | .notes => renderNotes context rendering
  | .extra => renderExtra context rendering
  | .minirule => .ok (rendering.put context .minirule)
  | .pause => .ok (rendering.put context .pause)
  | .rule => .ok (rendering.put context .rule)
  | .listItem ordered content => renderListItem context rendering ordered content
  | .code language content => .ok (rendering.put context (.blockCode language content))
  | .quoteStart =>
    let slide := rendering.slide
    .ok ((rendering.withSlide { slide with depth := slide.depth + 1 }).put context
      (.opening .quote))
  | .quoteEnd =>
    let slide := rendering.slide
    .ok ((rendering.withSlide { slide with depth := slide.depth - 1 }).put context
      (.closing .quote))
  | .html content => .ok (rendering.put context (.blockHtml content))

/-- What there is before a block: a list ends, unless the block is an item of a list. -/
def beforeBlock (context : RenderContext) (rendering : Rendering W) : Block → Rendering W
  | .listItem .. => rendering
  | _ => rendering.withSlide (rendering.slide.closeList context)

/-- The slide's question checked and recorded, if it has one. -/
def recordQuestion (context : RenderContext) (rendering : Rendering W) :
    Except (CompileError W) (Rendering W × Option Nat) := do
  let slide := rendering.slide
  match Draft.answer? slide.draft with
  | none => return (rendering, none)
  | some answer =>
    let kind := Draft.kindOf slide.draft answer
    located context rendering (Draft.checkAnswer slide.draft answer kind)
    let options := answer.options
    let ledger := rendering.file.ledger.push slide.number options.weight options.gradeWeight
    let question : Question W := {
      number := ledger.size, slide := slide.number, slideId := slide.id, kind := kind
      correct := answer.correct, weight := options.weight, gradeWeight := options.gradeWeight
      voteWeight := options.voteWeight, settings := options.settings, retry := options.retry
      hints := slide.hints, digest := digest (Draft.slideText context.setting slide.number)
      choices := slide.choices.count
      alternatives := slide.choices.alternatives, skip := none }
    return ({ rendering with file := { rendering.file with
        ledger := ledger, questions := rendering.file.questions ++ [question] } },
      some question.number)

/-- A warning for each plugin that running text calls and the slide does not embed. -/
def warnOfCalls (context : RenderContext) (rendering : Rendering W) : Rendering W :=
  ((distinct rendering.slide.calls).filter fun plugin =>
    !rendering.slide.embeds.contains plugin).foldl
      (fun rendering plugin => warn context rendering (.missingEmbed plugin)) rendering

/-- The end of the slide, given the number of blocks up to it. -/
def closeSlide (context : RenderContext) (rendering : Rendering W) (endBlock : Nat) :
    Except (CompileError W) (Rendering W) := do
  let rendering := rendering.withSlide (rendering.slide.closeAll context)
  let (rendering, question) ← recordQuestion context rendering
  let rendering := warnOfCalls context rendering
  let file := rendering.file
  let slide := rendering.slide
  settle context { rendering with file := { file with
    occurrences := file.occurrences ++ Draft.occurrences context.setting slide.draft question
    pages := file.pages ++ [slide.page context]
    slides := file.slides ++ [Draft.finished slide.draft question endBlock]
    forward := file.forward.closeSlide (file.slides.length + 1) question } }

/-- The end of the slide and the start of the next one. -/
def nextSlide (context : RenderContext) (rendering : Rendering W) (endBlock : Nat) :
    Except (CompileError W) (Rendering W) := do
  let rendering ← closeSlide context rendering endBlock
  return rendering.withSlide
    (.start context.fileNumber (rendering.file.slides.length + 1) endBlock)

def renderPart (context : RenderContext) (rendering : Rendering W) (block : Block) :
    Except (CompileError W) (Rendering W) :=
  renderContent context (beforeBlock context rendering block) block

/-- A block that stands outside quotes and does not end the slide, given that it may be content. -/
def noteContent (rendering : Rendering W) (block : Block) : Rendering W :=
  rendering.withSlide
    { rendering.slide with hasContent := rendering.slide.hasContent || block.isContent }

/-- A block, given the number of blocks before it. Outside quotes a rule ends the slide and is not
part of it, and a heading may begin a slide. -/
def renderBlock (context : RenderContext) (rendering : Rendering W) (place : Block × Nat) :
    Except (CompileError W) (Rendering W) := do
  let (block, before) := place
  if rendering.slide.depth = 0 then
    if block.endsSlide then nextSlide context rendering (before + 1)
    else
      let rendering ←
        if block.startsSlide && rendering.slide.hasContent then nextSlide context rendering before
        else .ok rendering
      renderPart context (rendering.noteContent block) block
  else renderPart context rendering block

/-- All blocks of a file rendered, and its last slide ended. -/
def renderFile (context : RenderContext) : Except (CompileError W) (Rendering W) := do
  let blocks := context.outline.blocks
  let rendering ← blocks.zipIdx.foldlM (renderBlock context) (start context.fileNumber)
  closeSlide context rendering blocks.length

/-- A file that is rendered to its end. -/
def finish (context : RenderContext) (file : FileRendering W) : Rendered W where
  model := {
    file := context.file, fileNumber := context.fileNumber
    chapterId := chapterId context.fileNumber
    header := file.header, slides := file.slides, questions := file.questions
    ledger := file.ledger, references := file.references.references
    pluginUses := file.pluginUses, pluginTexts := file.pluginTexts, sections := file.sections }
  document :=
    Document.resolve (fun id => (file.references.get? id).map Reference.label)
      { chapterId := chapterId context.fileNumber, slides := file.pages
        rules := !context.options.strip.rule }
  heads := file.heads
  occurrences := file.occurrences
  warnings := file.warnings ++ file.forward.unresolved.map fun link =>
    ⟨context.file, some link.2, .unresolvedLink link.1⟩

end Rendering

/-- A file rendered. Its slides have to be as many as the slices of its source. -/
def render {W : Type} [Weight W] (context : RenderContext) :
    Except (CompileError W) (Rendered W) := do
  let rendering ← Rendering.renderFile context
  let slices := context.outline.slices.length
  let slides := rendering.file.slides.length
  if slides = slices then return Rendering.finish context rendering.file
  else .error (.slideCount context.file slices slides)

end LectureDeck
