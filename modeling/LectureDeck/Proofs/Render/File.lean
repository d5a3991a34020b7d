import LectureDeck.Deck.Compile
import LectureDeck.Proofs.Deck.Awaiting
import LectureDeck.Proofs.Render.Slide

/-!
# Rendering a file as it is read

Every block of a file is rendered as it is read (`LectureDeck.Draft.Renders.readContent`), and so is
the end of every slide (`LectureDeck.Draft.Renders.closeSlide`). A renderer thus keeps in step with
a reader over the whole file (`LectureDeck.Draft.Renders.readFile`): the options that it asks for on
its way decide neither whether it fails nor what it records. What it puts on pages are the scripts
of the slides, shown as the options have it (`LectureDeck.render_eq`). Compiling a file is therefore
reading it and presenting what was read (`LectureDeck.Compiled.ofSource_eq`).
-/

namespace LectureDeck

open LectureDeck.Text

namespace HeadingNumber

/-- The number of a chapter that is left out is shown as none. -/
theorem text_chapter (strip : Strip) (file : Nat) :
    (if strip.chapters then absent else chapter file).text strip = (chapter file).text strip := by
  cases omits : strip.chapters with
  | false => rfl
  | true => simp only [text, omits, if_true]

/-- The number of a section that is left out is shown as none. -/
theorem text_section (strip : Strip) (file ordinal : Nat) :
    (if strip.sections then absent else «section» file ordinal).text strip =
      («section» file ordinal).text strip := by
  cases omits : strip.sections with
  | false => rfl
  | true => simp only [text, omits, if_true]

end HeadingNumber

/-- Headings with numbers that are shown alike open alike. -/
theorem Element.opening_heading {strip : Strip} {number other : HeadingNumber} (level : Nat)
    (id : Option String) (same : number.text strip = other.text strip) :
    (heading level id number).opening strip = (heading level id other).opening strip :=
  congrArg (fun text => "<h" ++ Decimal.naturalText level ++
    (id.map fun id => " id=\"" ++ id ++ "\"").getD "" ++ ">" ++ text) same

namespace Draft.Renders

variable {W : Type} {context : RenderContext} {draft : Draft W} {rendering : Rendering W}

section Directives

theorem closeChoices (renders : draft.Renders context rendering) :
    (draft.withSlide draft.slide.closeChoices).Renders context
      (rendering.withSlide (rendering.slide.closeChoices context)) :=
  renders.withSlide renders.slide.closeChoices

theorem closeHint (renders : draft.Renders context rendering) :
    (draft.withSlide (draft.slide.closeRegion .hint).closeChoices).Renders context
      (rendering.withSlide ((rendering.slide.closeRegion context .hint).closeChoices context)) :=
  renders.withSlide renders.slide.closeHint

/-- A marker presents a choice unless an answer of another kind stands before it. The choices that
are presented so far are the same for both. -/
theorem readMarker (renders : draft.Renders context rendering) (marker : Char × Bool) :
    InStep (Renders context) (draft.readMarker context.setting marker)
      (rendering.renderMarker context marker) := by
  obtain ⟨pages, fragments, rfl⟩ := renders.exists_rendered
  have presented : InStep (Renders context)
      (do
        let choices ← Draft.located context.setting draft
          (draft.slide.choices.present context.setting.multiplicity marker.1 marker.2)
        return draft.withSlide { draft.slide with choices := choices }.openChoices)
      (do
        let choices ← Rendering.located context
          ⟨draft.file.rendered pages, draft.slide.rendered fragments⟩
          (draft.slide.choices.present context.options.features.multiplicity marker.1 marker.2)
        return Rendering.withSlide ⟨draft.file.rendered pages, draft.slide.rendered fragments⟩
          ({ draft.slide.rendered fragments with choices := choices }.openChoices context)) := by
    refine renders.bind_located fun choices => ?_
    have counted : SlideDraft.Renders context draft.file.references.Gives
      { draft.slide with choices := choices }
      { draft.slide.rendered fragments with choices := choices } := renders.slide.of_script rfl
    exact .ok (renders.withSlide counted.openChoices)
  unfold Draft.readMarker Rendering.renderMarker
  rw [SlideDraft.rendered_answer]
  cases draft.slide.answer.bind Answer.kind with
  | none => exact presented
  | some kind => exact .ite (fun _ => renders.fault _) fun _ => presented

/-- The concepts of the slide are a piece that is not written when concepts are left out. -/
theorem putConcepts (renders : draft.Renders context rendering) (tags : Tags) :
    (if tags.isEmpty then draft else draft.write (.concepts tags.all)).Renders context
      (if !context.options.strip.concepts && !tags.isEmpty then
        rendering.put context (.concepts tags.all) else rendering) := by
  cases none : tags.isEmpty with
  | true => rwa [Bool.not_true, Bool.and_false]
  | false =>
    cases omits : context.options.strip.concepts with
    | true => exact renders.withSlide (renders.slide.skip omits)
    | false => exact renders.put _ omits

theorem withTags (renders : draft.Renders context rendering) (tags : Tags) :
    (draft.withSlide { draft.slide with tags := some tags }).Renders context
      (rendering.withSlide { rendering.slide with tags := some tags }) := by
  obtain ⟨pages, fragments, rfl⟩ := renders.exists_rendered
  exact renders.withSlide (renders.slide.of_script rfl)

/-- Tags that come too late are warned of, and tags that come twice are a fault. Whether concepts
are left out is asked only when there are tags to show. -/
theorem readTags (renders : draft.Renders context rendering) (content : String) :
    InStep (Renders context) (draft.readTags context.setting content)
      (rendering.renderTags context content) := by
  have closed := renders.closeChoices
  unfold Draft.readTags Rendering.renderTags
  generalize draft.withSlide draft.slide.closeChoices = draft at closed ⊢
  generalize rendering.withSlide (rendering.slide.closeChoices context) = rendering at closed ⊢
  have shown := closed.putConcepts (Tags.parse content)
  obtain ⟨pages, fragments, rfl⟩ := closed.exists_rendered
  exact .ite (fun _ => .ok (closed.warn _)) fun _ => .ite (fun _ => closed.fault _) fun _ =>
    .ok (shown.withTags _)

/-- Where the slide is past its body does not depend on what is left out. -/
theorem isPastBody (renders : draft.Renders context rendering) :
    rendering.isPastBody = draft.isPastBody := by
  obtain ⟨pages, fragments, rfl⟩ := renders.exists_rendered
  rfl

/-- The slide is past its body, and what follows on it is discarded. -/
theorem discard (renders : draft.Renders context rendering) :
    (draft.withSlide { draft.slide with isDiscarding := true }).Renders context
      (rendering.withSlide { rendering.slide with isDiscarding := true }) := by
  obtain ⟨pages, fragments, rfl⟩ := renders.exists_rendered
  exact renders.withSlide (renders.slide.of_script rfl)

/-- A region opened on a slide that is put in place of the current one. -/
theorem openRegion (renders : draft.Renders context rendering) {slide : SlideDraft W}
    {current : SlideRendering W}
    (moved : slide.Renders context draft.file.references.Gives current) (region : Region) :
    InStep (Renders context)
      (do
        let opened ← Draft.located context.setting draft (slide.openRegion region)
        return draft.withSlide opened)
      (do
        let opened ← Rendering.located context rendering (current.openRegion context region)
        return rendering.withSlide opened) :=
  (renders.located (moved.openRegion region)).bind fun opened => .ok (renders.withSlide opened)

/-- A hint ends the one before it. Its penalty is noted, and after the body it is discarded. -/
theorem readHint (renders : draft.Renders context rendering) (penalty : Option Float) :
    InStep (Renders context) (draft.readHint context.setting penalty)
      (rendering.renderHint context penalty) := by
  have closed := renders.closeChoices
  unfold Draft.readHint Rendering.renderHint
  generalize draft.withSlide draft.slide.closeChoices = draft at closed ⊢
  generalize rendering.withSlide (rendering.slide.closeChoices context) = rendering at closed ⊢
  dsimp only
  rw [closed.isPastBody]
  refine .ite (fun _ => .ok closed.discard) fun _ => closed.openRegion ?_ .hint
  have ended := closed.slide.closeRegion .hint
  generalize rendering.slide.closeRegion context .hint = current at ended ⊢
  obtain ⟨fragments, shows⟩ := ended
  exact ⟨_, shows⟩

/-- Notes are seen whether they are left out or not, since tags may not follow them. -/
theorem readNotes (renders : draft.Renders context rendering) :
    InStep (Renders context) (draft.readNotes context.setting)
      (rendering.renderNotes context) := by
  have closed := renders.closeHint
  unfold Draft.readNotes Rendering.renderNotes
  generalize draft.withSlide (draft.slide.closeRegion .hint).closeChoices = draft at closed ⊢
  generalize rendering.withSlide
    ((rendering.slide.closeRegion context .hint).closeChoices context) = rendering at closed ⊢
  dsimp only
  rw [closed.isPastBody]
  refine .ite (fun _ => .ok closed.discard) fun _ => ?_
  obtain ⟨pages, fragments, rfl⟩ := closed.exists_rendered
  have seen : SlideDraft.Renders context draft.file.references.Gives
    { draft.slide with notesSeen := true }
    { draft.slide.rendered fragments with notesSeen := true } := closed.slide.of_script rfl
  exact .ite (fun _ => .ok (closed.withSlide seen)) fun _ =>
    (closed.withSlide seen).openRegion seen .notes

theorem readExtra (renders : draft.Renders context rendering) :
    InStep (Renders context) (draft.readExtra context.setting)
      (rendering.renderExtra context) :=
  renders.closeHint.openRegion renders.slide.closeHint .extra

theorem fill (renders : draft.Renders context rendering) (fields : TemplateFields)
    (template : String) :
    Rendering.fill context rendering fields template =
      Draft.fill context.setting draft fields template := by
  obtain ⟨pages, fragments, rfl⟩ := renders.exists_rendered
  rfl

/-- A plugin is loaded when it was used before. -/
theorem contains_loaded (renders : draft.Renders context rendering) (name : String) :
    rendering.file.loaded.contains name =
      draft.file.pluginUses.any fun use => use.name == name := by
  obtain ⟨pages, fragments, rfl⟩ := renders.exists_rendered
  rw [FileDraft.rendered_loaded, ← List.any_beq', List.any_map]
  rfl

/-- The use of a plugin noted. The names that a renderer keeps as loaded are those of the uses. -/
theorem noteUse (renders : draft.Renders context rendering) (heads : List String)
    (use : PluginUse) :
    Renders context
      { draft with file := { draft.file with
          heads := draft.file.heads ++ heads, pluginUses := draft.file.pluginUses ++ [use] } }
      { rendering with file := { rendering.file with
          loaded := rendering.file.loaded ++ [use.name]
          heads := rendering.file.heads ++ heads
          pluginUses := rendering.file.pluginUses ++ [use] } } := by
  obtain ⟨pages, fragments, rfl⟩ := renders.exists_rendered
  have loaded : draft.file.pluginUses.map PluginUse.name ++ [use.name] =
      (draft.file.pluginUses ++ [use]).map PluginUse.name := by
    rw [List.map_append]
    rfl
  dsimp only
  rw [FileDraft.rendered_loaded, loaded]
  exact renders.withFile rfl rfl rfl

/-- The templates of a plugin are filled in with the same fields, so that both fail at the same one,
and the top is put in for the first use. -/
theorem readPlugin (renders : draft.Renders context rendering) (name arguments : String)
    (plugin : Plugin) :
    InStep (Renders context) (draft.readPlugin context.setting name arguments plugin)
      (rendering.renderPlugin context name arguments plugin) := by
  unfold Draft.readPlugin Rendering.renderPlugin
  simp only [renders.contains_loaded, renders.fill, renders.slide.id_eq, renders.slide.number_eq]
  -- The first use may have a head and a top. What follows them is alike in every case.
  refine .ite (fun _ => .bind_same _ fun heads => ?_) fun _ => .bind_same _ fun heads => ?_ <;>
    refine .ite (fun _ => .bind_same _ fun top => ?_) fun _ => .bind_same _ fun top => ?_ <;>
    refine .bind_same _ fun body => .bind_same _ fun button => ?_ <;>
    exact .ok ((renders.put _ rfl).noteUse _ _)

/-- A plugin that the run does not know is warned of, and the slide embeds it nonetheless. -/
theorem readEmbed (renders : draft.Renders context rendering) (name arguments : String) :
    InStep (Renders context) (draft.readEmbed context.setting name arguments)
      (rendering.renderEmbed context name arguments) := by
  obtain ⟨pages, fragments, rfl⟩ := renders.exists_rendered
  have embedded : (draft.withSlide
      { draft.slide with embeds := draft.slide.embeds ++ [name] }).Renders context
        ⟨draft.file.rendered pages,
          { draft.slide.rendered fragments with embeds := draft.slide.embeds ++ [name] }⟩ :=
    renders.withSlide (renders.slide.of_script rfl)
  unfold Draft.readEmbed Rendering.renderEmbed
  refine .ite (fun _ => renders.fault _) fun _ => ?_
  rw [show context.setting.plugins = context.plugins from rfl]
  cases context.plugins.get? name with
  | some plugin => exact embedded.readPlugin name arguments plugin
  | none => exact .ok ((embedded.warn _).put _ rfl)

/-- The correct answer is shown by both, or by neither. -/
theorem putAnswer (renders : draft.Renders context rendering) (slideId keyword : String)
    (correct : Option CorrectAnswer) :
    (draft.write (.answer slideId keyword correct)).Renders context (rendering.put context
      (.answer slideId keyword (if context.options.strip.answers then none else correct))) := by
  refine renders.withSlide (renders.slide.emit rfl fun _ _ => ?_)
  cases omits : context.options.strip.answers with
  | false => rfl
  | true =>
    cases correct with
    | none => rfl
    | some correct => simp only [Piece.fragment, Piece.answerMarkup, omits, if_true]

theorem withAnswer (renders : draft.Renders context rendering) (answer : Answer W) :
    (draft.withSlide { draft.slide with answer := some answer }).Renders context
      (rendering.withSlide { rendering.slide with answer := some answer }) := by
  obtain ⟨pages, fragments, rfl⟩ := renders.exists_rendered
  exact renders.withSlide (renders.slide.of_script rfl)

variable [Weight W]

/-- The answer is parsed and checked against the choices. What is left out is only its value. -/
theorem readAnswer (renders : draft.Renders context rendering) (content : String) :
    InStep (Renders context) (draft.readAnswer context.setting content)
      (rendering.renderAnswer context content) := by
  have closed := renders.closeHint
  unfold Draft.readAnswer Rendering.renderAnswer
  generalize draft.withSlide (draft.slide.closeRegion .hint).closeChoices = draft at closed ⊢
  generalize rendering.withSlide
    ((rendering.slide.closeRegion context .hint).closeChoices context) = rendering at closed ⊢
  have written (answer : Answer W) (keyword : String) :=
    (closed.putAnswer draft.slide.id keyword answer.correct).withAnswer answer
  obtain ⟨pages, fragments, rfl⟩ := closed.exists_rendered
  refine .ite (fun _ => .ok (closed.warn _)) fun _ => ?_
  refine closed.bind_located fun answer => ?_
  dsimp only
  cases answer.kind with
  | none => exact .ok (written answer _)
  | some kind => exact .ite (fun _ => closed.fault _) fun _ => .ok (written answer _)

end Directives

section Blocks

variable [Weight W]

/-- A marker and the text that follows it. -/
theorem readChoice (renders : draft.Renders context rendering)
    (item : (Char × Bool) × List Inline) :
    InStep (Renders context) (draft.readChoice context.setting item)
      (rendering.renderChoice context item) :=
  (renders.readMarker item.1).bind fun marked => marked.readInside _ _

/-- A paragraph before the first marker, and then the choices. -/
theorem readParagraph (renders : draft.Renders context rendering) (content : String) :
    InStep (Renders context) (draft.readParagraph context.setting content)
      (rendering.renderParagraph context content) := by
  have choices {led : Draft W} {shown : Rendering W} (renders : led.Renders context shown) :
      InStep (Renders context)
        ((cutChoices (Inline.scan content)).2.foldlM (Draft.readChoice context.setting) led)
        ((cutChoices (Inline.scan content)).2.foldlM (Rendering.renderChoice context) shown) :=
    .foldlM (fun renders item => renders.readChoice item) _ renders
  exact .ite (fun _ => choices renders) fun _ => (renders.readInside _ _).bind choices

/-- A heading defines the identifier that it gives, or else its text unless that is taken. This
reads the table of references, which is the same for both. -/
theorem defineHeading (renders : draft.Renders context rendering) (content : String)
    (key : Option String) :
    InStep (fun made rendered => made.1.Renders context rendered.1 ∧ made.2 = rendered.2)
      (draft.defineHeading context.setting content key)
      (rendering.defineHeading context content key) := by
  unfold Draft.defineHeading Rendering.defineHeading
  cases key with
  | some key =>
    refine (renders.define _ _ _).bind fun {made rendered} holds => ?_
    exact .ok ⟨holds.1, congrArg (fun defined => some defined.id) holds.2⟩
  | none =>
    have known : rendering.file.references = draft.file.references := by
      obtain ⟨pages, fragments, rfl⟩ := renders.exists_rendered
      rfl
    dsimp only
    rw [known]
    refine .ite (fun _ => .ok ⟨renders, rfl⟩) fun _ => ?_
    refine (renders.define _ _ _).bind fun {made rendered} holds => ?_
    exact .ok ⟨holds.1, congrArg (fun defined => some defined.id) holds.2⟩

omit [Weight W] in
/-- Headings are counted alike. The number is the same, or it is one that is not shown. -/
theorem numberHeading (renders : draft.Renders context rendering) (level : Nat)
    (content : String) :
    (draft.numberHeading context.setting level content).1.Renders context
        (rendering.numberHeading context level content).1 ∧
      (rendering.numberHeading context level content).2.text context.options.strip =
        (draft.numberHeading context.setting level content).2.text context.options.strip := by
  obtain ⟨pages, fragments, rfl⟩ := renders.exists_rendered
  unfold Draft.numberHeading Rendering.numberHeading
  dsimp only
  rw [FileDraft.rendered_header]
  split
  · refine ⟨renders.withFile rfl rfl rfl, ?_⟩
    exact HeadingNumber.text_chapter _ _
  · split
    · refine ⟨renders.withFile rfl rfl rfl, ?_⟩
      exact HeadingNumber.text_section _ _ _
    · exact ⟨renders, rfl⟩

omit [Weight W] in
theorem hides (renders : draft.Renders context rendering) (level : Nat) (content : String) :
    rendering.hides context level content = draft.hides context.setting level content := by
  obtain ⟨pages, fragments, rfl⟩ := renders.exists_rendered
  rfl

/-- A heading may open a hidden slide. It is counted, then it defines its reference, and then its
text is written after a number that is shown or not. -/
theorem readHeading (renders : draft.Renders context rendering) (level : Nat) (content : String) :
    InStep (Renders context) (draft.readHeading context.setting level content)
      (rendering.renderHeading context level content) := by
  have titled {headed : Draft W} {shown : Rendering W} (renders : headed.Renders context shown)
      (title : String) (key : Option String) : InStep (Renders context)
      (Draft.defineHeading context.setting
          (headed.numberHeading context.setting level title).1 title key >>= fun made =>
        Draft.readInside context.setting
          (.heading level made.2 (headed.numberHeading context.setting level title).2)
          (TextStep.ofText title) made.1)
      (Rendering.defineHeading context (shown.numberHeading context level title).1 title key >>=
        fun made => Rendering.renderInside context
          (.heading level made.2 (shown.numberHeading context level title).2)
          (TextStep.ofText title) made.1) := by
    obtain ⟨counted, same⟩ := renders.numberHeading level title
    have opens (id : Option String) :
        (Element.heading level id (shown.numberHeading context level title).2).opening
            context.options.strip =
          (Element.heading level id (headed.numberHeading context.setting level title).2).opening
            context.options.strip := Element.opening_heading level id same
    refine (counted.defineHeading title key).bind fun {made rendered} holds => ?_
    rw [← holds.2]
    exact holds.1.readInsideAs _ _ (opens made.2) rfl _
  unfold Draft.readHeading Rendering.renderHeading
  dsimp only
  rw [renders.hides]
  generalize String.ofList (trim (cutHeading content.toList).1) = title
  generalize (cutHeading content.toList).2 = key
  have begun {slide : SlideDraft W} {current : SlideRendering W}
      (moved : slide.Renders context draft.file.references.Gives current) :
      SlideDraft.Renders context draft.file.references.Gives
        { slide with
          headings := slide.headings + 1
          header := if title.isEmpty then slide.header else slide.header.or (some title) }
        { current with
          headings := current.headings + 1
          header := if title.isEmpty then current.header else current.header.or (some title) } := by
    obtain ⟨fragments, shows⟩ := moved
    exact ⟨_, shows⟩
  refine .ite (fun _ => ?_) fun _ => ?_
  · refine (renders.located (renders.slide.openRegion .hidden)).bind fun opened => ?_
    exact titled (renders.withSlide (begun opened)) title key
  · exact titled (renders.withSlide (begun renders.slide)) title key

theorem readListItem (renders : draft.Renders context rendering) (ordered : Bool)
    (content : String) :
    InStep (Renders context) (draft.readListItem context.setting ordered content)
      (rendering.renderListItem context ordered content) :=
  (renders.withSlide (renders.slide.openList ordered)).readInside _ _

/-- A question to discuss closes the choices and marks the slide. -/
theorem readDiscuss (renders : draft.Renders context rendering) (content : String) :
    InStep (Renders context) (draft.readDiscuss context.setting content)
      (rendering.renderDiscuss context content) := by
  have closed := renders.slide.closeChoices
  unfold Draft.readDiscuss Rendering.renderDiscuss
  generalize rendering.slide.closeChoices context = current at closed ⊢
  obtain ⟨fragments, shows⟩ := closed
  have asked : SlideDraft.Renders context draft.file.references.Gives
    { draft.slide.closeChoices with discuss := true }
    { draft.slide.closeChoices.rendered fragments with discuss := true } := ⟨_, shows⟩
  exact (renders.withSlide asked).readInside _ _

omit [Weight W] in
/-- A quote opened or closed. -/
theorem withDepth (renders : draft.Renders context rendering) (change : Nat → Nat) :
    (draft.withSlide { draft.slide with depth := change draft.slide.depth }).Renders context
      (rendering.withSlide { rendering.slide with depth := change rendering.slide.depth }) := by
  obtain ⟨pages, fragments, rfl⟩ := renders.exists_rendered
  exact renders.withSlide (renders.slide.of_script rfl)

/-- **A block is rendered as it is read.** -/
theorem readContent (renders : draft.Renders context rendering) (block : Block) :
    InStep (Renders context) (draft.readContent context.setting block)
      (rendering.renderContent context block) := by
  cases block with
  | text content => exact renders.readParagraph content
  | heading level content => exact renders.readHeading level content
  | pluginDefinition name content =>
    obtain ⟨pages, fragments, rfl⟩ := renders.exists_rendered
    exact .ok (renders.withFile rfl rfl rfl)
  | pluginEmbed name arguments => exact renders.readEmbed name arguments
  | metadata name content =>
    refine .ok ?_
    split
    · exact renders
    · exact renders.put _ rfl
  | answer content => exact renders.readAnswer content
  | discuss content => exact renders.readDiscuss content
  | tags content => exact renders.readTags content
  | hint penalty => exact renders.readHint penalty
  | notes => exact renders.readNotes
  | extra => exact renders.readExtra
  | listItem ordered content => exact renders.readListItem ordered content
  | quoteStart => exact .ok ((renders.withDepth (· + 1)).put _ rfl)
  | quoteEnd => exact .ok ((renders.withDepth (· - 1)).put _ rfl)
  | _ => exact .ok (renders.put _ rfl)

omit [Weight W] in
/-- A list ends before any block that is not an item of a list. -/
theorem beforeBlock (renders : draft.Renders context rendering) (block : Block) :
    (draft.beforeBlock block).Renders context (rendering.beforeBlock context block) := by
  have closed := renders.withSlide renders.slide.closeList
  cases block with
  | listItem => exact renders
  | _ => exact closed

theorem readPart (renders : draft.Renders context rendering) (block : Block) :
    InStep (Renders context) (draft.readPart context.setting block)
      (rendering.renderPart context block) :=
  (renders.beforeBlock block).readContent block

end Blocks

section Ends

/-- The plugins that running text calls without an embed are the same for both. -/
theorem warnOfCalls (renders : draft.Renders context rendering) :
    (draft.warnOfCalls context.setting).Renders context (rendering.warnOfCalls context) := by
  have warned (plugins : List String) {draft : Draft W} {rendering : Rendering W}
      (renders : draft.Renders context rendering) :
      (plugins.foldl (fun draft plugin => Draft.warn context.setting draft (.missingEmbed plugin))
        draft).Renders context
        (plugins.foldl (fun rendering plugin =>
          Rendering.warn context rendering (.missingEmbed plugin)) rendering) := by
    induction plugins generalizing draft rendering with
    | nil => exact renders
    | cons plugin rest later => exact later (renders.warn _)
  obtain ⟨pages, fragments, rfl⟩ := renders.exists_rendered
  exact warned _ renders

variable [Weight W]

/-- **The question of a slide is the same, whatever is shown of it.** Its answer and its choices are
checked and recorded as they were read, not as they were put on the page. -/
theorem recordQuestion (renders : draft.Renders context rendering) :
    InStep (fun recorded rendered =>
        recorded.1.Renders context rendered.1 ∧ recorded.2 = rendered.2)
      (draft.recordQuestion context.setting) (rendering.recordQuestion context) := by
  obtain ⟨pages, fragments, rfl⟩ := renders.exists_rendered
  have asked : Draft.answer? (draft.slide.rendered fragments).draft = Draft.answer? draft.slide :=
    rfl
  unfold Draft.recordQuestion Rendering.recordQuestion
  dsimp only
  rw [asked]
  cases Draft.answer? draft.slide with
  | none => exact .ok ⟨renders, rfl⟩
  | some answer =>
    exact renders.bind_located fun _ => .ok ⟨renders.withFile rfl rfl rfl, rfl⟩

omit [Weight W] in
/-- The page of a slide that ends is that of its script. -/
theorem endSlide (renders : draft.Renders context rendering) (question : Option Nat)
    (endBlock : Nat) :
    Renders context
      { draft with file := { draft.file with
          occurrences := draft.file.occurrences ++
            Draft.occurrences context.setting draft.slide question
          scripts := draft.file.scripts ++ [draft.slide.script]
          slides := draft.file.slides ++ [Draft.finished draft.slide question endBlock]
          forward := draft.file.forward.closeSlide (draft.file.slides.length + 1) question } }
      { rendering with file := { rendering.file with
          occurrences := rendering.file.occurrences ++
            Draft.occurrences context.setting rendering.slide.draft question
          pages := rendering.file.pages ++ [rendering.slide.page context]
          slides := rendering.file.slides ++
            [Draft.finished rendering.slide.draft question endBlock]
          forward := rendering.file.forward.closeSlide (rendering.file.slides.length + 1)
            question } } := by
  obtain ⟨⟨pages, lengths, shows⟩, ⟨fragments, script⟩⟩ := renders
  refine ⟨⟨_, by simpa using lengths, fun label gives => ?_⟩, ⟨_, script⟩⟩
  rw [List.zipWith_append lengths, List.map_append, List.map_append,
    FileDraft.rendered_pages, shows label gives]
  have content := script label gives
  rw [Script.shown, List.map_map] at content
  refine congrArg (fun last => _ ++ [last]) (congrArg (SlidePage.mk _ _) ?_)
  rw [SlideRendering.page, SlidePage.ofScript, List.map_append, List.map_append,
    SlideDraft.rendered_fragments, content, List.map_map]
  rfl

/-- A slide ends: what is open is closed, its question is recorded, its page is complete, and links
from it may settle. -/
theorem closeSlide (renders : draft.Renders context rendering) (endBlock : Nat) :
    InStep (Renders context) (draft.closeSlide context.setting endBlock)
      (rendering.closeSlide context endBlock) := by
  have closed := renders.withSlide renders.slide.closeAll
  refine closed.recordQuestion.bind fun {recorded rendered} holds => ?_
  obtain ⟨recorded, question⟩ := recorded
  obtain ⟨rendered, _⟩ := rendered
  obtain ⟨renders, rfl⟩ := holds
  exact (renders.warnOfCalls.endSlide question endBlock).settle

/-- The next slide begins with nothing on it, and its number follows those that have ended. -/
theorem nextSlide (renders : draft.Renders context rendering) (endBlock : Nat) :
    InStep (Renders context) (draft.nextSlide context.setting endBlock)
      (rendering.nextSlide context endBlock) := by
  refine (renders.closeSlide endBlock).bind fun {closed shown} renders => ?_
  obtain ⟨pages, fragments, rfl⟩ := renders.exists_rendered
  exact .ok (renders.withSlide (.start context.fileNumber (closed.file.slides.length + 1) endBlock))

omit [Weight W] in
theorem noteContent (renders : draft.Renders context rendering) (block : Block) :
    (draft.noteContent block).Renders context (rendering.noteContent block) := by
  obtain ⟨pages, fragments, rfl⟩ := renders.exists_rendered
  exact renders.withSlide (renders.slide.of_script rfl)

/-- **A step of the renderer is a step of the reader.** -/
theorem readBlock (renders : draft.Renders context rendering) (place : Block × Nat) :
    InStep (Renders context) (draft.readBlock context.setting place)
      (rendering.renderBlock context place) := by
  obtain ⟨pages, fragments, rfl⟩ := renders.exists_rendered
  refine .ite (fun _ => ?_) fun _ => renders.readPart _
  refine .ite (fun _ => renders.nextSlide _) fun _ => ?_
  refine .ite (fun _ => ?_) fun _ => (renders.noteContent _).readPart _
  exact (renders.nextSlide _).bind fun next => (next.noteContent _).readPart _

/-- **The renderer keeps in step with the reader.** It fails where the file cannot be read, with the
same error, and else it ends with what is known of the file and with pages that show its scripts. -/
theorem readFile (context : RenderContext) :
    InStep (Renders context) (Draft.readFile context.setting : Except (CompileError W) (Draft W))
      (Rendering.renderFile context) := by
  have blocks : InStep (Renders context)
      (context.outline.blocks.zipIdx.foldlM (Draft.readBlock context.setting)
        (Draft.start context.fileNumber : Draft W))
      (context.outline.blocks.zipIdx.foldlM (Rendering.renderBlock context)
        (Rendering.start context.fileNumber)) :=
    .foldlM (fun renders place => renders.readBlock place) _ (start _)
  exact blocks.bind fun read => read.closeSlide _

end Ends

end Draft.Renders

section Rendered

variable [Weight W]

/-- What is presented of an analysis. Its page shows the scripts as the options have it. -/
def RenderContext.present (context : RenderContext) (analysis : Analysis W) : Rendered W where
  model := analysis.model
  document := (Document.ofAnalysis context.options context.highlight analysis).resolve
    analysis.model.label?
  heads := analysis.heads
  occurrences := analysis.occurrences
  warnings := analysis.warnings

/-- The labels of a file that is read are those of its references. -/
theorem Draft.gives_of_readFile {setting : Setting} {draft : Draft W}
    (read : readFile setting = .ok draft) :
    draft.file.references.Gives (Analysis.ofDraft setting draft.file).model.label? := by
  intro id reference found
  have table : draft.file.references = _ := (heard_of_readFile read).table
  have member := List.mem_of_find?_eq_some found
  rw [table] at member
  rw [escape_label_of_mem_tableAfter _ reference member]
  exact congrArg (Option.map Reference.label) found

/-- **Rendering is reading, and presenting what was read.** Whatever the options of presentation
are, a file is rendered as if it was read without them and its scripts were shown with them. -/
theorem render_eq (context : RenderContext) :
    (render context : Except (CompileError W) (Rendered W)) =
      (Analysis.ofSetting context.setting).map context.present := by
  have steps : InStep (Draft.Renders context)
    (Draft.readFile context.setting : Except (CompileError W) (Draft W))
    (Rendering.renderFile context) := Draft.Renders.readFile context
  unfold render Analysis.ofSetting
  generalize (Rendering.renderFile context : Except (CompileError W) (Rendering W)) = rendered
    at steps ⊢
  cases read : (Draft.readFile context.setting : Except (CompileError W) (Draft W)) with
  | error error =>
    rw [read] at steps
    cases steps
    rfl
  | ok draft =>
    rw [read] at steps
    cases steps with | ok renders => ?_
    have gives := Draft.gives_of_readFile read
    obtain ⟨⟨pages, -, shows⟩, -⟩ := renders
    dsimp only [bind, Except.bind]
    rw [FileDraft.rendered_slides, apply_ite (Except.map context.present)]
    refine if_congr Iff.rfl (congrArg Except.ok ?_) rfl
    rw [Rendering.finish, RenderContext.present, Rendered.mk.injEq]
    refine ⟨rfl, ?_, rfl, rfl, rfl⟩
    rw [Document.resolve, Document.resolve, Document.mk.injEq]
    exact ⟨rfl, shows _ gives, rfl⟩

end Rendered

namespace Compiled

variable [Weight W]

/-- What a source is read with that is compiled in an environment, under given options. -/
def setting (environment : Environment) (name : String) (fileNumber : Nat) (options : Options)
    (hide : Option Pattern) (source : List Char) (outline : Outline) : Setting where
  file := name
  fileNumber := fileNumber
  hide := hide
  multiplicity := options.features.multiplicity
  embedImages := options.embedImages
  plugins := environment.plugins
  images := environment.images
  source := source
  outline := outline

/-- The setting in which a source is read, given an environment. -/
def findSetting (environment : Environment) (fileNumber : Nat) (name : String) (source : Source) :
    Except (CompileError W) Setting := do
  let defaults := Defaults.parse (source.defaults.getD [])
  let fileHide ← Environment.readHide defaults.hide
  let outline ← (Outline.ofSource source.text).mapError CompileError.unread
  return setting environment name fileNumber (environment.options.withDefaults defaults)
    (fileHide.or environment.hide) source.text outline

/-- A source read, before anything of it is presented. -/
def read (environment : Environment) (fileNumber : Nat) (name : String) (source : Source) :
    Except (CompileError W) (Setting × Analysis W) := do
  let setting ← findSetting environment fileNumber name source
  return (setting, ← Analysis.ofSetting setting)

/-- What compiling yields, given what was read. -/
def present (environment : Environment) (fileNumber : Nat) (name : String) (source : Source)
    (reading : Setting × Analysis W) : Compiled W :=
  let (setting, analysis) := reading
  let defaults := Defaults.parse (source.defaults.getD [])
  let options := environment.options.withDefaults defaults
  { name := name, fileNumber := fileNumber, options := options, model := analysis.model
    heads := analysis.heads
    document := (Document.ofAnalysis options environment.highlight analysis).resolve
      analysis.model.label?
    record := recordOf source setting.outline analysis.model.slides
    occurrences := analysis.occurrences
    warnings := defaults.unknown.map (fun key => ⟨name, none, .unknownDefault key⟩) ++
      analysis.warnings }

/-- **Compiling is reading, and presenting what was read.** -/
theorem ofSource_eq (environment : Environment) (fileNumber : Nat) (name : String)
    (source : Source) :
    (ofSource environment fileNumber name source : Except (CompileError W) (Compiled W)) =
      (read environment fileNumber name source).map
        (present environment fileNumber name source) := by
  unfold ofSource findContext read findSetting
  dsimp only
  cases Environment.readHide (W := W) (Defaults.parse (source.defaults.getD [])).hide with
  | error error => rfl
  | ok fileHide =>
    cases (Outline.ofSource source.text).mapError (CompileError.unread (W := W)) with
    | error error => rfl
    | ok outline =>
      dsimp only [bind, Except.bind, pure, Except.pure]
      rw [render_eq]
      change Except.bind (Except.map _ (Analysis.ofSetting (setting environment name fileNumber
        (environment.options.withDefaults (Defaults.parse (source.defaults.getD [])))
        (fileHide.or environment.hide) source.text outline))) _ = _
      cases Analysis.ofSetting (W := W) (setting environment name fileNumber
        (environment.options.withDefaults (Defaults.parse (source.defaults.getD [])))
        (fileHide.or environment.hide) source.text outline) <;> rfl

variable {environment : Environment} {fileNumber : Nat} {name : String} {source : Source}
  {compiled : Compiled W} {setting : Setting} {analysis : Analysis W}

omit [Weight W] in
/-- A source is read with its outline. -/
theorem setting_of_findSetting
    (found : (findSetting environment fileNumber name source : Except (CompileError W) Setting) =
      .ok setting) :
    setting.file = name ∧ setting.fileNumber = fileNumber ∧ setting.source = source.text ∧
      Outline.ofSource setting.source = .ok setting.outline := by
  unfold findSetting at found
  simp only [bind_eq_ok, pure_eq_ok, mapError_eq_ok] at found
  obtain ⟨hide, _, outline, outlined, rfl⟩ := found
  exact ⟨rfl, rfl, rfl, outlined⟩

theorem read_eq_ok_iff :
    read environment fileNumber name source = .ok (setting, analysis) ↔
      (findSetting environment fileNumber name source : Except (CompileError W) Setting) =
          .ok setting ∧
        Analysis.ofSetting setting = .ok analysis := by
  unfold read
  simp only [bind_eq_ok, pure_eq_ok, Prod.mk.injEq]
  constructor
  · rintro ⟨_, found, _, analysed, rfl, rfl⟩
    exact ⟨found, analysed⟩
  · rintro ⟨found, analysed⟩
    exact ⟨_, found, _, analysed, rfl, rfl⟩

/-- What is read of a source is what a draft holds that was read to its end. -/
theorem exists_readFile_of_read
    (found : read environment fileNumber name source = .ok (setting, analysis)) :
    ∃ draft, Outline.ofSource setting.source = .ok setting.outline ∧
      Draft.readFile setting = .ok draft ∧ analysis = Analysis.ofDraft setting draft.file := by
  obtain ⟨found, analysed⟩ := read_eq_ok_iff.1 found
  obtain ⟨_, _, _, outlined⟩ := setting_of_findSetting found
  unfold Analysis.ofSetting at analysed
  rw [bind_eq_ok] at analysed
  obtain ⟨draft, reads, analysed⟩ := analysed
  dsimp only at analysed
  split at analysed
  · cases analysed
    exact ⟨draft, outlined, reads, rfl⟩
  · contradiction

/-- A file compiles if it can be read. -/
theorem ofSource_eq_ok_iff :
    ofSource environment fileNumber name source = .ok compiled ↔
      ∃ setting analysis, read environment fileNumber name source = .ok (setting, analysis) ∧
        compiled = present environment fileNumber name source (setting, analysis) := by
  rw [ofSource_eq]
  cases read (W := W) environment fileNumber name source with
  | error error => simp [Except.map]
  | ok reading =>
    obtain ⟨setting, analysis⟩ := reading
    simp [Except.map, eq_comm]

/-- A file that is seen to be read compiles. -/
theorem exists_compile_of_any {text : String} {holds : Setting × Analysis W → Bool}
    (seen : (read environment fileNumber name (Source.ofText text.toList)).toOption.any holds =
      true) :
    ∃ reading, compile environment fileNumber name text =
        .ok (present environment fileNumber name (Source.ofText text.toList) reading) ∧
      holds reading = true := by
  obtain ⟨⟨setting, analysis⟩, found, also⟩ := exists_of_any seen
  exact ⟨(setting, analysis), ofSource_eq_ok_iff.2 ⟨setting, analysis, found, rfl⟩, also⟩

/-- A file does not compile if it cannot be read. -/
theorem ofSource_eq_error_iff {error : CompileError W} :
    ofSource environment fileNumber name source = .error error ↔
      read environment fileNumber name source = .error error := by
  rw [ofSource_eq]
  cases read (W := W) environment fileNumber name source <;> simp [Except.map]

end Compiled

end LectureDeck
