import LectureDeck.Proofs.Page.Script
import LectureDeck.Proofs.Reference.Definitions
import LectureDeck.Proofs.Result
import LectureDeck.Render.File

/-!
# Rendering a slide as it is read

Reading knows no options of presentation, and rendering asks for them wherever markup is written.
A slide that is rendered has all that is known of it when it is read, and markup that shows its
script (`LectureDeck.SlideDraft.Renders`). This holds whatever is opened, written and closed on it.
For a file the pages of the slides that have ended are added (`LectureDeck.Draft.Renders`).

Labels may be pending in the markup that are in the script, and the other way round a label may be
written already that is in the script by name. Markup and script are therefore compared as they are
resolved by ways to label that give each reference its label.
-/

namespace LectureDeck

open LectureDeck.Text

/-- A way to label that gives each reference of a table its label. -/
def Reference.Table.Gives (table : Table) (label : String → Option String) : Prop :=
  ∀ id reference, table.get? id = some reference → label id = some (escape reference.label)

/-- A way to label that fits a table with one more definition fits the table. -/
theorem Reference.Table.Gives.of_define {table : Table} {label : String → Option String}
    {name counter : String} {kind : ReferenceKind} {slide : Nat}
    (gives : (table.define name kind counter slide).1.Gives label) : table.Gives label :=
  fun id reference found => gives id reference (get?_define found name counter kind slide)

/-- Markup that shows what a page has of a script, whichever of some ways to label is used. -/
def RenderContext.ShowsScript (context : RenderContext)
    (labels : (String → Option String) → Prop) (script : List Entry)
    (fragments : List Fragment) : Prop :=
  ∀ label, labels label → fragments.map (Fragment.resolve label) =
    (Script.shown context.options.strip script).map fun piece =>
      (piece.fragment context.options context.highlight).resolve label

variable {W : Type} {context : RenderContext}

section Slides

variable {labels : (String → Option String) → Prop} {slide : SlideDraft W}
  {rendering : SlideRendering W}

namespace SlideDraft

/-- A slide as it is rendered when it is read so far, given its markup. -/
@[simps]
def rendered (slide : SlideDraft W) (fragments : List Fragment) : SlideRendering W where
  number := slide.number
  id := slide.id
  firstBlock := slide.firstBlock
  header := slide.header
  headings := slide.headings
  hasContent := slide.hasContent
  depth := slide.depth
  regions := slide.regions
  opened := slide.opened
  isDiscarding := slide.isDiscarding
  notesSeen := slide.notesSeen
  hintCount := slide.hintCount
  hints := slide.hints
  list := slide.list
  choices := slide.choices
  choicesOpen := slide.choicesOpen
  answer := slide.answer
  tags := slide.tags
  embeds := slide.embeds
  calls := slide.calls
  images := slide.images
  discuss := slide.discuss
  fragments := fragments

/-- A slide is rendered as far as it is read: all but its script is known of it, and its markup
shows its script. -/
inductive Renders (context : RenderContext) (labels : (String → Option String) → Prop)
    (slide : SlideDraft W) : SlideRendering W → Prop
  | mk (fragments : List Fragment) (shows : context.ShowsScript labels slide.script fragments) :
      Renders context labels slide (slide.rendered fragments)

namespace Renders

/-- A slide of which nothing is read has no markup. -/
theorem start (fileNumber number firstBlock : Nat) :
    (start fileNumber number firstBlock : SlideDraft W).Renders context labels
      (.start fileNumber number firstBlock) := ⟨[], fun _ _ => rfl⟩

theorem id_eq (renders : slide.Renders context labels rendering) : rendering.id = slide.id := by
  obtain ⟨fragments, -⟩ := renders
  rfl

theorem number_eq (renders : slide.Renders context labels rendering) :
    rendering.number = slide.number := by
  obtain ⟨fragments, -⟩ := renders
  rfl

/-- What is known of a slide besides its script may change for both. -/
theorem of_script {fragments : List Fragment} {after : SlideDraft W}
    (renders : slide.Renders context labels (slide.rendered fragments))
    (same : after.script = slide.script) :
    after.Renders context labels (after.rendered fragments) := by
  generalize rendered : slide.rendered fragments = rendering at renders
  obtain ⟨written, shows⟩ := renders
  obtain rfl : fragments = written := congrArg SlideRendering.fragments rendered
  exact ⟨fragments, same ▸ shows⟩

/-- With fewer ways to label, markup shows the same script. -/
theorem mono {fewer : (String → Option String) → Prop}
    (renders : slide.Renders context labels rendering)
    (among : ∀ label, fewer label → labels label) :
    slide.Renders context fewer rendering := by
  obtain ⟨fragments, shows⟩ := renders
  exact ⟨_, fun label gives => shows label (among label gives)⟩

/-- A piece is written as a fragment that becomes what the piece becomes. Where the one is dropped,
the other is not shown. -/
theorem emit (renders : slide.Renders context labels rendering) {piece : Piece}
    {fragment : Fragment} (kept : context.options.strip.omitsPiece piece = false)
    (same : ∀ label, labels label → fragment.resolve label =
      (piece.fragment context.options context.highlight).resolve label) :
    (slide.write piece).Renders context labels (rendering.emit context fragment) := by
  obtain ⟨fragments, shows⟩ := renders
  have visible : Entry.isShown context.options.strip ⟨piece, slide.regions, slide.isDiscarding⟩ =
      !(slide.rendered fragments).isDropping context := by
    simp only [Entry.isShown, kept, SlideRendering.isDropping, rendered_isDiscarding,
      rendered_regions, Bool.not_or, Bool.not_false, Bool.and_true]
  unfold SlideRendering.emit
  split
  · rename_i dropped
    refine ⟨_, fun label gives => ?_⟩
    rw [write, Script.shown_concat, visible, if_neg (by simp [dropped])]
    exact shows label gives
  · rename_i stays
    refine ⟨_, fun label gives => ?_⟩
    rw [write, Script.shown_concat, visible, if_pos (by simpa using stays), List.map_append,
      List.map_append, rendered_fragments, shows label gives, List.map_singleton,
      List.map_singleton, same label gives]

/-- A piece is written and put, whatever the options make of it, unless they leave it out
everywhere. -/
theorem put (renders : slide.Renders context labels rendering) (piece : Piece)
    (kept : context.options.strip.omitsPiece piece = false) :
    (slide.write piece).Renders context labels (rendering.put context piece) :=
  renders.emit kept fun _ _ => rfl

/-- A piece that is left out everywhere is not written. -/
theorem skip (renders : slide.Renders context labels rendering) {piece : Piece}
    (omitted : context.options.strip.omitsPiece piece = true) :
    (slide.write piece).Renders context labels rendering := by
  obtain ⟨fragments, shows⟩ := renders
  have hidden : Entry.isShown context.options.strip ⟨piece, slide.regions, slide.isDiscarding⟩ =
      false := by simp [Entry.isShown, omitted]
  refine ⟨_, fun label gives => ?_⟩
  rw [write, Script.shown_concat, hidden, if_neg Bool.false_ne_true]
  exact shows label gives

/-- A region opens for both, or it is open already and both fail. Its opening is stamped with the
region itself, so that a renderer that leaves the region out drops the opening too. -/
theorem openRegion (renders : slide.Renders context labels rendering) (region : Region) :
    InStep (Renders context labels) (slide.openRegion region)
      (rendering.openRegion context region) := by
  obtain ⟨fragments, shows⟩ := renders
  have inside : (slide.enter region).Renders context labels
    ((slide.rendered fragments).enter region) := ⟨_, shows⟩
  exact .ite (fun _ => .error _) fun _ => .ok (inside.put _ rfl)

/-- The closing of the innermost region is written while the region is still open. -/
theorem closeInnermost (renders : slide.Renders context labels rendering) :
    slide.closeInnermost.Renders context labels (rendering.closeInnermost context) := by
  obtain ⟨fragments, shows⟩ := renders
  unfold SlideDraft.closeInnermost SlideRendering.closeInnermost
  rw [rendered_regions]
  cases slide.regions with
  | nil => exact ⟨_, shows⟩
  | cons region outer =>
    have written : Renders context labels (slide.write (.closing (slide.regionElement region)))
      ((slide.rendered fragments).put context (.closing (slide.regionElement region))) :=
      put ⟨_, shows⟩ _ rfl
    change Renders _ _ _ { (slide.rendered fragments).put context
      (.closing (slide.regionElement region)) with
      regions := outer }
    generalize (slide.rendered fragments).put context _ = after at written ⊢
    obtain ⟨fragments, shows⟩ := written
    exact ⟨_, shows⟩

/-- Regions are closed from the inside as often for the one as for the other. -/
theorem closeMany (count : Nat) (renders : slide.Renders context labels rendering) :
    (closeMany count slide).Renders context labels
      (SlideRendering.closeMany context count rendering) := by
  induction count generalizing slide rendering with
  | zero => exact renders
  | succ count later => exact later renders.closeInnermost

theorem closeRegion (renders : slide.Renders context labels rendering) (region : Region) :
    (slide.closeRegion region).Renders context labels (rendering.closeRegion context region) := by
  have closed := renders.closeMany ((slide.regions.takeWhile (· != region)).length + 1)
  obtain ⟨fragments, shows⟩ := renders
  unfold SlideDraft.closeRegion SlideRendering.closeRegion
  rw [rendered_regions]
  split
  · exact closed
  · exact ⟨_, shows⟩

/-- The list that is open, if any, is closed by both. -/
theorem closeList (renders : slide.Renders context labels rendering) :
    slide.closeList.Renders context labels (rendering.closeList context) := by
  obtain ⟨fragments, shows⟩ := renders
  unfold SlideDraft.closeList SlideRendering.closeList
  rw [rendered_list]
  cases slide.list with
  | none => exact ⟨_, shows⟩
  | some ordered =>
    have alone : Renders context labels { slide with list := none }
      { slide.rendered fragments with list := none } := ⟨_, shows⟩
    exact alone.put _ rfl

/-- A list of another kind is closed before a list is opened. -/
theorem openList (renders : slide.Renders context labels rendering) (ordered : Bool) :
    (slide.openList ordered).Renders context labels (rendering.openList context ordered) := by
  have closed := renders.closeList
  obtain ⟨fragments, shows⟩ := renders
  unfold SlideDraft.openList SlideRendering.openList
  rw [rendered_list]
  split
  · exact ⟨_, shows⟩
  · generalize (slide.rendered fragments).closeList context = after at closed ⊢
    obtain ⟨fragments, shows⟩ := closed
    have begun : Renders context labels { slide.closeList with list := some ordered }
      { slide.closeList.rendered fragments with list := some ordered } := ⟨_, shows⟩
    exact begun.put _ rfl

theorem closeChoices (renders : slide.Renders context labels rendering) :
    slide.closeChoices.Renders context labels (rendering.closeChoices context) := by
  obtain ⟨fragments, shows⟩ := renders
  unfold SlideDraft.closeChoices SlideRendering.closeChoices
  rw [rendered_choicesOpen]
  split
  · have ended : Renders context labels { slide with choicesOpen := false }
      { slide.rendered fragments with choicesOpen := false } := ⟨_, shows⟩
    exact ended.put _ rfl
  · exact ⟨_, shows⟩

theorem openChoices (renders : slide.Renders context labels rendering) :
    slide.openChoices.Renders context labels (rendering.openChoices context) := by
  obtain ⟨fragments, shows⟩ := renders
  unfold SlideDraft.openChoices SlideRendering.openChoices
  rw [rendered_choicesOpen]
  split
  · exact ⟨_, shows⟩
  · have begun : Renders context labels { slide with choicesOpen := true }
      { slide.rendered fragments with choicesOpen := true } := ⟨_, shows⟩
    exact begun.put _ rfl

/-- The hint and the choices closed. -/
theorem closeHint (renders : slide.Renders context labels rendering) :
    (slide.closeRegion .hint).closeChoices.Renders context labels
      ((rendering.closeRegion context .hint).closeChoices context) :=
  (renders.closeRegion .hint).closeChoices

/-- At the end of a slide nothing is discarded any more when its list, its choices and its regions
are closed, so that what closes them is rendered as far as it is shown. -/
theorem closeAll (renders : slide.Renders context labels rendering) :
    slide.closeAll.Renders context labels (rendering.closeAll context) := by
  have regions (names : List Region) {slide : SlideDraft W} {rendering : SlideRendering W}
      (renders : slide.Renders context labels rendering) :
      (names.foldl SlideDraft.closeRegion slide).Renders context labels
        (names.foldl (SlideRendering.closeRegion context) rendering) := by
    induction names generalizing slide rendering with
    | nil => exact renders
    | cons region rest later => exact later (renders.closeRegion region)
  obtain ⟨fragments, shows⟩ := renders
  have written : Renders context labels { slide with isDiscarding := false }
    { slide.rendered fragments with isDiscarding := false } := ⟨_, shows⟩
  exact regions _ written.closeList.closeChoices

end Renders

end SlideDraft

end Slides

section Files

/-- A file as it is rendered when it is read so far, given the pages of its slides. -/
@[simps]
def FileDraft.rendered (file : FileDraft W) (pages : List SlidePage) : FileRendering W where
  references := file.references
  forward := file.forward
  ledger := file.ledger
  questions := file.questions
  slides := file.slides
  pages := pages
  occurrences := file.occurrences
  warnings := file.warnings
  header := file.header
  sections := file.sections
  pluginUses := file.pluginUses
  pluginTexts := file.pluginTexts
  loaded := file.pluginUses.map PluginUse.name
  heads := file.heads

/-- A file is rendered as far as it is read: all but its scripts is known of it, and its pages show
the scripts of its slides. -/
inductive FileDraft.Renders (context : RenderContext) (file : FileDraft W) : FileRendering W → Prop
  | mk (pages : List SlidePage) (lengths : file.slides.length = file.scripts.length)
      (shows : ∀ label, file.references.Gives label → pages.map (SlidePage.resolve label) =
        (List.zipWith (SlidePage.ofScript context.options context.highlight context.fileNumber)
          file.slides file.scripts).map (SlidePage.resolve label)) :
      Renders context file (file.rendered pages)

/-- A file and its slide are rendered as far as they are read. -/
inductive Draft.Renders (context : RenderContext) (draft : Draft W) : Rendering W → Prop
  | mk {file : FileRendering W} {slide : SlideRendering W}
      (before : draft.file.Renders context file)
      (current : draft.slide.Renders context draft.file.references.Gives slide) :
      Renders context draft ⟨file, slide⟩

namespace Draft.Renders

variable {draft : Draft W} {rendering : Rendering W}

theorem slide (renders : draft.Renders context rendering) :
    draft.slide.Renders context draft.file.references.Gives rendering.slide := by
  obtain ⟨-, current⟩ := renders
  exact current

/-- All but the pages and the markup of the slide is as it is read. -/
theorem exists_rendered (renders : draft.Renders context rendering) : ∃ pages fragments,
    rendering = ⟨draft.file.rendered pages, draft.slide.rendered fragments⟩ := by
  obtain ⟨⟨pages, -, -⟩, ⟨fragments, -⟩⟩ := renders
  exact ⟨pages, fragments, rfl⟩

/-- What is known of a file besides its references, slides and scripts may change for both. -/
theorem withFile {pages : List SlidePage} {current : SlideRendering W} {file : FileDraft W}
    (renders : draft.Renders context ⟨draft.file.rendered pages, current⟩)
    (references : file.references = draft.file.references)
    (slides : file.slides = draft.file.slides) (scripts : file.scripts = draft.file.scripts) :
    Renders context { draft with file := file } ⟨file.rendered pages, current⟩ := by
  generalize rendered : draft.file.rendered pages = before at renders
  obtain ⟨⟨shown, lengths, shows⟩, slide⟩ := renders
  obtain rfl : pages = shown := congrArg FileRendering.pages rendered
  rw [← references] at slide
  rw [← slides, ← scripts] at lengths
  rw [← references, ← slides, ← scripts] at shows
  exact ⟨⟨pages, lengths, shows⟩, slide⟩

/-- A slide that is rendered as it is read takes the place of the current one. -/
theorem withSlide (renders : draft.Renders context rendering) {slide : SlideDraft W}
    {current : SlideRendering W}
    (moved : slide.Renders context draft.file.references.Gives current) :
    (draft.withSlide slide).Renders context (rendering.withSlide current) := by
  obtain ⟨before, -⟩ := renders
  exact ⟨before, moved⟩

/-- A piece is written and put on the current slide. -/
theorem put (renders : draft.Renders context rendering) (piece : Piece)
    (kept : context.options.strip.omitsPiece piece = false) :
    (draft.write piece).Renders context (rendering.put context piece) :=
  renders.withSlide (renders.slide.put piece kept)

/-- Both warn of the same finding at the same slide. -/
theorem warn (renders : draft.Renders context rendering) (finding : Finding) :
    (draft.warn context.setting finding).Renders context (rendering.warn context finding) := by
  obtain ⟨pages, fragments, rfl⟩ := renders.exists_rendered
  exact renders.withFile rfl rfl rfl

/-- Faults are at the same place. -/
theorem located {α β : Type} {relates : α → β → Prop} {result : Except SlideFault α}
    {other : Except SlideFault β} (renders : draft.Renders context rendering)
    (steps : InStep relates result other) :
    InStep relates (Draft.located context.setting draft result)
      (Rendering.located context rendering other) := by
  obtain ⟨pages, fragments, rfl⟩ := renders.exists_rendered
  cases steps with
  | ok holds => exact .ok holds
  | error fault => exact .error _

/-- Both go on from what is found on a slide, or they blame the same slide. -/
theorem bind_located {α β κ : Type} {relates : α → β → Prop} {found : Except SlideFault κ}
    {rest : κ → Except (CompileError W) α} {next : κ → Except (CompileError W) β}
    (renders : draft.Renders context rendering)
    (later : ∀ value, InStep relates (rest value) (next value)) :
    InStep relates (Draft.located context.setting draft found >>= rest)
      (Rendering.located context rendering found >>= next) := by
  refine (renders.located (.refl found)).bind fun {value _} same => ?_
  subst same
  exact later value

theorem fault {α β : Type} {relates : α → β → Prop} (renders : draft.Renders context rendering)
    (fault : SlideFault) :
    InStep relates (Draft.fault context.setting draft fault)
      (Rendering.fault context rendering fault) := renders.located (.error fault)

variable [Weight W]

/-- Nothing is read of a file, and nothing is rendered. -/
theorem start (fileNumber : Nat) :
    (start fileNumber : Draft W).Renders context (.start fileNumber) :=
  ⟨⟨[], rfl, fun _ _ => rfl⟩, .start fileNumber 1 0⟩

/-- Links settle for both alike, since both keep the same links and the same questions. -/
theorem settle (renders : draft.Renders context rendering) :
    InStep (Renders context) (draft.settle context.setting) (rendering.settle context) := by
  obtain ⟨pages, fragments, rfl⟩ := renders.exists_rendered
  unfold Draft.settle Rendering.settle
  rw [FileDraft.rendered_forward, FileDraft.rendered_ledger]
  cases draft.file.forward.settle draft.file.ledger with
  | error violation => exact .error _
  | ok settled => exact .ok (renders.withFile rfl rfl rfl)

/-- A definition becomes the same for both. Fewer ways to label give the new reference too. -/
theorem define (renders : draft.Renders context rendering) (id : String) (kind : ReferenceKind)
    (counter : String) :
    InStep (fun made rendered => made.1.Renders context rendered.1 ∧ made.2 = rendered.2)
      (draft.define context.setting id kind counter)
      (rendering.define context id kind counter) := by
  obtain ⟨⟨pages, lengths, shows⟩, ⟨fragments, script⟩⟩ := renders
  have noted (forward : ForwardLinks) :
      let references := (draft.file.references.define id kind counter draft.slide.number).1
      Renders context
        ⟨{ draft.file with references := references, forward := forward }, draft.slide⟩
        ⟨{ draft.file.rendered pages with references := references, forward := forward },
          draft.slide.rendered fragments⟩ :=
    ⟨⟨_, lengths, fun label gives => shows label gives.of_define⟩,
      ⟨_, fun label gives => script label gives.of_define⟩⟩
  refine .ite (fun _ => ?_) fun _ => .ok ⟨(noted _).warn _, rfl⟩
  exact (noted _).settle.bind fun settled => .ok ⟨settled, rfl⟩

end Draft.Renders

end Files

namespace Draft.Renders

variable {draft : Draft W} {rendering : Rendering W}

section Running

/-- What is written on a slide does not decide where a link leads. -/
theorem follow_write (draft : Draft W) (piece : Piece) (id : String) :
    (draft.write piece).follow id = (draft.follow id).write piece := by
  unfold follow
  rw [apply_ite (fun draft => write draft piece)]
  rfl

/-- A link to a name without a reference is kept by both until the name is defined. -/
theorem await (renders : draft.Renders context rendering) {id : String}
    (undefined : draft.file.references.contains id = false) :
    (draft.follow id).Renders context (rendering.await id) := by
  obtain ⟨pages, fragments, rfl⟩ := renders.exists_rendered
  rw [Draft.follow, if_neg (by simp [undefined])]
  exact renders.withFile rfl rfl rfl

/-- A label that is known is put as text, and one that is not is left pending. The script has it by
name in both cases; every way to label that knows the references so far makes the same of them. -/
theorem putLabel (renders : draft.Renders context rendering) (id : String) :
    ((draft.write (.label id)).follow id).Renders context (rendering.putLabel context id) := by
  have present : draft.file.references.contains id = (draft.file.references.get? id).isSome := by
    rw [Reference.Table.get?, List.isSome_find?]
    rfl
  obtain ⟨pages, fragments, rfl⟩ := renders.exists_rendered
  rw [follow_write, Rendering.putLabel, FileDraft.rendered_references]
  cases found : draft.file.references.get? id with
  | some reference =>
    have defined : draft.follow id = draft := by
      rw [follow, if_pos (by rw [present, found]; rfl)]
    rw [defined]
    refine renders.withSlide (renders.slide.emit rfl fun label gives => ?_)
    simp only [Piece.fragment, Fragment.resolve, gives id reference found, Option.getD_some]
  | none =>
    have awaits := renders.await (by rw [present, found]; rfl)
    exact awaits.withSlide (awaits.slide.emit rfl fun _ _ => rfl)

/-- A link that shows a label: its text, a space if there is a text, and the label. -/
theorem labelLink (renders : draft.Renders context rendering) (content id : String) :
    ((draft.writeAll ([.opening (.labelLink id), .text content] ++
        (if content.isEmpty then [] else [.text " "]) ++
        [.label id, .closing (.labelLink id)])).follow id).Renders context
      (Rendering.put context (Rendering.putLabel context
        (if content.isEmpty then
          (rendering.put context (.opening (.labelLink id))).put context (.text content)
        else ((rendering.put context (.opening (.labelLink id))).put context (.text content)).put
          context (.text " ")) id) (.closing (.labelLink id))) := by
  have titled := (renders.put (.opening (.labelLink id)) rfl).put (.text content) rfl
  split
  · exact follow_write _ _ id ▸ (titled.putLabel id).put (.closing (.labelLink id)) rfl
  · exact follow_write _ _ id ▸
      ((titled.put (.text " ") rfl).putLabel id).put (.closing (.labelLink id)) rfl

/-- A link leads forward for both, or its name has a reference already. -/
theorem follow (renders : draft.Renders context rendering) (id : String) :
    (draft.follow id).Renders context
      (if rendering.file.references.contains id then rendering else rendering.await id) := by
  obtain ⟨pages, fragments, rfl⟩ := renders.exists_rendered
  rw [FileDraft.rendered_references]
  cases known : draft.file.references.contains id with
  | false => exact renders.await known
  | true => rwa [Draft.follow, known]

theorem readLink (renders : draft.Renders context rendering) (content url : String)
    (title : Option String) :
    (draft.readLink content url title).Renders context
      (rendering.renderLink context content url title) := by
  unfold Draft.readLink
  split
  · rename_i tag address
    rw [Rendering.renderLink, address]
    exact renders.put _ rfl
  · rename_i key address
    rw [Rendering.renderLink, address]
    exact renders.labelLink content _
  · rename_i key notTag notLabel address
    rw [Rendering.renderLink, address]
    split
    · rename_i same
      exact absurd (List.cons.inj same).2 (notTag _)
    · rename_i same
      exact absurd (List.cons.inj same).2 (notLabel _)
    · rename_i same
      cases same
      exact (renders.follow _).put _ rfl
    · rename_i other
      exact absurd rfl (other _)
  · rename_i notTag notLabel notKey
    unfold Rendering.renderLink
    split
    · rename_i same
      exact absurd same (notTag _)
    · rename_i same
      exact absurd same (notLabel _)
    · rename_i same
      exact absurd same (notKey _)
    · exact renders.put _ rfl

/-- An image is shown with its bytes if images are embedded, and this is asked by both. -/
theorem readImage (renders : draft.Renders context rendering) (alternative path : String)
    (title : Option String) :
    (draft.readImage context.setting alternative path title).Renders context
      (rendering.renderImage context alternative path title) := by
  unfold Draft.readImage Rendering.renderImage
  split
  · exact renders.put _ rfl
  · obtain ⟨pages, fragments, rfl⟩ := renders.exists_rendered
    dsimp only
    rw [SlideDraft.rendered_images]
    generalize (if draft.slide.images.contains path then draft.slide.images
      else draft.slide.images ++ [path]) = images
    have listed : (draft.withSlide { draft.slide with images := images }).Renders context
        (Rendering.withSlide ⟨draft.file.rendered pages, draft.slide.rendered fragments⟩
          { draft.slide.rendered fragments with images := images }) :=
      renders.withSlide (renders.slide.of_script rfl)
    generalize draft.withSlide { draft.slide with images := images } = draft at listed ⊢
    generalize Rendering.withSlide _ { SlideDraft.rendered _ fragments with images := images } =
      rendering at listed ⊢
    by_cases embeds : context.options.embedImages = true
    · rw [if_pos embeds, if_pos (show context.setting.embedImages = true from embeds)]
      rw [listed.slide.id_eq, show context.setting.images = context.images from rfl,
        show context.setting.file = context.file from rfl]
      cases context.images context.file draft.slide.id path with
      | some bytes => exact listed.put (.image path (some bytes) alternative title) rfl
      | none => exact (listed.warn _).put (.image path none alternative title) rfl
    · rw [if_neg embeds, if_neg (show ¬ context.setting.embedImages = true from embeds)]
      exact listed.put _ rfl

theorem readKeyedLink (renders : draft.Renders context rendering) (content key : String)
    (image : Bool) :
    (draft.readKeyedLink context.setting content key image).Renders context
      (rendering.renderKeyedLink context content key image) := by
  unfold Draft.readKeyedLink Rendering.renderKeyedLink
  rw [show context.setting.outline = context.outline from rfl]
  cases context.outline.linkTargets.lookup (Reference.key key) with
  | none => exact renders.put _ rfl
  | some target =>
    cases image with
    | true => exact renders.readImage _ _ _
    | false => exact renders.readLink _ _ _

theorem readCall (renders : draft.Renders context rendering) (plugin action argument : String) :
    (draft.readCall plugin action argument).Renders context
      (rendering.renderCall context plugin action argument) := by
  obtain ⟨pages, fragments, rfl⟩ := renders.exists_rendered
  refine put (renders.withSlide ?_) _ rfl
  exact renders.slide.of_script rfl

variable [Weight W]

/-- The anchor of a definition has the identifier and the label that both tables gave it. -/
theorem readDefinition (renders : draft.Renders context rendering) (content key : String) :
    InStep (Renders context) (draft.readDefinition context.setting content key)
      (rendering.renderDefinition context content key) := by
  refine (renders.define _ _ _).bind fun {made rendered} holds => ?_
  obtain ⟨made, defined⟩ := made
  obtain ⟨rendering, _⟩ := rendered
  obtain ⟨renders, rfl⟩ := holds
  exact .ok (renders.put _ rfl)

/-- **A token is rendered as it is read.** -/
theorem readToken (renders : draft.Renders context rendering) (token : Inline) :
    InStep (Renders context) (draft.readToken context.setting token)
      (rendering.renderToken context token) := by
  cases token with
  | definition content key => exact renders.readDefinition content key
  | call plugin action argument => exact .ok (renders.readCall plugin action argument)
  | link content url title image =>
    cases image with
    | true => exact .ok (renders.readImage _ _ _)
    | false => exact .ok (renders.readLink _ _ _)
  | keyedLink content key image => exact .ok (renders.readKeyedLink _ _ _)
  | strong => exact .ok renders
  | emphasis => exact .ok renders
  | _ => exact .ok (renders.put _ rfl)

theorem readStep (renders : draft.Renders context rendering) (step : TextStep) :
    InStep (Renders context) (draft.readStep context.setting step)
      (rendering.renderStep context step) := by
  cases step with
  | token token => exact renders.readToken token
  | opening element => exact .ok (renders.put _ rfl)
  | closing element => exact .ok (renders.put _ rfl)

/-- Running text in an element that is shown like another one. -/
theorem readInsideAs (renders : draft.Renders context rendering) (element shown : Element)
    (opens : shown.opening context.options.strip = element.opening context.options.strip)
    (closes : shown.closing = element.closing) (steps : List TextStep) :
    InStep (Renders context) (Draft.readInside context.setting element steps draft)
      (Rendering.renderInside context shown steps rendering) := by
  have opening : (draft.write (.opening element)).Renders context
      (rendering.put context (.opening shown)) :=
    renders.withSlide (renders.slide.emit rfl fun _ _ => by simp only [Piece.fragment, opens])
  have inside : InStep (Renders context)
      (steps.foldlM (Draft.readStep context.setting) (draft.write (.opening element)))
      (steps.foldlM (Rendering.renderStep context) (rendering.put context (.opening shown))) :=
    .foldlM (fun renders step => renders.readStep step) steps opening
  exact inside.bind fun written => .ok (written.withSlide
    (written.slide.emit rfl fun _ _ => by simp only [Piece.fragment, closes]))

/-- Running text in an element, token by token. -/
theorem readInside (renders : draft.Renders context rendering) (element : Element)
    (steps : List TextStep) :
    InStep (Renders context) (Draft.readInside context.setting element steps draft)
      (Rendering.renderInside context element steps rendering) :=
  renders.readInsideAs element element rfl rfl steps

end Running

end Draft.Renders

end LectureDeck
