import LectureDeck.Proofs.Deck.Cues
import LectureDeck.Proofs.Question.Layout

/-!
# Choices and calls

What the blocks of a slide bring to it: the markers of its choices, in order, and the plugins that
its running text calls (`LectureDeck.Draft.brings_of_readContent`). Plugins are embedded by blocks
of their own (`LectureDeck.Draft.embedRead_of_readEmbed`), which bring neither.
-/

namespace LectureDeck

open LectureDeck.Text

/-- The plugin that a token of running text calls. -/
def Inline.called? : Inline → Option String
  | .call plugin _ _ => some plugin
  | _ => none

def TextStep.called? : TextStep → Option String
  | .token part => part.called?
  | _ => none

/-- The plugins that steps of running text call, in order. -/
def stepCalls (steps : List TextStep) : List String := steps.filterMap TextStep.called?

namespace Block

/-- The plugins that the running text of a block calls, in order. -/
def calls : Block → List String
  | .text content => stepCalls (TextStep.ofText content)
  | .heading _ content =>
    stepCalls (TextStep.ofText (String.ofList (trim (cutHeading content.toList).1)))
  | .discuss content => stepCalls (TextStep.ofText content)
  | .listItem _ content => stepCalls (TextStep.ofText content)
  | _ => []

/-- The markers of choices in a block, in order: the letter of each, and whether it is starred. -/
def markers : Block → List (Char × Bool)
  | .text content => (cutChoices (Inline.scan content)).2.map Prod.fst
  | _ => []

end Block

/-- The finding is of an embed, or of a call without one. -/
def Finding.isOfPlugin : Finding → Bool
  | .unknownPlugin _ | .missingEmbed _ => true
  | _ => false

/-- The piece is the markup of a plugin that is embedded. -/
def Piece.isPlugin : Piece → Bool
  | .plugin .. => true
  | _ => false

/-- The plugins that a script embeds, in order. -/
def Script.plugins (script : List Entry) : List Entry :=
  script.filter fun entry => entry.piece.isPlugin

/-- A piece that is written last is added if it is one of a plugin. -/
theorem Script.plugins_concat (script : List Entry) (entry : Entry) :
    plugins (script ++ [entry]) =
      plugins script ++ if entry.piece.isPlugin then [entry] else [] := by
  rw [plugins, List.filter_append, plugins]
  cases found : entry.piece.isPlugin <;> simp [found]

/-- What was found of plugins in a file. -/
def FileDraft.findings {W : Type} (file : FileDraft W) : List Warning :=
  file.warnings.filter fun warning => warning.finding.isOfPlugin

/-- What plugins have of a file: their uses, what they put at the head, and what was found of
them. -/
def FileDraft.plugins {W : Type} (file : FileDraft W) :
    List PluginUse × List String × List Warning := (file.pluginUses, file.heads, file.findings)

/-- What the templates of a plugin yield where it is embedded. The head and the top are for the
first use in a file, and a head that says nothing is left out. -/
structure Plugin.Yields (plugin : Plugin) (fields : TemplateFields) (isFirst : Bool)
    (heads : List String) (top body button : String) : Prop where
  atHead : if isFirst && !plugin.head.isEmpty then
      ∃ head, Template.fill plugin.head fields = .ok head ∧ heads = [head]
    else heads = []
  atTop : if isFirst then Template.fill plugin.top fields = .ok top else top = ""
  inBody : Template.fill plugin.body fields = .ok body
  onButton : Template.fill plugin.button fields = .ok button

namespace SlideDraft

variable {W : Type}

/-- What choices and plugins have of a slide. -/
def uttered (slide : SlideDraft W) : Choices × List String × List String × List Entry :=
  (slide.choices, slide.calls, slide.embeds, Script.plugins slide.script)

/-- A piece that is no plugin leaves choices, calls and embeds as they are. -/
theorem uttered_write (slide : SlideDraft W) {piece : Piece} (other : piece.isPlugin = false) :
    (slide.write piece).uttered = slide.uttered := by
  rw [uttered, write, Script.plugins_concat, other]
  simp [uttered]

/-- What opens and closes regions, lists and choices brings nothing to a slide. -/
theorem overlooksMarks_uttered : OverlooksMarks (W := W) uttered :=
  ⟨fun _ _ => uttered_write _ rfl, fun _ _ => uttered_write _ rfl, fun _ _ _ _ _ _ _ => rfl⟩

end SlideDraft

namespace Draft

variable {W : Type}

/-- What is brought to a draft: markers of choices, which are accepted, and calls of plugins. The
plugins that are embedded stay, with what they wrote. -/
structure Brings (setting : Setting) (markers : List (Char × Bool)) (calls : List String)
    (before after : Draft W) : Prop where
  choices : before.slide.choices.presentAll setting.multiplicity markers = .ok after.slide.choices
  calls : after.slide.calls = before.slide.calls ++ calls
  embeds : after.slide.embeds = before.slide.embeds
  written : Script.plugins after.slide.script = Script.plugins before.slide.script
  file : after.file.plugins = before.file.plugins

variable {setting : Setting} {draft middle after : Draft W} {markers others : List (Char × Bool)}
  {calls more : List String}

/-- Nothing is brought where a slide utters the same as before and the file has used the same
plugins. -/
theorem Brings.of_same (slide : after.slide.uttered = draft.slide.uttered)
    (file : after.file.plugins = draft.file.plugins) : Brings setting [] [] draft after := by
  simp only [SlideDraft.uttered, Prod.mk.injEq] at slide
  obtain ⟨choices, calls, embeds, written⟩ := slide
  exact ⟨congrArg Except.ok choices.symm, by rw [calls, List.append_nil], embeds, written, file⟩

/-- A draft that stays as it is has nothing brought to it. -/
theorem Brings.refl (draft : Draft W) : Brings setting [] [] draft draft := .of_same rfl rfl

/-- What is brought in two steps is brought in the order of the steps. -/
theorem Brings.trans (earlier : Brings setting markers calls draft middle)
    (later : Brings setting others more middle after) :
    Brings setting (markers ++ others) (calls ++ more) draft after where
  choices := by
    rw [Choices.presentAll_append, earlier.choices]
    exact later.choices
  calls := by rw [later.calls, earlier.calls, List.append_assoc]
  embeds := later.embeds.trans earlier.embeds
  written := later.written.trans earlier.written
  file := later.file.trans earlier.file

/-- Nothing is brought last. -/
theorem Brings.then (earlier : Brings setting markers calls draft middle)
    (later : Brings setting [] [] middle after) : Brings setting markers calls draft after := by
  have both := earlier.trans later
  rwa [List.append_nil, List.append_nil] at both

/-- Nothing was brought before. -/
theorem Brings.onto (later : Brings setting markers calls middle after)
    (earlier : Brings setting [] [] draft middle) : Brings setting markers calls draft after :=
  earlier.trans later

/-- A slide changed in what it does not utter brings nothing. -/
theorem brings_withSlide {slide : SlideDraft W} (same : slide.uttered = draft.slide.uttered) :
    Brings setting [] [] draft (draft.withSlide slide) := .of_same same rfl

/-- A piece that is no plugin brings nothing. -/
theorem brings_write (setting : Setting) (draft : Draft W) {piece : Piece}
    (other : piece.isPlugin = false) : Brings setting [] [] draft (draft.write piece) :=
  brings_withSlide (SlideDraft.uttered_write draft.slide other)

/-- A warning that is none of plugins brings nothing. -/
theorem brings_warn (draft : Draft W) {finding : Finding} (other : finding.isOfPlugin = false) :
    Brings setting [] [] draft (draft.warn setting finding) := by
  refine .of_same rfl ?_
  simp [FileDraft.plugins, FileDraft.findings, warn, other]

/-- A link that is followed brings nothing. -/
theorem brings_follow (setting : Setting) (draft : Draft W) (id : String) :
    Brings setting [] [] draft (draft.follow id) := by
  unfold Draft.follow
  split
  · exact .refl _
  · exact .of_same rfl rfl

/-- The end of a list brings nothing. -/
theorem brings_closeList (setting : Setting) (draft : Draft W) :
    Brings setting [] [] draft (draft.withSlide draft.slide.closeList) :=
  brings_withSlide (SlideDraft.overlooksMarks_uttered.closeList _)

/-- The end of choices brings nothing: those that were presented stay. -/
theorem brings_closeChoices (setting : Setting) (draft : Draft W) :
    Brings setting [] [] draft (draft.withSlide draft.slide.closeChoices) :=
  brings_withSlide (SlideDraft.overlooksMarks_uttered.closeChoices _)

/-- A hint ends before what is not part of it, and so do the choices. -/
theorem brings_closeHint (setting : Setting) (draft : Draft W) : Brings setting [] [] draft
    (draft.withSlide (draft.slide.closeRegion .hint).closeChoices) :=
  brings_withSlide ((SlideDraft.overlooksMarks_uttered.closeChoices _).trans
    (SlideDraft.overlooksMarks_uttered.closeRegion _ _))

/-- A region that opens brings nothing. -/
theorem brings_of_openRegion {region : Region} {slide : SlideDraft W}
    (opened : draft.slide.openRegion region = .ok slide) :
    Brings setting [] [] draft (draft.withSlide slide) :=
  brings_withSlide (SlideDraft.overlooksMarks_uttered.openRegion opened)

section Running

/-- Pieces of which none is a plugin bring nothing. -/
theorem brings_writeAll (setting : Setting) (draft : Draft W) {pieces : List Piece}
    (others : ∀ piece ∈ pieces, piece.isPlugin = false) :
    Brings setting [] [] draft (draft.writeAll pieces) := by
  induction pieces generalizing draft with
  | nil => exact .refl _
  | cons piece rest later =>
    obtain ⟨first, others⟩ := List.forall_mem_cons.1 others
    exact (brings_write setting draft first).then (later (draft.write piece) others)

/-- A link in the text brings nothing. -/
theorem brings_readLink (setting : Setting) (draft : Draft W) (content url : String)
    (title : Option String) : Brings setting [] [] draft (draft.readLink content url title) := by
  unfold readLink
  split
  · exact brings_write setting draft rfl
  · refine (brings_writeAll setting draft ?_).then (brings_follow setting _ _)
    split <;> simp [Piece.isPlugin]
  · exact (brings_follow setting draft _).then (brings_write setting _ rfl)
  · exact brings_write setting draft rfl

/-- An image brings nothing. It may be warned of, which is no warning of plugins. -/
theorem brings_readImage (draft : Draft W) (alternative path : String) (title : Option String) :
    Brings setting [] [] draft (draft.readImage setting alternative path title) := by
  unfold readImage
  split
  · exact brings_write setting draft rfl
  · have noted (images : List String) : Brings setting [] [] draft
        (draft.withSlide { draft.slide with images := images }) := brings_withSlide rfl
    dsimp only
    split
    · split
      · exact (noted _).then (brings_write setting _ rfl)
      · exact ((noted _).then (brings_warn _ rfl)).then (brings_write setting _ rfl)
    · exact (noted _).then (brings_write setting _ rfl)

/-- A link that is given by key brings nothing. -/
theorem brings_readKeyedLink (draft : Draft W) (content key : String) (image : Bool) :
    Brings setting [] [] draft (draft.readKeyedLink setting content key image) := by
  unfold readKeyedLink
  split
  · split
    · exact brings_readImage draft _ _ _
    · exact brings_readLink setting draft _ _ _
  · exact brings_write setting draft rfl

variable [Weight W]

/-- A definition brings nothing, whatever links it settles. -/
theorem brings_of_define {id counter : String} {kind : ReferenceKind}
    {result : Draft W × Reference.Defined}
    (made : draft.define setting id kind counter = .ok result) :
    Brings setting [] [] draft result.1 := by
  refine .of_same (congrArg _ (slide_of_define made)) ?_
  unfold define at made
  dsimp only at made
  split at made
  · obtain ⟨settled, settles, same⟩ := bind_eq_ok.1 made
    cases same
    unfold settle at settles
    split at settles
    · contradiction
    · cases settles
      rfl
  · cases made
    simp [FileDraft.plugins, FileDraft.findings, warn, Finding.isOfPlugin]

/-- Markup within a line brings the call of a plugin if it is one. -/
theorem brings_of_readToken {token : Inline} (read : draft.readToken setting token = .ok after) :
    Brings setting [] token.called?.toList draft after := by
  cases token with
  | definition content key =>
    change draft.readDefinition setting content key = .ok after at read
    unfold readDefinition at read
    simp only [bind_eq_ok, pure_eq_ok] at read
    obtain ⟨result, made, rfl⟩ := read
    exact (brings_of_define made).then (brings_write setting _ rfl)
  | call plugin action argument =>
    cases read
    have called : Brings setting [] [plugin] draft
        (draft.withSlide { draft.slide with calls := draft.slide.calls ++ [plugin] }) :=
      ⟨rfl, rfl, rfl, rfl, rfl⟩
    exact called.then (brings_write setting _ rfl)
  | link content url title image =>
    cases read
    cases image with
    | true => exact brings_readImage draft _ _ _
    | false => exact brings_readLink setting draft _ _ _
  | keyedLink content key image =>
    cases read
    exact brings_readKeyedLink draft content key image
  | strong => exact Except.ok.inj read ▸ .refl _
  | emphasis => exact Except.ok.inj read ▸ .refl _
  | _ =>
    cases read
    exact brings_write setting _ rfl

/-- A step of running text brings the call of its token. -/
theorem brings_of_readStep {step : TextStep} (read : draft.readStep setting step = .ok after) :
    Brings setting [] step.called?.toList draft after := by
  cases step with
  | token token => exact brings_of_readToken read
  | opening element => exact Except.ok.inj read ▸ brings_write setting _ rfl
  | closing element => exact Except.ok.inj read ▸ brings_write setting _ rfl

/-- Steps of running text bring their calls in order. -/
theorem brings_of_readSteps {steps : List TextStep}
    (read : steps.foldlM (readStep setting) draft = .ok after) :
    Brings setting [] (stepCalls steps) draft after := by
  induction steps generalizing draft with
  | nil => exact Except.ok.inj read ▸ .refl _
  | cons step rest later =>
    rw [List.foldlM_cons, bind_eq_ok] at read
    obtain ⟨middle, stepped, read⟩ := read
    have both := (brings_of_readStep stepped).trans (later read)
    rw [stepCalls, List.filterMap_cons]
    cases found : step.called? <;> simpa [found, stepCalls] using both

/-- Running text within an element brings its calls. -/
theorem brings_of_readInside {element : Element} {steps : List TextStep}
    (read : readInside setting element steps draft = .ok after) :
    Brings setting [] (stepCalls steps) draft after := by
  unfold readInside at read
  simp only [bind_eq_ok, pure_eq_ok] at read
  obtain ⟨middle, read, rfl⟩ := read
  have inside := (brings_of_readSteps read).onto (brings_write setting draft rfl)
  exact inside.then (brings_write setting _ rfl)

end Running

section Directives

/-- A marker that is read is accepted by the choices before it, and is all that it brings. -/
theorem brings_of_readMarker {marker : Char × Bool}
    (read : draft.readMarker setting marker = .ok after) :
    Brings setting [marker] [] draft after := by
  have presents {choices : Choices}
      (presented : draft.slide.choices.present setting.multiplicity marker.1 marker.2 =
        .ok choices) : Brings setting [marker] [] draft
          (draft.withSlide { draft.slide with choices := choices }.openChoices) := by
    have marked : Brings setting [marker] [] draft
        (draft.withSlide { draft.slide with choices := choices }) := by
      refine ⟨?_, (List.append_nil _).symm, rfl, rfl, rfl⟩
      rw [Choices.presentAll, List.foldlM_cons, presented]
      rfl
    exact marked.then (brings_withSlide (SlideDraft.overlooksMarks_uttered.openChoices _))
  unfold readMarker at read
  dsimp only at read
  split at read
  · split at read
    · simp only [bind_eq_ok, fault_ne_ok, false_and, exists_false] at read
    · simp only [bind_eq_ok, located_eq_ok, pure_eq_ok] at read
      obtain ⟨choices, presented, rfl⟩ := read
      exact presents presented
  · simp only [bind_eq_ok, located_eq_ok, pure_eq_ok] at read
    obtain ⟨choices, presented, rfl⟩ := read
    exact presents presented

/-- Tags bring nothing. -/
theorem brings_of_readTags {content : String} (read : draft.readTags setting content = .ok after) :
    Brings setting [] [] draft after := by
  have closed := brings_closeChoices setting draft
  unfold readTags at read
  dsimp only at read
  split at read
  · cases read
    exact closed.then (brings_warn _ rfl)
  · split at read
    · simp only [bind_eq_ok, fault_ne_ok, false_and, exists_false] at read
    · cases read
      split
      · exact closed.then (brings_withSlide rfl)
      · exact (closed.then (brings_write setting _ rfl)).then (brings_withSlide rfl)

/-- A hint brings neither choices nor calls. -/
theorem brings_of_readHint {penalty : Option Float}
    (read : draft.readHint setting penalty = .ok after) : Brings setting [] [] draft after := by
  have closed := brings_closeChoices setting draft
  unfold readHint at read
  dsimp only at read
  split at read
  · cases read
    exact closed.then (brings_withSlide rfl)
  · simp only [bind_eq_ok, located_eq_ok, pure_eq_ok] at read
    obtain ⟨slide, opened, rfl⟩ := read
    have ended := SlideDraft.overlooksMarks_uttered.closeRegion draft.slide.closeChoices .hint
    have same := SlideDraft.overlooksMarks_uttered.openRegion opened
    exact closed.then (brings_withSlide (same.trans ended))

/-- Notes bring nothing. -/
theorem brings_of_readNotes (read : draft.readNotes setting = .ok after) :
    Brings setting [] [] draft after := by
  have closed := brings_closeHint setting draft
  unfold readNotes at read
  dsimp only at read
  split at read
  · cases read
    exact closed.then (brings_withSlide rfl)
  · have seen : Brings setting [] [] draft (draft.withSlide
        { (draft.slide.closeRegion .hint).closeChoices with notesSeen := true }) :=
      closed.then (brings_withSlide rfl)
    split at read
    · cases read
      exact seen
    · simp only [bind_eq_ok, located_eq_ok, pure_eq_ok] at read
      obtain ⟨slide, opened, rfl⟩ := read
      exact seen.then (brings_of_openRegion opened)

/-- The beginning of extra material brings nothing. -/
theorem brings_of_readExtra (read : draft.readExtra setting = .ok after) :
    Brings setting [] [] draft after := by
  unfold readExtra at read
  simp only [bind_eq_ok, located_eq_ok, pure_eq_ok] at read
  obtain ⟨slide, opened, rfl⟩ := read
  exact (brings_closeHint setting draft).then (brings_of_openRegion opened)

end Directives

section Embeds

variable {name arguments template text : String} {fields : TemplateFields} {plugin : Plugin}

/-- What the templates of a plugin are filled with on a slide. -/
def templateFields (setting : Setting) (draft : Draft W) (name arguments : String) :
    TemplateFields := ⟨name, draft.slide.id, arguments, setting.fileNumber⟩

/-- The file did not use the plugin before. -/
def usesFirst (draft : Draft W) (name : String) : Bool :=
  !draft.file.pluginUses.any fun use => use.name == name

/-- How a plugin is embedded. One that the run knows is used, and its markup is written. For another
one there is a warning. -/
inductive EmbedRead (setting : Setting) (draft : Draft W) (name arguments : String)
    (after : Draft W) : Prop
  | known {plugin : Plugin} {heads : List String} {top body button : String}
      (found : setting.plugins.get? name = some plugin)
      (filled : plugin.Yields (draft.templateFields setting name arguments) (draft.usesFirst name)
        heads top body button)
      (slide : after.slide = { draft.slide with embeds := draft.slide.embeds ++ [name] }.write
        (.plugin draft.slide.id name top body button))
      (file : after.file = { draft.file with
        heads := draft.file.heads ++ heads
        pluginUses := draft.file.pluginUses ++ [⟨name, draft.slide.number, draft.usesFirst name,
          arguments, Template.fieldNames plugin.body⟩] })
  | unknown (missing : setting.plugins.get? name = none)
      (slide : after.slide = { draft.slide with embeds := draft.slide.embeds ++ [name] }.write
        (.missingPlugin name arguments))
      (file : after.file = (draft.warn setting (.unknownPlugin name)).file)

/-- A template that a draft fills in is filled in as it is by itself. Only errors are told with a
place. -/
theorem fill_eq_ok : draft.fill setting fields template = .ok text ↔
    Template.fill template fields = .ok text := by
  unfold fill
  cases Template.fill template fields <;> simp

/-- A plugin that is read writes one piece to its slide and adds its heads and its use to the file.
All are what its templates yield for the call. -/
theorem exists_of_readPlugin (read : draft.readPlugin setting name arguments plugin = .ok after) :
    ∃ heads top body button,
      plugin.Yields (draft.templateFields setting name arguments) (draft.usesFirst name) heads top
        body button ∧
      after.slide = draft.slide.write (.plugin draft.slide.id name top body button) ∧
      after.file = { draft.file with
        heads := draft.file.heads ++ heads
        pluginUses := draft.file.pluginUses ++ [⟨name, draft.slide.number, draft.usesFirst name,
          arguments, Template.fieldNames plugin.body⟩] } := by
  have first : draft.usesFirst name = !draft.file.pluginUses.any fun use => use.name == name := rfl
  unfold readPlugin at read
  dsimp only at read
  rw [← first] at read
  -- The head and the top are filled for the first use, and the head only if there is one.
  split at read
  · rename_i begins
    simp only [bind_eq_ok, map_eq_ok, fill_eq_ok] at read
    obtain ⟨heads, ⟨head, atHead, rfl⟩, read⟩ := read
    rw [if_pos (Bool.and_eq_true_iff.1 begins).1] at read
    simp only [bind_eq_ok, pure_eq_ok, fill_eq_ok] at read
    obtain ⟨top, atTop, body, inBody, button, onButton, rfl⟩ := read
    refine ⟨[head], top, body, button, ⟨?_, ?_, inBody, onButton⟩, rfl, rfl⟩
    · rw [if_pos begins]
      exact ⟨head, atHead, rfl⟩
    · rwa [if_pos (Bool.and_eq_true_iff.1 begins).1]
  · rename_i later
    obtain ⟨heads, none, read⟩ := bind_eq_ok.1 read
    cases none
    split at read
    · rename_i begins
      simp only [bind_eq_ok, pure_eq_ok, fill_eq_ok] at read
      obtain ⟨top, atTop, body, inBody, button, onButton, rfl⟩ := read
      exact ⟨[], top, body, button, ⟨if_neg later ▸ rfl, if_pos begins ▸ atTop, inBody, onButton⟩,
        rfl, rfl⟩
    · rename_i again
      simp only [bind_eq_ok, pure_eq_ok, fill_eq_ok] at read
      obtain ⟨top, none, body, inBody, button, onButton, rfl⟩ := read
      cases none
      exact ⟨[], "", body, button, ⟨if_neg later ▸ rfl, if_neg again ▸ rfl, inBody, onButton⟩, rfl,
        rfl⟩

/-- **A plugin is embedded once on a slide,** and used if the run knows it. -/
theorem embedRead_of_readEmbed (read : draft.readEmbed setting name arguments = .ok after) :
    name ∉ draft.slide.embeds ∧ EmbedRead setting draft name arguments after := by
  unfold readEmbed at read
  dsimp only at read
  split at read
  · simp only [bind_eq_ok, fault_ne_ok, false_and, exists_false] at read
  · rename_i new
    refine ⟨by simpa using new, ?_⟩
    split at read
    · obtain ⟨heads, top, body, button, filled, slide, file⟩ := exists_of_readPlugin read
      exact .known ‹_› filled slide file
    · cases read
      exact .unknown ‹_› rfl rfl

/-- An embed presents no choices. -/
theorem EmbedRead.choices (read : EmbedRead setting draft name arguments after) :
    after.slide.choices = draft.slide.choices := by
  cases read with
  | known _ _ slide => rw [slide, SlideDraft.write]
  | unknown _ slide => rw [slide, SlideDraft.write]

end Embeds

variable [Weight W]

section Text

/-- An answer brings neither markers nor calls. -/
theorem brings_of_readAnswer {content : String}
    (read : draft.readAnswer setting content = .ok after) : Brings setting [] [] draft after := by
  have closed := brings_closeHint setting draft
  rcases cases_of_readAnswer rfl read with ⟨answer, -, rfl⟩ | ⟨-, answer, -, rfl⟩
  · exact closed.then (brings_warn _ rfl)
  · exact (closed.then (brings_write setting _ rfl)).then (brings_withSlide rfl)

/-- An item of a list of choices brings its marker and the calls of its text. -/
theorem brings_of_readChoice {item : (Char × Bool) × List Inline}
    (read : draft.readChoice setting item = .ok after) :
    Brings setting [item.1] (stepCalls (item.2.flatMap TextStep.ofToken)) draft after := by
  unfold readChoice at read
  rw [bind_eq_ok] at read
  obtain ⟨middle, marked, read⟩ := read
  exact (brings_of_readMarker marked).trans (brings_of_readInside read)

/-- Items one after another bring their markers and their calls, each in order. -/
theorem brings_of_readChoices {items : List ((Char × Bool) × List Inline)}
    (read : items.foldlM (readChoice setting) draft = .ok after) :
    Brings setting (items.map Prod.fst)
      (items.flatMap fun item => stepCalls (item.2.flatMap TextStep.ofToken)) draft after := by
  induction items generalizing draft with
  | nil => exact Except.ok.inj read ▸ .refl _
  | cons item rest later =>
    rw [List.foldlM_cons, bind_eq_ok] at read
    obtain ⟨middle, chosen, read⟩ := read
    exact (brings_of_readChoice chosen).trans (later read)

/-- A paragraph brings the markers of its choices, and the calls of its text before them and in
them. -/
theorem brings_of_readParagraph {content : String}
    (read : draft.readParagraph setting content = .ok after) :
    Brings setting (Block.markers (.text content)) (Block.calls (.text content)) draft after := by
  have whole :=
    TextStep.filterMap_cutChoices TextStep.called? (fun _ _ => rfl) (Inline.scan content)
  rw [Block.calls, stepCalls, TextStep.ofText_eq, ← whole, Block.markers]
  unfold readParagraph at read
  dsimp only at read
  split at read
  -- Without text before the choices there is no paragraph.
  · rename_i bare
    rw [Bool.and_eq_true, List.isEmpty_iff] at bare
    rw [bind_eq_ok] at read
    obtain ⟨middle, same, read⟩ := read
    cases same
    rw [bare.1]
    exact brings_of_readChoices read
  · rw [bind_eq_ok] at read
    obtain ⟨middle, lead, read⟩ := read
    exact (brings_of_readInside lead).trans (brings_of_readChoices read)

/-- The label of a heading brings nothing. -/
theorem brings_of_defineHeading {content : String} {key : Option String}
    {result : Draft W × Option String}
    (defined : draft.defineHeading setting content key = .ok result) :
    Brings setting [] [] draft result.1 := by
  unfold defineHeading at defined
  dsimp only at defined
  split at defined
  · obtain ⟨found, made, same⟩ := bind_eq_ok.1 defined
    cases same
    exact brings_of_define made
  · split at defined
    · cases defined
      exact .refl _
    · obtain ⟨found, made, same⟩ := bind_eq_ok.1 defined
      cases same
      exact brings_of_define made

omit [Weight W] in
/-- The number of a heading brings nothing. -/
theorem brings_numberHeading (draft : Draft W) (level : Nat) (content : String) :
    Brings setting [] [] draft (draft.numberHeading setting level content).1 := by
  refine .of_same (congrArg _ (slide_numberHeading setting draft level content)) ?_
  unfold numberHeading
  dsimp only
  split
  · rfl
  · split <;> rfl

/-- A heading brings the calls of its title. -/
theorem brings_of_readHeading {level : Nat} {content : String}
    (read : draft.readHeading setting level content = .ok after) :
    Brings setting [] (Block.calls (.heading level content)) draft after := by
  have headed {slide : SlideDraft W} {text : String} {key : Option String}
      {header : Option String} (before : slide.uttered = draft.slide.uttered)
      (read : (do
        let headed := draft.withSlide
          { slide with headings := slide.headings + 1, header := header }
        let numbered := numberHeading setting headed level text
        let defined ← defineHeading setting numbered.1 text key
        readInside setting (.heading level defined.2 numbered.2) (TextStep.ofText text) defined.1) =
          .ok after) :
      Brings setting [] (stepCalls (TextStep.ofText text)) draft after := by
    obtain ⟨result, defined, read⟩ := bind_eq_ok.1 read
    have begun : Brings setting [] [] draft (draft.withSlide
        { slide with headings := slide.headings + 1, header := header }) :=
      brings_withSlide before
    have numbered := (begun.then (brings_numberHeading _ level text)).then
      (brings_of_defineHeading defined)
    exact (brings_of_readInside read).onto numbered
  unfold readHeading at read
  dsimp only at read
  split at read
  · obtain ⟨slide, opened, read⟩ := bind_eq_ok.1 read
    exact headed (SlideDraft.overlooksMarks_uttered.openRegion (located_eq_ok.1 opened)) read
  · exact headed rfl read

/-- An item of a list brings the calls of its text. -/
theorem brings_of_readListItem {ordered : Bool} {content : String}
    (read : draft.readListItem setting ordered content = .ok after) :
    Brings setting [] (stepCalls (TextStep.ofText content)) draft after :=
  (brings_of_readInside read).onto
    (brings_withSlide (SlideDraft.overlooksMarks_uttered.openList draft.slide ordered))

/-- A discussion brings the calls of its text. -/
theorem brings_of_readDiscuss {content : String}
    (read : draft.readDiscuss setting content = .ok after) :
    Brings setting [] (stepCalls (TextStep.ofText content)) draft after :=
  (brings_of_readInside read).onto
    (brings_withSlide (SlideDraft.overlooksMarks_uttered.closeChoices draft.slide))

end Text

/-- **A block that embeds no plugin brings the choices and the calls in it.** -/
theorem brings_of_readContent {block : Block} (plain : block.embedded? = none)
    (read : draft.readContent setting block = .ok after) :
    Brings setting block.markers block.calls draft after := by
  cases block with
  | answer content => exact brings_of_readAnswer read
  | text content => exact brings_of_readParagraph read
  | heading level content => exact brings_of_readHeading read
  | pluginEmbed name arguments => contradiction
  | discuss content => exact brings_of_readDiscuss read
  | tags content => exact brings_of_readTags read
  | hint penalty => exact brings_of_readHint read
  | notes => exact brings_of_readNotes read
  | extra => exact brings_of_readExtra read
  | listItem ordered content => exact brings_of_readListItem read
  | pluginDefinition name content =>
    cases read
    exact .of_same rfl rfl
  | metadata name content =>
    cases read
    split
    · exact .refl _
    · exact brings_write setting draft rfl
  | quoteStart =>
    cases read
    have deeper : Brings setting [] [] draft
        (draft.withSlide { draft.slide with depth := draft.slide.depth + 1 }) :=
      brings_withSlide rfl
    exact deeper.then (brings_write setting _ rfl)
  | quoteEnd =>
    cases read
    have outer : Brings setting [] [] draft
        (draft.withSlide { draft.slide with depth := draft.slide.depth - 1 }) :=
      brings_withSlide rfl
    exact outer.then (brings_write setting _ rfl)
  | _ =>
    cases read
    exact brings_write setting draft rfl

end Draft

end LectureDeck
