import LectureDeck.Proofs.Deck.Mentions
import LectureDeck.Proofs.Deck.Regions
import LectureDeck.Proofs.Deck.SlideBlocks

/-!
# What is left to be filled in

Two kinds of pieces are written before it is known what they stand for: the label of a reference,
and the answer, whose question is recorded at the end of the slide. A slide writes just the labels
that its blocks ask for, and its first answer (`LectureDeck.SlideDraft.Tells`,
`LectureDeck.Draft.kept_tells`).
-/

namespace LectureDeck

open LectureDeck.Text

/-- What a piece stands for that is not known when it is written. -/
inductive Cue where
  | label (id : String)
  | answer (slideId keyword : String) (correct : Option CorrectAnswer)

def Cue.label? : Cue → Option String
  | label id => some id
  | answer .. => none

def Cue.answer? : Cue → Option (String × String × Option CorrectAnswer)
  | label _ => none
  | answer slideId keyword correct => some (slideId, keyword, correct)

def Piece.cue? : Piece → Option Cue
  | label id => some (.label id)
  | answer slideId keyword correct => some (.answer slideId keyword correct)
  | _ => none

namespace Script

/-- What the pieces of a script stand for that was not known when they were written. -/
def cues (script : List Entry) : List Cue := (pieces script).filterMap Piece.cue?

/-- The references whose labels a script asks for, in order. -/
def labels (script : List Entry) : List String := (cues script).filterMap Cue.label?

/-- The answers that a script shows. -/
def answers (script : List Entry) : List (String × String × Option CorrectAnswer) :=
  (cues script).filterMap Cue.answer?

/-- A piece that is written last adds its cue, if it has one, after those that a script has. -/
theorem cues_concat (script : List Entry) (entry : Entry) :
    cues (script ++ [entry]) = cues script ++ entry.piece.cue?.toList := by
  rw [cues, pieces_concat, List.filterMap_append, cues]
  cases found : entry.piece.cue? <;> simp [found]

/-- The answers of a script are those of its pieces that show an answer. -/
theorem mem_answers_iff {script : List Entry} {slideId keyword : String}
    {correct : Option CorrectAnswer} : (slideId, keyword, correct) ∈ answers script ↔
      .answer slideId keyword correct ∈ pieces script := by
  constructor
  · intro member
    obtain ⟨cue, member, same⟩ := List.mem_filterMap.1 member
    obtain ⟨piece, member, written⟩ := List.mem_filterMap.1 member
    cases cue <;> cases same
    cases piece <;> cases written
    exact member
  · intro member
    exact List.mem_filterMap.2
      ⟨.answer slideId keyword correct, List.mem_filterMap.2 ⟨_, member, rfl⟩, rfl⟩

end Script

/-- The reference whose label a link shows, if its address asks for one. -/
def Reference.labelOf? (content url : String) : Option String :=
  match url.toList with
  | '#' :: ':' :: key => some (Reference.idOf (linkKey key content))
  | _ => none

/-- The reference whose label a token shows, given the targets of links by key. -/
def Inline.label? (targets : List (String × LinkTarget)) : Inline → Option String
  | .link content url _ false => Reference.labelOf? content url
  | .keyedLink content key false =>
    (targets.lookup (Reference.key key)).bind fun target => Reference.labelOf? content target.url
  | _ => none

def TextStep.label? (targets : List (String × LinkTarget)) : TextStep → Option String
  | .token part => part.label? targets
  | _ => none

/-- The references whose labels steps of running text show. -/
def stepLabels (targets : List (String × LinkTarget)) (steps : List TextStep) : List String :=
  steps.filterMap (TextStep.label? targets)

namespace Block

/-- The references whose labels a block shows. -/
def labels (targets : List (String × LinkTarget)) : Block → List String
  | .text content => stepLabels targets (TextStep.ofText content)
  | .heading _ content =>
    stepLabels targets (TextStep.ofText (String.ofList (trim (cutHeading content.toList).1)))
  | .discuss content => stepLabels targets (TextStep.ofText content)
  | .listItem _ content => stepLabels targets (TextStep.ofText content)
  | _ => []

/-- A block presents a choice. A restatement of the question is none. -/
def presents : Block → Bool
  | .text content =>
    (cutChoices (Inline.scan content)).2.any fun item => item.1.1 != Choices.restatement
  | _ => false

def isAnswer : Block → Bool
  | .answer _ => true
  | _ => false

/-- The plugin that a block embeds. -/
def embedded? : Block → Option String
  | .pluginEmbed name _ => some name
  | _ => none

end Block

/-- The answer of a slide is what its first answer gives, if it has one. -/
inductive FirstAnswer {W : Type} [Weight W] (plugins : Plugins) :
    List Block → Option (Answer W) → Prop
  | none {blocks : List Block} (unanswered : blocks.any Block.isAnswer = false) :
      FirstAnswer plugins blocks none
  | some {before after : List Block} {content : String} {answer : Answer W}
      (first : before.any Block.isAnswer = false)
      (parsed : Answer.parse content (before.any Block.presents) plugins = .ok answer) :
      FirstAnswer plugins (before ++ .answer content :: after) (some answer)

namespace SlideDraft

variable {W : Type}

/-- What is added to a slide: labels, and perhaps choices. Its answer stays, and so do the plugins
that it embeds. -/
structure Adds (labels : List String) (presents : Bool) (before after : SlideDraft W) : Prop where
  id : after.id = before.id
  answer : after.answer = before.answer
  embeds : after.embeds = before.embeds
  cues : Script.cues after.script = Script.cues before.script ++ labels.map Cue.label
  choices : 0 < after.choices.count ↔ 0 < before.choices.count ∨ presents = true

variable {labels more : List String} {presents others : Bool} {slide middle last : SlideDraft W}

/-- Nothing is added where a slide keeps its identifier, answer, embeds, choices and script. -/
theorem Adds.of_same (id : last.id = slide.id) (answer : last.answer = slide.answer)
    (embeds : last.embeds = slide.embeds) (choices : last.choices = slide.choices)
    (script : last.script = slide.script) : Adds [] false slide last :=
  ⟨id, answer, embeds, by simp [script], by simp [choices]⟩

/-- A slide that stays as it is has nothing added to it. -/
theorem Adds.refl (slide : SlideDraft W) : Adds [] false slide slide := .of_same rfl rfl rfl rfl rfl

/-- What is added in one step and then in another is added in both, in this order. -/
theorem Adds.trans (earlier : Adds labels presents slide middle)
    (later : Adds more others middle last) :
    Adds (labels ++ more) (presents || others) slide last where
  id := later.id.trans earlier.id
  answer := later.answer.trans earlier.answer
  embeds := later.embeds.trans earlier.embeds
  cues := by rw [later.cues, earlier.cues, List.map_append, List.append_assoc]
  choices := by rw [later.choices, earlier.choices, Bool.or_eq_true, or_assoc]

/-- Nothing is added last all. -/
theorem Adds.then (earlier : Adds labels presents slide middle)
    (later : Adds [] false middle last) : Adds labels presents slide last := by
  have both := earlier.trans later
  rwa [List.append_nil, Bool.or_false] at both

/-- Nothing was added before. -/
theorem Adds.after (later : Adds labels presents middle last)
    (earlier : Adds [] false slide middle) : Adds labels presents slide last :=
  earlier.trans later

/-- A slide apart from what is open on it, and the cues in its script. -/
def told (slide : SlideDraft W) : SlideDraft W × List Cue :=
  (slide.bare, Script.cues slide.script)

/-- Writing a piece without a cue tells nothing new. -/
theorem told_write (slide : SlideDraft W) {piece : Piece} (silent : piece.cue? = none) :
    (slide.write piece).told = slide.told := by
  rw [told, write, Script.cues_concat, silent]
  exact congrArg (Prod.mk _) (List.append_nil _)

/-- The marks of regions, lists and choices are no cues, so that what opens and closes them tells
nothing new. -/
theorem overlooksMarks_told : OverlooksMarks (W := W) told :=
  ⟨fun _ _ => told_write _ rfl, fun _ _ => told_write _ rfl, fun _ _ _ _ _ _ _ => rfl⟩

/-- Nothing is added to a slide that tells the same as before. -/
theorem Adds.of_told (same : last.told = slide.told) : Adds [] false slide last := by
  obtain ⟨bare, cues⟩ := Prod.mk.inj same
  refine ⟨(SamePlace.of_bare bare).id, answer_of_bare bare, embeds_of_bare bare, ?_, ?_⟩
  · rw [cues, List.map_nil, List.append_nil]
  · simp [choices_of_bare bare]

/-- A piece without a cue adds nothing. -/
theorem adds_write (slide : SlideDraft W) {piece : Piece} (silent : piece.cue? = none) :
    Adds [] false slide (slide.write piece) := .of_told (told_write slide silent)

/-- A label that is asked for is the only thing that is added with it. -/
theorem adds_label (slide : SlideDraft W) (id : String) :
    Adds [id] false slide (slide.write (.label id)) where
  id := rfl
  answer := rfl
  embeds := rfl
  cues := Script.cues_concat slide.script _
  choices := by simp [write]

/-- Closing a region adds nothing. -/
theorem adds_closeRegion (slide : SlideDraft W) (region : Region) :
    Adds [] false slide (slide.closeRegion region) :=
  .of_told (overlooksMarks_told.closeRegion slide region)

/-- Opening a region adds nothing, if it can be opened. -/
theorem adds_openRegion {region : Region} (opened : slide.openRegion region = .ok last) :
    Adds [] false slide last := .of_told (overlooksMarks_told.openRegion opened)

/-- Closing a list adds nothing. -/
theorem adds_closeList (slide : SlideDraft W) : Adds [] false slide slide.closeList :=
  .of_told (overlooksMarks_told.closeList slide)

/-- Opening a list adds nothing. -/
theorem adds_openList (slide : SlideDraft W) (ordered : Bool) :
    Adds [] false slide (slide.openList ordered) :=
  .of_told (overlooksMarks_told.openList slide ordered)

/-- Closing choices adds nothing: those that were presented are counted as before. -/
theorem adds_closeChoices (slide : SlideDraft W) : Adds [] false slide slide.closeChoices :=
  .of_told (overlooksMarks_told.closeChoices slide)

/-- Opening choices adds nothing, for none is presented with it. -/
theorem adds_openChoices (slide : SlideDraft W) : Adds [] false slide slide.openChoices :=
  .of_told (overlooksMarks_told.openChoices slide)

/-- A hint ends before what is not part of it, and so do the choices. -/
theorem adds_closeHint (slide : SlideDraft W) :
    Adds [] false slide (slide.closeRegion .hint).closeChoices :=
  (adds_closeRegion slide .hint).then (adds_closeChoices _)

/-- What is closed at the end of a slide adds nothing. -/
theorem adds_closeAll (slide : SlideDraft W) : Adds [] false slide slide.closeAll :=
  .of_told (overlooksMarks_told.closeAll slide)

end SlideDraft

namespace Choices

/-- A marker that is accepted presents a choice, unless it restates the question. -/
theorem count_of_present {multiplicity alternative : Bool} {choices after : Choices} {found : Char}
    (presented : choices.present multiplicity found alternative = .ok after) :
    0 < after.count ↔ 0 < choices.count ∨ (found != restatement) = true := by
  unfold present at presented
  dsimp only at presented
  by_cases restates : found = restatement
  · rw [if_pos restates] at presented
    split at presented
    · contradiction
    · cases presented
      simp [restates]
  · rw [if_neg restates] at presented
    split at presented
    · cases presented
      simp [restates]
    · split at presented
      · rename_i again
        split at presented
        · cases presented
          simp only [Bool.and_eq_true, decide_eq_true_eq] at again
          simp [again.1.2]
        · contradiction
      · contradiction

end Choices

namespace Draft

open SlideDraft (Adds)

variable {W : Type} {setting : Setting} {draft after : Draft W}

section Running

/-- A link in the text adds the label that its address asks for, if it is one of a reference by
label, and nothing otherwise. -/
theorem adds_readLink (draft : Draft W) (content url : String) (title : Option String) :
    Adds (Reference.labelOf? content url).toList false draft.slide
      (draft.readLink content url title).slide := by
  have labelled (id : String) (before : Draft W) : Adds [id] false before.slide
      ((before.write (.label id)).write (.closing (.labelLink id))).slide :=
    (SlideDraft.adds_label _ id).then (SlideDraft.adds_write _ rfl)
  have opened (id : String) : Adds [] false draft.slide
      ((draft.write (.opening (.labelLink id))).write (.text content)).slide :=
    (SlideDraft.adds_write draft.slide rfl).then (SlideDraft.adds_write _ rfl)
  have spaced (before : Draft W) : Adds [] false before.slide (before.write (.text " ")).slide :=
    SlideDraft.adds_write _ rfl
  unfold readLink
  split
  · rename_i address
    rw [Reference.labelOf?, address]
    exact SlideDraft.adds_write _ rfl
  · rename_i key address
    have asks : Reference.labelOf? content url =
        some (Reference.idOf (linkKey key content)) := by
      rw [Reference.labelOf?, address]
      rfl
    rw [asks, slide_follow]
    split
    · exact (labelled _ _).after (opened _)
    · exact (labelled _ _).after ((opened _).then (spaced _))
  -- An address of one `#` asks for no label.
  · rename_i key concept numbered address
    have silent : Reference.labelOf? content url = none := by
      rw [Reference.labelOf?, address]
      split
      · rename_i same
        exact (numbered _ (List.cons.inj same).2).elim
      · rfl
    rw [silent]
    change Adds _ false draft.slide ((draft.follow _).slide.write _)
    rw [slide_follow]
    exact SlideDraft.adds_write _ rfl
  · have silent : Reference.labelOf? content url = none := by
      unfold Reference.labelOf?
      split <;> simp_all
    rw [silent]
    exact SlideDraft.adds_write _ rfl

/-- An image is noted on its slide, which adds no cue. -/
theorem adds_readImage (draft : Draft W) (alternative path : String) (title : Option String) :
    Adds [] false draft.slide (draft.readImage setting alternative path title).slide := by
  unfold readImage
  split
  · exact SlideDraft.adds_write _ rfl
  · have noted (images : List String) :
        Adds [] false draft.slide { draft.slide with images := images } :=
          .of_same rfl rfl rfl rfl rfl
    dsimp only
    split
    · split <;> exact (noted _).then (SlideDraft.adds_write _ rfl)
    · exact (noted _).then (SlideDraft.adds_write _ rfl)

/-- A link that is given by key adds what the target that it is given asks for. -/
theorem adds_readKeyedLink (draft : Draft W) (content key : String) (image : Bool) :
    Adds (Inline.label? setting.outline.linkTargets (.keyedLink content key image)).toList false
      draft.slide (draft.readKeyedLink setting content key image).slide := by
  unfold readKeyedLink
  split
  · rename_i target found
    cases image with
    | true => exact adds_readImage draft _ _ _
    | false =>
      have link := adds_readLink draft content target.url target.title
      rwa [Inline.label?, found]
  · rename_i missing
    cases image with
    | true => exact SlideDraft.adds_write _ rfl
    | false =>
      rw [Inline.label?, missing]
      exact SlideDraft.adds_write _ rfl

variable [Weight W]

/-- A definition adds nothing: its own text is known when it is written. -/
theorem adds_of_readDefinition {content key : String}
    (read : draft.readDefinition setting content key = .ok after) :
    Adds [] false draft.slide after.slide := by
  unfold readDefinition at read
  simp only [bind_eq_ok, pure_eq_ok] at read
  obtain ⟨⟨middle, defined⟩, made, rfl⟩ := read
  have same : middle.slide = draft.slide := slide_of_define made
  exact same ▸ SlideDraft.adds_write middle.slide rfl

/-- Markup within a line adds the label that it asks for. Only links ask for any. -/
theorem adds_of_readToken {token : Inline} (read : draft.readToken setting token = .ok after) :
    Adds (token.label? setting.outline.linkTargets).toList false draft.slide after.slide := by
  cases token with
  | definition content key => exact adds_of_readDefinition read
  | call plugin action argument =>
    cases read
    have called : Adds [] false draft.slide
        { draft.slide with calls := draft.slide.calls ++ [plugin] } := .of_same rfl rfl rfl rfl rfl
    exact called.then (SlideDraft.adds_write _ rfl)
  | link content url title image =>
    cases read
    cases image with
    | true => exact adds_readImage draft _ _ _
    | false => exact adds_readLink draft _ _ _
  | keyedLink content key image =>
    cases read
    exact adds_readKeyedLink draft content key image
  | strong => exact Except.ok.inj read ▸ .refl _
  | emphasis => exact Except.ok.inj read ▸ .refl _
  | _ =>
    cases read
    exact SlideDraft.adds_write _ rfl

/-- A step of running text adds the label that its token asks for. -/
theorem adds_of_readStep {step : TextStep} (read : draft.readStep setting step = .ok after) :
    Adds (step.label? setting.outline.linkTargets).toList false draft.slide after.slide := by
  cases step with
  | token token => exact adds_of_readToken read
  | opening element => exact Except.ok.inj read ▸ SlideDraft.adds_write _ rfl
  | closing element => exact Except.ok.inj read ▸ SlideDraft.adds_write _ rfl

/-- Steps of running text add their labels in the order of the text. -/
theorem adds_of_readSteps {steps : List TextStep}
    (read : steps.foldlM (readStep setting) draft = .ok after) :
    Adds (stepLabels setting.outline.linkTargets steps) false draft.slide after.slide := by
  induction steps generalizing draft with
  | nil => exact Except.ok.inj read ▸ .refl _
  | cons step rest later =>
    rw [List.foldlM_cons, bind_eq_ok] at read
    obtain ⟨middle, stepped, read⟩ := read
    have both := (adds_of_readStep stepped).trans (later read)
    rw [stepLabels, List.filterMap_cons]
    cases found : step.label? setting.outline.linkTargets <;> simpa [found, stepLabels] using both

/-- Running text within an element adds what it adds outside of it. -/
theorem adds_of_readInside {element : Element} {steps : List TextStep}
    (read : readInside setting element steps draft = .ok after) :
    Adds (stepLabels setting.outline.linkTargets steps) false draft.slide after.slide := by
  unfold readInside at read
  simp only [bind_eq_ok, pure_eq_ok] at read
  obtain ⟨middle, read, rfl⟩ := read
  have inside := (adds_of_readSteps read).after (SlideDraft.adds_write draft.slide rfl)
  exact inside.then (SlideDraft.adds_write _ rfl)

end Running

section Directives

/-- A marker presents a choice, unless it restates the question. -/
theorem adds_of_readMarker {marker : Char × Bool}
    (read : draft.readMarker setting marker = .ok after) :
    Adds [] (marker.1 != Choices.restatement) draft.slide after.slide := by
  have presents {choices : Choices}
      (presented : draft.slide.choices.present setting.multiplicity marker.1 marker.2 =
        .ok choices) : Adds [] (marker.1 != Choices.restatement) draft.slide
          { draft.slide with choices := choices }.openChoices := by
    have marked : Adds [] (marker.1 != Choices.restatement) draft.slide
        { draft.slide with choices := choices } :=
      ⟨rfl, rfl, rfl, (List.append_nil _).symm, Choices.count_of_present presented⟩
    exact marked.then (SlideDraft.adds_openChoices _)
  unfold readMarker at read
  dsimp only at read
  split at read
  · split at read
    · simp only [bind_eq_ok, fault_ne_ok, false_and, exists_false] at read
    · simp only [bind_eq_ok, located_eq_ok, pure_eq_ok] at read
      obtain ⟨choices, presented, rfl⟩ := read
      exact presents presented
  · simp only [bind_eq_ok, located_eq_ok, pure_eq_ok] at read
    obtain ⟨choices, presented, rfl⟩ := read
    exact presents presented

/-- Tags add nothing to what is to be filled in. -/
theorem adds_of_readTags {content : String} (read : draft.readTags setting content = .ok after) :
    Adds [] false draft.slide after.slide := by
  have closed := SlideDraft.adds_closeChoices draft.slide
  unfold readTags at read
  dsimp only at read
  split at read
  · cases read
    exact closed
  · split at read
    · simp only [bind_eq_ok, fault_ne_ok, false_and, exists_false] at read
    · cases read
      split
      · exact closed.then (.of_same rfl rfl rfl rfl rfl)
      · exact (closed.then (SlideDraft.adds_write _ rfl)).then (.of_same rfl rfl rfl rfl rfl)

/-- A hint adds nothing, whether it is shown or discarded. -/
theorem adds_of_readHint {penalty : Option Float}
    (read : draft.readHint setting penalty = .ok after) :
    Adds [] false draft.slide after.slide := by
  have closed := SlideDraft.adds_closeChoices draft.slide
  unfold readHint at read
  dsimp only at read
  split at read
  · cases read
    exact closed.then (.of_same rfl rfl rfl rfl rfl)
  · simp only [bind_eq_ok, located_eq_ok, pure_eq_ok] at read
    obtain ⟨slide, opened, rfl⟩ := read
    have ended := closed.then (SlideDraft.adds_closeRegion _ .hint)
    exact (SlideDraft.adds_openRegion opened).after (ended.then (.of_same rfl rfl rfl rfl rfl))

/-- Notes add nothing. -/
theorem adds_of_readNotes (read : draft.readNotes setting = .ok after) :
    Adds [] false draft.slide after.slide := by
  have closed := SlideDraft.adds_closeHint draft.slide
  unfold readNotes at read
  dsimp only at read
  split at read
  · cases read
    exact closed.then (.of_same rfl rfl rfl rfl rfl)
  · have seen (notesSeen : Bool) : Adds [] false draft.slide
        { (draft.slide.closeRegion .hint).closeChoices with notesSeen := notesSeen } :=
      closed.then (.of_same rfl rfl rfl rfl rfl)
    split at read
    · cases read
      exact seen true
    · simp only [bind_eq_ok, located_eq_ok, pure_eq_ok] at read
      obtain ⟨slide, opened, rfl⟩ := read
      exact (seen true).then (SlideDraft.adds_openRegion opened)

/-- The beginning of extra material adds nothing. -/
theorem adds_of_readExtra (read : draft.readExtra setting = .ok after) :
    Adds [] false draft.slide after.slide := by
  unfold readExtra at read
  simp only [bind_eq_ok, located_eq_ok, pure_eq_ok] at read
  obtain ⟨slide, opened, rfl⟩ := read
  exact (SlideDraft.adds_closeHint draft.slide).then (SlideDraft.adds_openRegion opened)

/-- What a plugin writes is known at once, and adds nothing. -/
theorem adds_of_readPlugin {name arguments : String} {plugin : Plugin}
    (read : draft.readPlugin setting name arguments plugin = .ok after) :
    Adds [] false draft.slide after.slide := by
  unfold readPlugin at read
  dsimp only at read
  split at read
  all_goals
    rw [bind_eq_ok] at read
    obtain ⟨heads, _, read⟩ := read
    split at read
    all_goals
      simp only [bind_eq_ok, pure_eq_ok] at read
      obtain ⟨top, _, body, _, button, _, rfl⟩ := read
      exact SlideDraft.adds_write _ rfl

/-- A plugin that is embedded is put after those embedded before. -/
theorem adds_of_readEmbed {name arguments : String}
    (read : draft.readEmbed setting name arguments = .ok after) :
    Adds [] false { draft.slide with embeds := draft.slide.embeds ++ [name] } after.slide := by
  unfold readEmbed at read
  dsimp only at read
  split at read
  · simp only [bind_eq_ok, fault_ne_ok, false_and, exists_false] at read
  · split at read
    · exact adds_of_readPlugin read
    · cases read
      exact SlideDraft.adds_write _ rfl

end Directives

variable [Weight W]

section Text

/-- An item of a list of choices adds the labels of its text, and a choice unless it is a
restatement. -/
theorem adds_of_readChoice {item : (Char × Bool) × List Inline}
    (read : draft.readChoice setting item = .ok after) :
    Adds (stepLabels setting.outline.linkTargets (item.2.flatMap TextStep.ofToken))
      (item.1.1 != Choices.restatement) draft.slide after.slide := by
  unfold readChoice at read
  rw [bind_eq_ok] at read
  obtain ⟨middle, marked, read⟩ := read
  have both := (adds_of_readMarker marked).trans (adds_of_readInside read)
  rwa [Bool.or_false] at both

/-- Items one after another add their labels in order, and a choice if one of them presents one. -/
theorem adds_of_readChoices {items : List ((Char × Bool) × List Inline)}
    (read : items.foldlM (readChoice setting) draft = .ok after) :
    Adds (items.flatMap fun item =>
        stepLabels setting.outline.linkTargets (item.2.flatMap TextStep.ofToken))
      (items.any fun item => item.1.1 != Choices.restatement) draft.slide after.slide := by
  induction items generalizing draft with
  | nil => exact Except.ok.inj read ▸ .refl _
  | cons item rest later =>
    rw [List.foldlM_cons, bind_eq_ok] at read
    obtain ⟨middle, chosen, read⟩ := read
    exact (adds_of_readChoice chosen).trans (later read)

/-- A paragraph adds the labels of its text and the choices that it presents. Labels before the
first marker and those of the items make up the labels of the whole. -/
theorem adds_of_readParagraph {content : String}
    (read : draft.readParagraph setting content = .ok after) :
    Adds (Block.labels setting.outline.linkTargets (.text content))
      (Block.presents (.text content)) draft.slide after.slide := by
  have whole := TextStep.filterMap_cutChoices (TextStep.label? setting.outline.linkTargets)
    (fun _ _ => rfl) (Inline.scan content)
  rw [Block.labels, stepLabels, TextStep.ofText_eq, ← whole, Block.presents]
  unfold readParagraph at read
  dsimp only at read
  split at read
  -- Without text before the choices there is no paragraph.
  · rename_i bare
    rw [Bool.and_eq_true, List.isEmpty_iff] at bare
    rw [bind_eq_ok] at read
    obtain ⟨middle, same, read⟩ := read
    cases same
    rw [bare.1]
    exact adds_of_readChoices read
  · rw [bind_eq_ok] at read
    obtain ⟨middle, lead, read⟩ := read
    exact (adds_of_readInside lead).trans (adds_of_readChoices read)

/-- The label of a heading belongs to the file and leaves the slide alone. -/
theorem slide_of_defineHeading {content : String} {key : Option String}
    {result : Draft W × Option String}
    (defined : draft.defineHeading setting content key = .ok result) :
    result.1.slide = draft.slide := by
  unfold defineHeading at defined
  dsimp only at defined
  split at defined
  · rw [bind_eq_ok] at defined
    obtain ⟨found, made, same⟩ := defined
    cases same
    exact slide_of_define made
  · split at defined
    · cases defined
      rfl
    · rw [bind_eq_ok] at defined
      obtain ⟨found, made, same⟩ := defined
      cases same
      exact slide_of_define made

/-- A heading adds the labels that its title asks for. Its attributes are no part of that. -/
theorem adds_of_readHeading {level : Nat} {content : String}
    (read : draft.readHeading setting level content = .ok after) :
    Adds (Block.labels setting.outline.linkTargets (.heading level content)) false draft.slide
      after.slide := by
  have headed {slide : SlideDraft W} {text : String} {key : Option String}
      {header : Option String} (before : Adds [] false draft.slide slide)
      (read : (do
        let headed := draft.withSlide
          { slide with headings := slide.headings + 1, header := header }
        let numbered := numberHeading setting headed level text
        let defined ← defineHeading setting numbered.1 text key
        readInside setting (.heading level defined.2 numbered.2) (TextStep.ofText text) defined.1) =
          .ok after) :
      Adds (stepLabels setting.outline.linkTargets (TextStep.ofText text)) false draft.slide
        after.slide := by
    rw [bind_eq_ok] at read
    obtain ⟨result, defined, read⟩ := read
    have same := (slide_of_defineHeading defined).trans (slide_numberHeading _ _ _ _)
    have inside := adds_of_readInside read
    rw [same] at inside
    exact inside.after (before.then (.of_same rfl rfl rfl rfl rfl))
  unfold readHeading at read
  dsimp only at read
  split at read
  · rw [bind_eq_ok] at read
    obtain ⟨slide, opened, read⟩ := read
    exact headed (SlideDraft.adds_openRegion (located_eq_ok.1 opened)) read
  · exact headed (.refl _) read

/-- An item of a list adds the labels of its text. -/
theorem adds_of_readListItem {ordered : Bool} {content : String}
    (read : draft.readListItem setting ordered content = .ok after) :
    Adds (stepLabels setting.outline.linkTargets (TextStep.ofText content)) false draft.slide
      after.slide :=
  (adds_of_readInside read).after (SlideDraft.adds_openList draft.slide ordered)

/-- A discussion adds the labels of its text. -/
theorem adds_of_readDiscuss {content : String}
    (read : draft.readDiscuss setting content = .ok after) :
    Adds (stepLabels setting.outline.linkTargets (TextStep.ofText content)) false draft.slide
      after.slide :=
  (adds_of_readInside read).after
    ((SlideDraft.adds_closeChoices draft.slide).then (.of_same rfl rfl rfl rfl rfl))

end Text

/-- A block that is no answer adds the labels and the choices in it. -/
theorem adds_of_readContent {block : Block} (other : block.isAnswer = false)
    (plain : block.embedded? = none)
    (read : draft.readContent setting block = .ok after) :
    Adds (block.labels setting.outline.linkTargets) block.presents draft.slide after.slide := by
  cases block with
  | answer content => contradiction
  | text content => exact adds_of_readParagraph read
  | heading level content => exact adds_of_readHeading read
  | pluginEmbed name arguments => contradiction
  | discuss content => exact adds_of_readDiscuss read
  | tags content => exact adds_of_readTags read
  | hint penalty => exact adds_of_readHint read
  | notes => exact adds_of_readNotes read
  | extra => exact adds_of_readExtra read
  | listItem ordered content => exact adds_of_readListItem read
  | pluginDefinition name content =>
    cases read
    exact .refl _
  | metadata name content =>
    cases read
    split
    · exact .refl _
    · exact SlideDraft.adds_write _ rfl
  | quoteStart =>
    cases read
    have deeper : Adds [] false draft.slide
        { draft.slide with depth := draft.slide.depth + 1 } := .of_same rfl rfl rfl rfl rfl
    exact deeper.then (SlideDraft.adds_write _ rfl)
  | quoteEnd =>
    cases read
    have outer : Adds [] false draft.slide
        { draft.slide with depth := draft.slide.depth - 1 } := .of_same rfl rfl rfl rfl rfl
    exact outer.then (SlideDraft.adds_write _ rfl)
  | _ =>
    cases read
    exact SlideDraft.adds_write _ rfl

/-- An answer taken as that of the slide, and shown. -/
def answered (draft : Draft W) (answer : Answer W) : Draft W :=
  let written := draft.write
    (.answer draft.slide.id (answer.kind.getD .choice).keyword answer.correct)
  written.withSlide { written.slide with answer := some answer }

/-- The first answer of a slide is taken, and a warning is given for others. -/
theorem cases_of_readAnswer {content : String} {closed : Draft W}
    (closes : closed = draft.withSlide (draft.slide.closeRegion .hint).closeChoices)
    (read : draft.readAnswer setting content = .ok after) :
    (∃ answer, draft.slide.answer = some answer ∧ after = closed.warn setting .duplicateAnswer) ∨
      draft.slide.answer = none ∧ ∃ answer,
        Answer.parse content (decide (0 < draft.slide.choices.count)) setting.plugins =
          .ok answer ∧ after = closed.answered answer := by
  have bare : closed.slide.bare = draft.slide.bare := closes ▸
    (SlideDraft.bare_closeChoices _).trans (SlideDraft.bare_closeRegion _ _)
  rw [← SlideDraft.answer_of_bare bare, ← SlideDraft.choices_of_bare bare]
  unfold readAnswer at read
  rw [← closes] at read
  dsimp only at read
  split at read
  · rename_i isAnswered
    obtain ⟨answer, same⟩ := Option.isSome_iff_exists.1 isAnswered
    cases read
    exact .inl ⟨answer, same, rfl⟩
  · rename_i unanswered
    rw [bind_eq_ok] at read
    obtain ⟨answer, parsed, read⟩ := read
    refine .inr ⟨Option.not_isSome_iff_eq_none.1 unanswered, answer, located_eq_ok.1 parsed, ?_⟩
    split at read
    · split at read
      · simp only [bind_eq_ok, fault_ne_ok, false_and, exists_false] at read
      · exact (Except.ok.inj read).symm
    · exact (Except.ok.inj read).symm

end Draft

namespace FirstAnswer

variable {W : Type} [Weight W] {plugins : Plugins} {blocks : List Block}
  {answer : Option (Answer W)}

/-- Blocks after the first answer do not matter, nor blocks that are no answers. -/
theorem append (first : FirstAnswer plugins blocks answer) {later : List Block}
    (passes : later.any Block.isAnswer = false ∨ answer ≠ .none) :
    FirstAnswer plugins (blocks ++ later) answer := by
  cases first with
  | none unanswered =>
    have others := passes.resolve_right (not_not_intro rfl)
    exact .none (by rw [List.any_append, unanswered, others]; rfl)
  | some first parsed =>
    rw [List.append_assoc, List.cons_append]
    exact .some first parsed

/-- A slide that has no answer yet has no block that is one. -/
theorem unanswered (first : FirstAnswer plugins blocks (.none : Option (Answer W))) :
    blocks.any Block.isAnswer = false := by
  cases first with
  | none unanswered => exact unanswered

end FirstAnswer

namespace SlideDraft

variable {W : Type} [Weight W] {setting : Setting} {blocks : List Block}
  {slide after : SlideDraft W}

/-- What a slide has of its blocks: the labels that they ask for, the first answer among them, the
plugins that they embed, and whether they present choices. -/
structure Tells (setting : Setting) (blocks : List Block) (slide : SlideDraft W) : Prop where
  labels : Script.labels slide.script = blocks.flatMap (Block.labels setting.outline.linkTargets)
  answers : Script.answers slide.script = (slide.answer.map fun answer =>
    (slide.id, (answer.kind.getD .choice).keyword, answer.correct)).toList
  answer : FirstAnswer setting.plugins blocks slide.answer
  embeds : slide.embeds = blocks.filterMap Block.embedded?
  choices : 0 < slide.choices.count ↔ blocks.any Block.presents = true

/-- A slide of which nothing is read tells nothing. -/
theorem tells_start (setting : Setting) (number firstBlock : Nat) :
    Tells setting [] (.start setting.fileNumber number firstBlock : SlideDraft W) where
  labels := rfl
  answers := rfl
  answer := .none rfl
  embeds := rfl
  choices := by simp [start]

/-- A slide to which is added what blocks have tells of these blocks too. -/
theorem Tells.of_adds (tells : slide.Tells setting blocks) (later : List Block)
    (passes : later.any Block.isAnswer = false ∨ slide.answer ≠ none)
    (plain : later.filterMap Block.embedded? = [])
    (adds : Adds (later.flatMap (Block.labels setting.outline.linkTargets))
      (later.any Block.presents) slide after) : after.Tells setting (blocks ++ later) where
  labels := by
    have own (labels : List String) : (labels.map Cue.label).filterMap Cue.label? = labels := by
      rw [List.filterMap_map]
      exact List.filterMap_some
    have earlier := tells.labels
    unfold Script.labels at earlier ⊢
    rw [adds.cues, List.filterMap_append, earlier, own, List.flatMap_append]
  answers := by
    have none (labels : List String) : (labels.map Cue.label).filterMap Cue.answer? = [] := by
      simp [Cue.answer?]
    have earlier := tells.answers
    unfold Script.answers at earlier ⊢
    rw [adds.cues, List.filterMap_append, earlier, none, adds.answer, adds.id, List.append_nil]
  answer := by
    rw [adds.answer]
    exact tells.answer.append passes
  embeds := by rw [adds.embeds, tells.embeds, List.filterMap_append, plain, List.append_nil]
  choices := by rw [adds.choices, tells.choices, List.any_append, Bool.or_eq_true]

/-- What adds nothing leaves a slide telling the same of the same blocks. -/
theorem Tells.of_silent (tells : slide.Tells setting blocks) (adds : Adds [] false slide after) :
    after.Tells setting blocks := by
  have same := tells.of_adds [] (.inl rfl) rfl adds
  rwa [List.append_nil] at same

/-- A slide that takes its first answer tells of it. -/
theorem Tells.of_answer (tells : slide.Tells setting blocks) (unanswered : slide.answer = none)
    {content : String} {answer : Answer W}
    (parsed : Answer.parse content (decide (0 < slide.choices.count)) setting.plugins =
      .ok answer) :
    Tells setting (blocks ++ [.answer content]) { slide.write
      (.answer slide.id (answer.kind.getD .choice).keyword answer.correct) with
        answer := some answer } := by
  have cues := Script.cues_concat slide.script
    ⟨.answer slide.id (answer.kind.getD .choice).keyword answer.correct, slide.regions,
      slide.isDiscarding⟩
  have presents : decide (0 < slide.choices.count) = blocks.any Block.presents :=
    Bool.eq_iff_iff.2 (decide_eq_true_iff.trans tells.choices)
  have first := tells.answer
  rw [unanswered] at first
  constructor
  · have earlier := tells.labels
    unfold Script.labels at earlier ⊢
    rw [write, cues, List.filterMap_append, earlier, List.flatMap_append]
    rfl
  · have earlier := tells.answers
    unfold Script.answers at earlier ⊢
    rw [write, cues, List.filterMap_append, earlier, unanswered]
    rfl
  · exact .some first.unanswered (presents ▸ parsed)
  · exact tells.embeds.trans (by simp [Block.embedded?])
  · rw [List.any_append]
    exact tells.choices.trans (by simp [Block.presents])

/-- A slide that embeds a plugin tells of it. -/
theorem Tells.of_embed (tells : slide.Tells setting blocks) (name arguments : String) :
    Tells setting (blocks ++ [.pluginEmbed name arguments])
      { slide with embeds := slide.embeds ++ [name] } where
  labels := by simpa [Block.labels] using tells.labels
  answers := tells.answers
  answer := tells.answer.append (.inl rfl)
  embeds := by simp [tells.embeds, Block.embedded?]
  choices := by simpa [Block.presents] using tells.choices

/-- The script of a slide at its end tells what it told before. -/
theorem Tells.scripts_closeAll (tells : slide.Tells setting blocks) :
    Script.labels slide.closeAll.script =
        blocks.flatMap (Block.labels setting.outline.linkTargets) ∧
      Script.answers slide.closeAll.script = (slide.answer.map fun answer =>
        (slide.id, (answer.kind.getD .choice).keyword, answer.correct)).toList := by
  have same := (adds_closeAll slide).cues
  rw [List.map_nil, List.append_nil] at same
  rw [Script.labels, Script.answers, same]
  exact ⟨tells.labels, tells.answers⟩

end SlideDraft

namespace Draft

open SlideDraft (Adds)

variable {W : Type} [Weight W] {setting : Setting} {draft after : Draft W}

omit [Weight W] in
/-- What is closed before a block adds nothing. -/
theorem adds_beforeBlock (draft : Draft W) (block : Block) :
    Adds [] false draft.slide (draft.beforeBlock block).slide := by
  unfold beforeBlock
  split
  · exact .refl _
  · exact SlideDraft.adds_closeList draft.slide

/-- An answer is told if it is the first of its slide, with the kind that it is shown with. A later
one is not even parsed, and adds nothing. -/
theorem tells_of_readAnswer {blocks : List Block} {content : String}
    (read : draft.readAnswer setting content = .ok after)
    (tells : draft.slide.Tells setting blocks) :
    after.slide.Tells setting (blocks ++ [.answer content]) := by
  have closed := SlideDraft.adds_closeHint draft.slide
  rcases cases_of_readAnswer rfl read with
    ⟨answer, same, rfl⟩ | ⟨unanswered, answer, parsed, rfl⟩
  · exact tells.of_adds [_] (.inr (by simp [same])) rfl closed
  · have presents : decide (0 < (draft.slide.closeRegion .hint).closeChoices.choices.count) =
        decide (0 < draft.slide.choices.count) :=
      decide_eq_decide.2 (by simpa using closed.choices)
    exact (tells.of_silent closed).of_answer (closed.answer.trans unanswered) (presents ▸ parsed)

/-- **A slide tells of its blocks.** -/
theorem kept_tells (setting : Setting) :
    Kept (W := W) setting fun blocks slide => slide.Tells setting blocks where
  start := SlideDraft.tells_start setting
  noted := fun _ tells =>
    ⟨tells.labels, tells.answers, tells.answer, tells.embeds, tells.choices⟩
  part := by
    intro blocks draft after block read tells
    have tells := tells.of_silent (adds_beforeBlock draft block)
    cases block with
    | answer content => exact tells_of_readAnswer read tells
    | pluginEmbed name arguments =>
      exact (tells.of_embed name arguments).of_silent (adds_of_readEmbed read)
    | _ =>
      have adds := adds_of_readContent rfl rfl read
      exact tells.of_adds [_] (.inl rfl) rfl (by simpa using adds)
  rule := fun tells => tells.of_adds [.rule] (.inl rfl) rfl (.refl _)

end Draft

end LectureDeck
