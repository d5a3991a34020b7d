import LectureDeck.Deck.Reading
import LectureDeck.Proofs.Result

/-!
# Errors of slides

Whatever goes wrong while a file is read goes wrong on a slide of the file, which the error names
(`LectureDeck.Draft.namesSlide_readFile`). An answer that cannot be read is at fault itself, or one
of its options is (`LectureDeck.Answer.blamesAnswer_parse`).
-/

namespace LectureDeck

open LectureDeck.Text

/-- If a computation fails, its error names a slide of a file. -/
def NamesSlide {W α : Type} (file : String) (result : Except (CompileError W) α) : Prop :=
  FailsOnly (fun error => ∃ slide, error.location? = some ⟨file, slide⟩) result

section Answers

/-- The fault is in an answer, or in one of its options. -/
def SlideFault.isOfAnswer : SlideFault → Bool
  | invalidAnswer .. | invalidOption .. => true
  | _ => false

/-- If a computation fails, an answer is at fault. -/
def BlamesAnswer {α : Type} (result : Except SlideFault α) : Prop :=
  FailsOnly (fun fault => fault.isOfAnswer = true) result

namespace AnswerOptions

variable {W : Type} [Weight W]

/-- A fault of an option is one of the answer that it belongs to. -/
theorem blamesAnswer_invalid {α : Type} (option : List Char) (fault : OptionFault) :
    BlamesAnswer (invalid option fault : Except SlideFault α) := .error rfl

/-- Numbers that cannot be read blame their option. -/
theorem blamesAnswer_numbers {N : Type} (read : List Char → Option N) (option value : List Char) :
    BlamesAnswer (numbers read option value) := by
  unfold numbers
  split
  · exact .ok _
  · exact blamesAnswer_invalid option _

/-- What is neither yes nor no blames its option. -/
theorem blamesAnswer_yesNo (option value : List Char) : BlamesAnswer (yesNo option value) := by
  unfold yesNo
  split
  · exact .ok _
  · exact .ok _
  · exact blamesAnswer_invalid option _

/-- What an option lacks blames the option. -/
theorem blamesAnswer_required {α : Type} (option : List Char) (fault : OptionFault)
    (found : Option α) : BlamesAnswer (required option fault found) := by
  cases found with
  | some a => exact .ok a
  | none => exact blamesAnswer_invalid option fault

/-- An option without a name blames itself. -/
theorem blamesAnswer_nameValue (option : List Char) : BlamesAnswer (nameValue option) := by
  unfold nameValue
  split
  · exact .ok _
  · split
    · split
      · exact .ok _
      · exact blamesAnswer_invalid _ _
    · exact blamesAnswer_invalid _ _

/-- Weights that are no numbers, negative, infinite, or more than three blame their option. -/
theorem blamesAnswer_withWeights (options : AnswerOptions W) (option value : List Char) :
    BlamesAnswer (options.withWeights option value) := by
  refine (blamesAnswer_numbers _ option value).bind fun weights => ?_
  split
  · split
    all_goals first
      | exact .ok _
      | exact blamesAnswer_invalid option _
  · exact blamesAnswer_invalid option _

omit [Weight W] in
/-- A retry that cannot be read blames its option. -/
theorem blamesAnswer_withRetry (options : AnswerOptions W) (option value : List Char) :
    BlamesAnswer (options.withRetry option value) := by
  refine (blamesAnswer_numbers _ option value).bind fun numbers => ?_
  split
  all_goals first
    | exact .ok _
    | exact blamesAnswer_invalid option _

/-- Whichever name an option has, its fault is its own. -/
theorem blamesAnswer_apply (options : AnswerOptions W) (option : List Char) :
    BlamesAnswer (options.apply option) := by
  refine (blamesAnswer_nameValue option).bind fun part => ?_
  dsimp only
  split
  · exact blamesAnswer_withWeights options option _
  · exact blamesAnswer_withRetry options option _
  · exact (blamesAnswer_required option _ _).bind fun _ => .ok _
  · exact (blamesAnswer_required option _ _).bind fun _ => .ok _
  · exact (blamesAnswer_required option _ _).bind fun _ => .ok _
  · exact (blamesAnswer_required option _ _).bind fun _ => .ok _
  · exact (blamesAnswer_yesNo option _).bind fun _ => .ok _
  · exact (blamesAnswer_yesNo option _).bind fun _ => .ok _
  · exact blamesAnswer_invalid option _

omit [Weight W] in
/-- Votes that are shown where answers are not shared blame their option. -/
theorem blamesAnswer_checked (options : AnswerOptions W) : BlamesAnswer options.checked := by
  unfold checked
  split
  · exact .error rfl
  · exact .ok options

/-- Options are read one by one and then checked together, and either blames an option. -/
theorem blamesAnswer_parse (text : List Char) :
    BlamesAnswer (parse text : Except SlideFault (AnswerOptions W)) := by
  unfold parse
  split
  · exact (FailsOnly.foldlM blamesAnswer_apply _ _).bind blamesAnswer_checked
  · exact blamesAnswer_invalid text _

end AnswerOptions

namespace Answer

/-- A fault of a statement is one of the answer that states it. -/
theorem blamesAnswer_invalid {α : Type} (statement : List Char) (fault : AnswerFault) :
    BlamesAnswer (invalid statement fault : Except SlideFault α) := .error rfl

/-- An argument that its plugin does not take blames the answer. -/
theorem blamesAnswer_checkArgument (statement : List Char) (pattern : Option String)
    (argument : String) : BlamesAnswer (checkArgument statement pattern argument) := by
  unfold checkArgument
  split
  · exact .ok ()
  · split
    · exact blamesAnswer_invalid statement _
    · split
      · exact .ok ()
      · exact blamesAnswer_invalid statement _

/-- A number that cannot be read as an answer blames it. -/
theorem blamesAnswer_number? (cs : List Char) : BlamesAnswer (number? cs) := by
  unfold number?
  split
  · exact .ok none
  · dsimp only
    split
    · exact .ok none
    · split
      · exact blamesAnswer_invalid cs _
      · exact .ok _
      · split
        · exact blamesAnswer_invalid cs _
        · exact .ok _

/-- A value that its kind does not take blames the answer. -/
theorem blamesAnswer_typedValue (statement : List Char) (kind : QuestionKind) (value : List Char) :
    BlamesAnswer (typedValue statement kind value) := by
  unfold typedValue
  split
  · exact .ok none
  · split
    · split
      · exact blamesAnswer_invalid statement _
      · split
        · exact blamesAnswer_invalid statement _
        · exact .ok _
    · split
      · refine (blamesAnswer_number? value).bind fun number => ?_
        cases number with
        | some number => exact .ok _
        | none => exact blamesAnswer_invalid statement _
      · exact .ok _

/-- A statement that begins with a kind blames itself. -/
theorem blamesAnswer_stateTyped? (plugins : Plugins) (statement : List Char) :
    BlamesAnswer (stateTyped? plugins statement) := by
  unfold stateTyped?
  split
  · exact .ok none
  · split
    · exact (blamesAnswer_typedValue statement _ _).map _
    · split
      · exact .ok _
      · exact .ok none

/-- A statement that names a plugin blames itself. -/
theorem blamesAnswer_statePluginName? (plugins : Plugins) (statement : List Char) :
    BlamesAnswer (statePluginName? plugins statement) := by
  unfold statePluginName?
  split
  · exact .ok none
  · split
    · exact .ok none
    · exact (blamesAnswer_checkArgument statement _ _).bind fun _ => .ok _

/-- In whichever way a statement is read, what is wrong with it is its own fault. -/
theorem blamesAnswer_resolve (statement : List Char) (hasChoices : Bool) (plugins : Plugins) :
    BlamesAnswer (resolve statement hasChoices plugins) := by
  unfold resolve
  split
  · exact .ok _
  · split
    · exact (blamesAnswer_checkArgument statement _ _).bind fun _ => .ok _
    · refine (blamesAnswer_stateTyped? plugins statement).bind fun typed => ?_
      split
      · exact .ok _
      refine (blamesAnswer_number? statement).bind fun number => ?_
      split
      · exact .ok _
      split
      · exact .ok _
      refine (blamesAnswer_statePluginName? plugins statement).bind fun plugin => ?_
      split
      · exact .ok _
      · split <;> exact .ok _

/-- An answer that cannot be read is at fault. -/
theorem blamesAnswer_parse {W : Type} [Weight W] (text : String) (hasChoices : Bool)
    (plugins : Plugins) :
    BlamesAnswer (parse text hasChoices plugins : Except SlideFault (Answer W)) :=
  (AnswerOptions.blamesAnswer_parse _).bind fun _ =>
    (blamesAnswer_resolve _ hasChoices plugins).bind fun _ => .ok _

end Answer

end Answers

namespace Draft

variable {W : Type} (setting : Setting) (draft : Draft W)

section Faults

variable {setting draft} {known : CompileError W → Prop}

/-- A fault fails as an error of its slide. -/
theorem failsOnly_located {α : Type} {result : Except SlideFault α}
    (fails : FailsOnly (fun fault => known (.faultySlide ⟨setting.file, draft.slide.number⟩ fault))
      result) : FailsOnly known (located setting draft result) := by
  cases result with
  | ok value => exact .ok value
  | error fault => exact .error (fails fault rfl)

/-- A fault that is found while a draft is read is told together with the slide that is read. -/
theorem failsOnly_fault {α : Type} {found : SlideFault}
    (one : known (.faultySlide ⟨setting.file, draft.slide.number⟩ found)) :
    FailsOnly known (fault setting draft found : Except (CompileError W) α) :=
  failsOnly_located (.error one)

/-- A template fails over a field that it does not know, which is told with the slide and the
plugin. -/
theorem failsOnly_fill {fields : TemplateFields}
    (one : ∀ field, known (.unknownField ⟨setting.file, draft.slide.number⟩ fields.plugin field))
    (template : String) : FailsOnly known (fill setting draft fields template) := by
  unfold fill
  split
  · exact .ok _
  · exact .error (one _)

/-- A plugin fails only where one of its texts is filled. -/
theorem failsOnly_readPlugin {name arguments : String} {plugin : Plugin}
    (one : ∀ field, known (.unknownField ⟨setting.file, draft.slide.number⟩ name field)) :
    FailsOnly known (draft.readPlugin setting name arguments plugin) := by
  have fills (template : String) : FailsOnly known (fill setting draft
      ⟨name, draft.slide.id, arguments, setting.fileNumber⟩ template) :=
    failsOnly_fill one template
  unfold readPlugin
  dsimp only
  split
  all_goals
    refine FailsOnly.bind ?_ fun heads => ?_
    rotate_left
    · split
      all_goals
        refine FailsOnly.bind ?_ fun top => (fills _).bind fun body => (fills _).bind fun button =>
          .ok _
      · exact fills _
      · exact .ok _
  · exact (fills _).map _
  · exact .ok _

end Faults

/-- A result of a slide that fails names the slide. -/
theorem namesSlide_located {α : Type} (result : Except SlideFault α) :
    NamesSlide setting.file (located setting draft result) :=
  failsOnly_located fun _ _ => ⟨_, rfl⟩

/-- A fault that is found on a slide names it. -/
theorem namesSlide_fault {α : Type} (found : SlideFault) :
    NamesSlide setting.file (fault setting draft found : Except (CompileError W) α) :=
  namesSlide_located setting draft (.error found)

/-- A marker that is out of order names its slide. -/
theorem namesSlide_readMarker (marker : Char × Bool) :
    NamesSlide setting.file (draft.readMarker setting marker) := by
  have presents (choices : Except SlideFault Choices) :
      NamesSlide setting.file (do
        let choices ← located setting draft choices
        return draft.withSlide { draft.slide with choices := choices }.openChoices) :=
    (namesSlide_located setting draft choices).bind fun _ => .ok _
  unfold readMarker
  dsimp only
  split
  · split
    · exact (namesSlide_fault setting draft _).bind fun _ => presents _
    · exact presents _
  · exact presents _

/-- Tags name their slide where it has some already. -/
theorem namesSlide_readTags (content : String) :
    NamesSlide setting.file (draft.readTags setting content) := by
  unfold readTags
  dsimp only
  split
  · exact .ok _
  · split
    · exact (namesSlide_fault setting _ _).bind fun _ => .ok _
    · exact .ok _

/-- A hint names its slide. It would have to be open already, since an earlier one is closed before
it. -/
theorem namesSlide_readHint (penalty : Option Float) :
    NamesSlide setting.file (draft.readHint setting penalty) := by
  unfold readHint
  dsimp only
  split
  · exact .ok _
  · exact (namesSlide_located setting _ _).bind fun _ => .ok _

/-- Notes name their slide where they cannot be opened. -/
theorem namesSlide_readNotes : NamesSlide setting.file (draft.readNotes setting) := by
  unfold readNotes
  dsimp only
  split
  · exact .ok _
  · split
    · exact .ok _
    · exact (namesSlide_located setting _ _).bind fun _ => .ok _

/-- Extra material names its slide where it was opened before. -/
theorem namesSlide_readExtra : NamesSlide setting.file (draft.readExtra setting) :=
  (namesSlide_located setting _ _).bind fun _ => .ok _

/-- A plugin names the slide of its call where its templates cannot be filled in. -/
theorem namesSlide_readPlugin (name arguments : String) (plugin : Plugin) :
    NamesSlide setting.file (draft.readPlugin setting name arguments plugin) :=
  failsOnly_readPlugin fun _ => ⟨_, rfl⟩

/-- An embed names its slide where its plugin was embedded there before, or where the templates of
the plugin cannot be filled in. -/
theorem namesSlide_readEmbed (name arguments : String) :
    NamesSlide setting.file (draft.readEmbed setting name arguments) := by
  unfold readEmbed
  dsimp only
  by_cases old : draft.slide.embeds.contains name = true
  · rw [if_pos old]
    refine (namesSlide_fault setting draft _).bind fun _ => ?_
    split
    · exact namesSlide_readPlugin setting _ name arguments _
    · exact .ok _
  · rw [if_neg old]
    split
    · exact namesSlide_readPlugin setting _ name arguments _
    · exact .ok _

variable [Weight W]

/-- A link that skips graded questions names the slide that it is on. -/
theorem namesSlide_settle : NamesSlide setting.file (draft.settle setting) := by
  intro error failed
  unfold settle at failed
  split at failed
  · cases failed
    exact ⟨_, rfl⟩
  · contradiction

/-- A definition fails only over links that wait for it, each of which names its own slide. -/
theorem namesSlide_define (id : String) (kind : ReferenceKind) (counter : String) :
    NamesSlide setting.file (draft.define setting id kind counter) := by
  unfold define
  dsimp only
  split
  · exact (namesSlide_settle setting _).bind fun _ => .ok _
  · exact .ok _

/-- A definition in the text fails as any definition does. -/
theorem namesSlide_readDefinition (content key : String) :
    NamesSlide setting.file (draft.readDefinition setting content key) :=
  (namesSlide_define setting draft _ _ _).bind fun _ => .ok _

/-- A step of running text fails only where it defines something. -/
theorem namesSlide_readStep (step : TextStep) :
    NamesSlide setting.file (draft.readStep setting step) := by
  unfold readStep
  split
  · unfold readToken
    split
    all_goals first
      | exact .ok _
      | exact namesSlide_readDefinition setting draft _ _
  · exact .ok _
  · exact .ok _

/-- Running text within an element fails where one of its steps does. -/
theorem namesSlide_readInside (element : Element) (steps : List TextStep) :
    NamesSlide setting.file (readInside setting element steps draft) :=
  (FailsOnly.foldlM (fun draft => namesSlide_readStep setting draft) steps _).bind fun _ => .ok _

/-- An answer that cannot be read names its slide, and so does its plugin. -/
theorem namesSlide_readAnswer (content : String) :
    NamesSlide setting.file (draft.readAnswer setting content) := by
  unfold readAnswer
  dsimp only
  split
  · exact .ok _
  · refine (namesSlide_located setting _ _).bind fun answer => ?_
    split
    · split
      · exact (namesSlide_fault setting _ _).bind fun _ => .ok _
      · exact .ok _
    · exact .ok _

/-- An item of a list of choices fails over its marker or over its text. -/
theorem namesSlide_readChoice (item : (Char × Bool) × List Inline) :
    NamesSlide setting.file (draft.readChoice setting item) :=
  (namesSlide_readMarker setting draft _).bind fun _ => namesSlide_readInside setting _ _ _

/-- A paragraph fails over its text or over one of its choices. -/
theorem namesSlide_readParagraph (content : String) :
    NamesSlide setting.file (draft.readParagraph setting content) := by
  have choices (draft : Draft W) (items : List ((Char × Bool) × List Inline)) :
      NamesSlide setting.file (items.foldlM (readChoice setting) draft) :=
    FailsOnly.foldlM (fun draft => namesSlide_readChoice setting draft) items draft
  unfold readParagraph
  dsimp only
  split
  · exact (FailsOnly.ok draft).bind fun _ => choices _ _
  · exact (namesSlide_readInside setting draft _ _).bind fun _ => choices _ _

/-- The label of a heading fails as any definition does. -/
theorem namesSlide_defineHeading (content : String) (key : Option String) :
    NamesSlide setting.file (draft.defineHeading setting content key) := by
  unfold defineHeading
  dsimp only
  split
  · exact (namesSlide_define setting draft _ _ _).bind fun _ => .ok _
  · split
    · exact .ok _
    · exact (namesSlide_define setting draft _ _ _).bind fun _ => .ok _

/-- A heading fails over the region that it hides, over its label, or over its text. -/
theorem namesSlide_readHeading (level : Nat) (content : String) :
    NamesSlide setting.file (draft.readHeading setting level content) := by
  unfold readHeading
  dsimp only
  split
  · exact (namesSlide_located setting draft _).bind fun _ =>
      (namesSlide_defineHeading setting _ _ _).bind fun _ => namesSlide_readInside setting _ _ _
  · exact (namesSlide_defineHeading setting _ _ _).bind fun _ => namesSlide_readInside setting _ _ _

/-- Each kind of block names its slide where it fails. -/
theorem namesSlide_readContent (block : Block) :
    NamesSlide setting.file (draft.readContent setting block) := by
  cases block with
  | text content => exact namesSlide_readParagraph setting draft content
  | heading level content => exact namesSlide_readHeading setting draft level content
  | pluginEmbed name arguments => exact namesSlide_readEmbed setting draft name arguments
  | answer content => exact namesSlide_readAnswer setting draft content
  | discuss content => exact namesSlide_readInside setting _ _ _
  | tags content => exact namesSlide_readTags setting draft content
  | hint penalty => exact namesSlide_readHint setting draft penalty
  | notes => exact namesSlide_readNotes setting draft
  | extra => exact namesSlide_readExtra setting draft
  | listItem ordered content => exact namesSlide_readInside setting _ _ _
  | _ => exact .ok _

/-- The end of a slide fails over its answer, which names the slide, or over a link that skips a
question. -/
theorem namesSlide_closeSlide (endBlock : Nat) :
    NamesSlide setting.file (draft.closeSlide setting endBlock) := by
  refine FailsOnly.bind ?_ fun _ => namesSlide_settle setting _
  unfold recordQuestion
  dsimp only
  split
  · exact .ok _
  · exact (namesSlide_located setting _ _).bind fun _ => .ok _

/-- A block is read on the slide that is open or on a new one, after that was closed. Either is
named where it fails. -/
theorem namesSlide_readBlock (place : Block × Nat) :
    NamesSlide setting.file (draft.readBlock setting place) := by
  have opens (endBlock : Nat) : NamesSlide setting.file (draft.nextSlide setting endBlock) :=
    (namesSlide_closeSlide setting draft endBlock).bind fun _ => .ok _
  have reads (draft : Draft W) : NamesSlide setting.file (draft.readPart setting place.1) :=
    namesSlide_readContent setting _ place.1
  unfold readBlock
  dsimp only
  split
  · split
    · exact opens _
    · split
      · exact (opens _).bind fun _ => reads _
      · exact reads _
  · exact reads _

/-- **Reading fails on a slide.** Whatever goes wrong while a file is read goes wrong on a slide of
the file. -/
theorem namesSlide_readFile :
    NamesSlide setting.file (readFile setting : Except (CompileError W) (Draft W)) :=
  (FailsOnly.foldlM (fun draft => namesSlide_readBlock setting draft) _ _).bind fun draft =>
    namesSlide_closeSlide setting draft _

end Draft

end LectureDeck
