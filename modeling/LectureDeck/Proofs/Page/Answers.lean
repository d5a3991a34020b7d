import LectureDeck.Proofs.Deck.Cues
import LectureDeck.Proofs.Outline.Reads
import LectureDeck.Proofs.Page.Pages
import LectureDeck.Proofs.Question.Statement
import LectureDeck.Sheet.Attributes

/-!
# Answers on pages

The kind of a question is decided twice: an answer is shown with it when it is read, and the
question is recorded with it when its slide ends. Both agree, unless the answer states nothing and
the slide presents no choices (`LectureDeck.Compiled.compile_answers`).
-/

namespace LectureDeck

open LectureDeck.Text

def Block.answerText? : Block → Option String
  | .answer content => some content
  | _ => none

/-- The text of the first answer among blocks. -/
def firstAnswer? (blocks : List Block) : Option String := blocks.findSome? Block.answerText?

theorem firstAnswer?_append_cons {before : List Block} (first : before.any Block.isAnswer = false)
    (content : String) (after : List Block) :
    firstAnswer? (before ++ .answer content :: after) = some content := by
  have none : before.findSome? Block.answerText? = none := by
    rw [List.findSome?_eq_none_iff]
    intro block member
    have other := List.any_eq_false.1 first block member
    cases block <;> first | rfl | contradiction
  rw [firstAnswer?, List.findSome?_append, none]
  rfl

namespace Answer

variable {W : Type} [Weight W] {plugins : Plugins} {hasChoices : Bool}

/-- A text that states nothing gives options at most. -/
def isBlank (content : String) : Bool := (trim (cutUnescaped false content.toList).1).isEmpty

/-- An answer establishes no kind if and only if it states nothing. -/
theorem kind_eq_none_iff {content : String} {answer : Answer W}
    (parsed : parse content hasChoices plugins = .ok answer) :
    answer.kind = none ↔ isBlank content = true := by
  obtain ⟨stated, options, states, -, rfl⟩ := exists_of_parse parsed
  rw [kind_eq_none_of_resolve states, unescapeSemicolons_eq_nil, isBlank, List.isEmpty_iff]

end Answer

namespace Question

variable {W : Type} [Weight W]

/-- The piece that shows the answer of a question. -/
def answerPiece (question : Question W) : Piece :=
  .answer question.slideId question.kind.keyword question.correct

/-- A question is on a slide, and in the model and on the sheet of its file. -/
structure IsAskedOn (question : Question W) (model : FileModel W) (slide : Slide) : Prop where
  recorded : question ∈ model.questions
  number : slide.question = some question.number
  onSheet : ∃ entry ∈ (SheetAttributes.ofModel model).questions,
    entry.number = question.number ∧ entry.kind = question.kind.keyword

/-- A piece shows the answer of a question with the kind that is recorded. If the text of the answer
states nothing and there are no choices, it shows a choice where a text is recorded. -/
structure IsShownBy (question : Question W) (content : String) (piece : Piece) : Prop where
  agrees : ¬ (Answer.isBlank content = true ∧ question.choices = 0) → piece = question.answerPiece
  blank : Answer.isBlank content = true → question.choices = 0 → question.kind = .text ∧
    piece = .answer question.slideId QuestionKind.choice.keyword question.correct

omit [Weight W] in
theorem IsShownBy.of_bare {question other : Question W} {content : String} {piece : Piece}
    (shown : question.IsShownBy content piece) (same : other.bare = question.bare) :
    other.IsShownBy content piece := by
  have choices : other.choices = question.choices :=
    (congrArg Question.choices same : other.bare.choices = question.bare.choices)
  have kind : other.kind = question.kind :=
    (congrArg Question.kind same : other.bare.kind = question.bare.kind)
  have piece : other.answerPiece = question.answerPiece :=
    (congrArg answerPiece same : other.bare.answerPiece = question.bare.answerPiece)
  have slideId : other.slideId = question.slideId :=
    (congrArg Question.slideId same : other.bare.slideId = question.bare.slideId)
  have correct : other.correct = question.correct :=
    (congrArg Question.correct same : other.bare.correct = question.bare.correct)
  constructor
  · rw [choices, piece]
    exact shown.agrees
  · rw [choices, kind, slideId, correct]
    exact shown.blank

end Question

namespace Draft

variable {W : Type} [Weight W] {setting : Setting}

/-- The answer that a slide shows is the one that is recorded at its end. -/
theorem isShownBy_questionOf (draft : Draft W) {content : String} {hasChoices : Bool}
    {answer : Answer W} (parsed : Answer.parse content hasChoices setting.plugins = .ok answer) :
    (questionOf setting draft answer).IsShownBy content
      (.answer draft.slide.id (answer.kind.getD .choice).keyword answer.correct) := by
  have blank := Answer.kind_eq_none_iff parsed
  constructor
  · intro states
    have recorded : (answer.kind.getD .choice) = kindOf draft.slide answer := by
      unfold kindOf
      cases established : answer.kind with
      | some kind => rfl
      | none =>
        have chosen : draft.slide.choices.count ≠ 0 :=
          fun none => states ⟨blank.1 established, none⟩
        rw [if_pos (Nat.pos_of_ne_zero chosen)]
    exact recorded ▸ rfl
  · intro isBlank noChoices
    have noChoices : ¬ 0 < draft.slide.choices.count := Nat.not_lt.2 (Nat.le_of_eq noChoices)
    have established := blank.2 isBlank
    constructor
    · change kindOf draft.slide answer = _
      rw [kindOf, established, if_neg noChoices, Option.getD_none]
    · rw [established]
      rfl

theorem exists_of_firstAnswer {plugins : Plugins} {blocks : List Block} {answer : Answer W}
    (first : FirstAnswer plugins blocks (some answer)) : ∃ content hasChoices,
      firstAnswer? blocks = some content ∧
        Answer.parse content hasChoices plugins = .ok answer := by
  cases first with
  | some first parsed => exact ⟨_, _, firstAnswer?_append_cons first _ _, parsed⟩

/-- Every answer in the script of a slide is that of the question on it. -/
theorem exists_question_of_endsAs {blocks : List Block} {questions : List (Question W)}
    {slide : Slide} {script : List Entry}
    (ends : EndsAs setting (fun blocks slide => slide.Tells setting blocks) blocks questions slide
      script) {slideId keyword : String} {correct : Option CorrectAnswer}
    (member : .answer slideId keyword correct ∈ Script.pieces script) :
    ∃ content, firstAnswer? (slide.blocksOf blocks) = some content ∧
      ∃ question ∈ questions, slide.question = some question.number ∧
        question.IsShownBy content (.answer slideId keyword correct) := by
  obtain ⟨-, last, tells, rfl, asked, asks, finishes, recorded⟩ := ends
  have bare := SlideDraft.bare_closeAll last.slide
  have answers := Script.mem_answers_iff.2 member
  rw [tells.scripts_closeAll.2, Option.mem_toList, Option.map_eq_some_iff] at answers
  obtain ⟨answer, answered, same⟩ := answers
  cases same
  obtain ⟨content, hasChoices, first, parsed⟩ := exists_of_firstAnswer (answered ▸ tells.answer)
  -- The question of the slide is the one that its answer gives.
  have shown := isShownBy_questionOf (last.withSlide last.slide.closeAll) parsed
  have asked : asked = some (questionOf setting (last.withSlide last.slide.closeAll) answer) := by
    have kept : last.slide.closeAll.answer = some answer :=
      (SlideDraft.answer_of_bare bare).trans answered
    rw [asks, slideQuestion, answer?]
    change (last.slide.closeAll.answer.or _).map _ = _
    rw [kept]
    rfl
  obtain ⟨question, member, equal⟩ := List.mem_map.1 (recorded _ asked)
  have number : question.number =
      (questionOf setting (last.withSlide last.slide.closeAll) answer).number :=
    (congrArg Question.number equal : question.bare.number = Question.number _)
  refine ⟨content, first, question, member, ?_, ?_⟩
  · rw [finishes, asked, number]
    rfl
  · have id := (SlideDraft.SamePlace.of_bare bare).id
    have shown := shown.of_bare equal
    change question.IsShownBy content (.answer last.slide.closeAll.id _ _) at shown
    rwa [id] at shown

end Draft

namespace Compiled

variable {W : Type} [Weight W] {environment : Environment} {fileNumber : Nat} {name text : String}
  {compiled : Compiled W}

/-- **Answers are shown as they are recorded.** Every answer on the page of a slide is that of the
question of the slide, and is shown with the kind that the model and the sheet have, unless the
first answer of the slide states nothing and no choices are presented. Then a choice is shown where
a text is recorded. -/
theorem compile_answers (compiles : compile environment fileNumber name text = .ok compiled) :
    ∃ setting analysis,
      read environment fileNumber name (Source.ofText text.toList) = .ok (setting, analysis) ∧
      compiled.Presents environment analysis ∧
      List.Forall₂ (fun slide script => ∀ slideId keyword correct,
        .answer slideId keyword correct ∈ Script.pieces script →
          ∃ content, firstAnswer? (slide.blocksOf setting.outline.blocks) = some content ∧
            ∃ question : Question W, question.IsAskedOn compiled.model slide ∧
              question.IsShownBy content (.answer slideId keyword correct))
        compiled.model.slides analysis.scripts := by
  obtain ⟨setting, analysis, found, rfl⟩ := ofSource_eq_ok_iff.1 compiles
  obtain ⟨draft, _, reads, rfl⟩ := exists_readFile_of_read found
  refine ⟨setting, _, found, presents_of_read found, ?_⟩
  refine ((Draft.kept_tells setting).of_readFile reads).imp fun slide script ends => ?_
  intro slideId keyword correct member
  obtain ⟨content, first, question, recorded, number, shown⟩ :=
    Draft.exists_question_of_endsAs ends member
  refine ⟨content, first, question, ⟨recorded, number, ?_⟩, shown⟩
  exact ⟨.ofQuestion question, List.mem_map_of_mem recorded, rfl, rfl⟩

/-- A question with an answer that states what is given. -/
def questionAnswered (answer : String) : String := "What?\n\nAnswer:" ++ answer ++ "\n"

/-- A number is shown as it is recorded. -/
theorem compile_answers_number : ∃ compiled : Compiled Float,
    compile .plain 1 "a" (questionAnswered " 2; weight=3") = .ok compiled ∧
      ∃ slide ∈ compiled.model.slides, ∃ question : Question Float,
        question.IsAskedOn compiled.model slide ∧ question.kind.keyword = "number" := by
  have seen : (Compiled.read (W := Float) .plain 1 "a"
      (Source.ofText (questionAnswered " 2; weight=3").toList)).toOption.any (fun reading =>
        ∃ page ∈ reading.2.model.slides.zip reading.2.scripts,
          firstAnswer? (page.1.blocksOf reading.1.outline.blocks) = some "2; weight=3" ∧
          ∃ answer ∈ Script.answers page.2, answer.2.1 = "number") = true := by
    unfold read findSetting
    rw [Outline.ofSource_eq_within 20 (by decide +kernel)]
    decide +kernel
  obtain ⟨⟨setting, analysis⟩, found, holds⟩ := exists_of_any seen
  obtain ⟨⟨slide, script⟩, page, first, ⟨slideId, keyword, correct⟩, member, rfl⟩ :=
    of_decide_eq_true holds
  have compiles : compile .plain 1 "a" (questionAnswered " 2; weight=3") =
      .ok (present .plain 1 "a" _ (setting, analysis)) :=
    ofSource_eq_ok_iff.2 ⟨setting, analysis, found, rfl⟩
  obtain ⟨_, _, again, _, each⟩ := compile_answers compiles
  obtain ⟨rfl, rfl⟩ := Prod.mk.inj (Except.ok.inj (again.symm.trans found))
  obtain ⟨content, same, question, asked, shown⟩ :=
    List.forall₂_zip each page slideId "number" correct (Script.mem_answers_iff.1 member)
  cases first.symm.trans same
  have piece := shown.agrees fun blank => absurd blank.1 (by decide)
  refine ⟨_, compiles, slide, (List.of_mem_zip page).1, question, asked, ?_⟩
  exact (Piece.answer.inj piece).2.1.symm

/-- An empty answer is shown as that of a choice, but a text is recorded. -/
theorem blankAnswer_shown_as_choice : ∃ compiled : Compiled Float,
    compile .plain 1 "a" (questionAnswered "") = .ok compiled ∧
      (∃ page ∈ compiled.document.slides, Fragment.markup
        (Piece.answerMarkup compiled.options.strip page.id "choice" none) ∈ page.fragments) ∧
      compiled.model.questions.map (fun question => (question.slide, question.kind.keyword)) =
        [(1, "text")] := by
  have seen : (read (W := Float) .plain 1 "a"
      (Source.ofText (questionAnswered "").toList)).toOption.any (fun reading =>
        let compiled := present .plain 1 "a" (Source.ofText (questionAnswered "").toList) reading
        (∃ page ∈ compiled.document.slides, Fragment.markup
          (Piece.answerMarkup compiled.options.strip page.id "choice" none) ∈ page.fragments) ∧
        compiled.model.questions.map (fun question => (question.slide, question.kind.keyword)) =
          [(1, "text")]) = true := by
    unfold read findSetting
    rw [Outline.ofSource_eq_within 20 (by decide +kernel)]
    decide +kernel
  obtain ⟨⟨setting, analysis⟩, found, holds⟩ := exists_of_any seen
  exact ⟨_, ofSource_eq_ok_iff.2 ⟨setting, analysis, found, rfl⟩, of_decide_eq_true holds⟩

end Compiled

end LectureDeck
