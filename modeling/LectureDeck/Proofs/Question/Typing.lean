import LectureDeck.Proofs.Question.Changes
import LectureDeck.Proofs.Question.Statement

/-!
# Types of answers

Whatever a text gives as an answer is well typed (`LectureDeck.Answer.isWellTyped_of_parse`): the
correct answer is one that the kind takes, a plugin is required where it decides, and the options
agree with one another.
-/

namespace LectureDeck

namespace AnswerOptions

variable {W : Type} {options after : AnswerOptions W}

/-- The weights that options give. -/
def weights (options : AnswerOptions W) : List W :=
  options.weight :: (options.gradeWeight.toList ++ [options.voteWeight])

theorem mem_weights {weight : W} : weight ∈ options.weights ↔
    weight = options.weight ∨ weight ∈ options.gradeWeight ∨ weight = options.voteWeight := by
  simp [weights, Option.mem_def]

/-- A weight was there before a change, or is set by it. -/
theorem Change.weights_make (change : Change W) (options : AnswerOptions W) :
    ∀ weight ∈ (change.make options).weights,
      weight ∈ options.weights ∨ weight ∈ change.weights := by
  cases change with
  | weigh score grade voting =>
    intro weight given
    rcases mem_weights.1 given with rfl | graded | rfl
    · exact .inr List.mem_cons_self
    · rcases gradeWeight_make (weigh score grade voting) options weight graded with before | set
      · exact .inl (mem_weights.2 (.inr (.inl before)))
      · exact .inr set
    · cases voting with
      | none => exact .inl (mem_weights.2 (.inr (.inr rfl)))
      | some voting => exact .inr (by simp [make, weights])
  | _ => exact fun weight given => .inl given

variable [Weight W]

/-- The weights that options give may be weights of a question. -/
def AreAdmissible (options : AnswerOptions W) : Prop :=
  ∀ weight ∈ options.weights, Weight.admissible weight = true

/-- Options that are read have weights, given that those are weights that stand where none are
given. -/
theorem areAdmissible_of_parse (one : Weight.admissible (Weight.one : W) = true)
    (zero : Weight.admissible (Weight.zero : W) = true) {text : List Char}
    (parsed : parse text = .ok after) : after.AreAdmissible := by
  refine parse_induction ?_ (fun change options sets held => ?_) parsed
  · intro weight given
    rcases mem_weights.1 given with rfl | graded | rfl
    · exact one
    · contradiction
    · exact zero
  · intro weight given
    rcases change.weights_make options weight given with before | set
    · exact held weight before
    · exact sets weight set

end AnswerOptions

namespace Answer

/-- An answer whose parts fit together, and fit the statement that stands before its options. -/
structure IsWellTyped (answer : Answer Float) (statement : List Char) : Prop where
  correct : ∀ correct ∈ answer.correct, ∃ kind ∈ answer.kind, kind.Takes correct
  untyped : answer.kind = none → answer.correct = none ∧ statement = []
  requiredPlugin : ∀ name, answer.requiredPlugin = some name ↔
    ∃ arguments, answer.kind = some (.plugin name arguments)
  weights : ∀ weight ∈ answer.options.weights, weight.isFinite = true ∧ ¬ weight < 0.0
  vote : answer.options.settings.vote.isSome = true → answer.options.settings.share.isSome = true

/-- **Answers are well typed.** A correct answer is one that the kind of the answer takes: one
letter for a choice, letters for a multiple choice, a number, a text that is not empty, and where a
plugin decides, such a text or a request to the same plugin. Without a kind there is no correct
answer, and nothing is stated. A plugin is required if and only if it decides. Weights are finite
and not negative, and votes are shown only where answers are shared. -/
theorem isWellTyped_of_parse {text : String} {hasChoices : Bool} {plugins : Plugins}
    {answer : Answer Float} (parsed : parse text hasChoices plugins = .ok answer) :
    answer.IsWellTyped (Text.trim (cutUnescaped false text.toList).1) := by
  have takes := takes_of_parse parsed
  have requires (name : String) : answer.requiredPlugin = some name ↔
      ∃ arguments, answer.kind = some (.plugin name arguments) := requiredPlugin_of_parse parsed
  obtain ⟨stated, options, states, read, rfl⟩ := exists_of_parse parsed
  refine ⟨takes, ?_, requires, ?_, ?_⟩
  · intro untyped
    refine ⟨?_, unescapeSemicolons_eq_nil.1 ((kind_eq_none_of_resolve states).1 untyped)⟩
    refine Option.eq_none_iff_forall_ne_some.2 fun correct given => ?_
    obtain ⟨kind, named, -⟩ := takes correct given
    exact absurd (named.symm.trans untyped) (Option.some_ne_none kind)
  · intro weight given
    have admissible := AnswerOptions.areAdmissible_of_parse (by decide) (by decide)
      read weight given
    simpa [Weight.admissible, and_comm] using admissible
  · obtain ⟨words, -, -, together⟩ := AnswerOptions.exists_of_parse read
    exact together

/-- Letters that are not in order, with weights and settings. -/
def lettersWithOptions : String := "multichoice=cab; weight=2,1.5 vote=show_live share=never"

theorem isWellTyped_of_parse_letters : ∃ answer : Answer Float,
    parse lettersWithOptions false .empty = .ok answer ∧
      answer.correct.map CorrectAnswer.shown = some "ABC" ∧
      answer.IsWellTyped (Text.trim (cutUnescaped false lettersWithOptions.toList).1) := by
  have seen : (parse (W := Float) lettersWithOptions false .empty).toOption.any (fun answer =>
      answer.correct.map CorrectAnswer.shown = some "ABC") = true := by decide +kernel
  obtain ⟨answer, parsed, shown⟩ := exists_of_any seen
  exact ⟨answer, parsed, of_decide_eq_true shown, isWellTyped_of_parse parsed⟩

end Answer

end LectureDeck
