import LectureDeck.Proofs.Deck.Lasting
import LectureDeck.Proofs.Question.Statement

/-!
# Questions that slides ask

Choices, answers and plugins may stand on a slide in any order. Whatever the order, what a slide has
of its question fits together while it is read (`LectureDeck.SlideDraft.AsksWell`), and every
question that is recorded when a slide ends is well formed
(`LectureDeck.Draft.asksWell_of_readFile`).
-/

namespace LectureDeck

section Choices

variable {choices after : Choices}

theorem Choices.mem_letters {letter : Char} :
    letter ∈ choices.letters ↔ ∃ count < choices.count, Choices.letter count = letter := by
  simp [letters]

/-- Further versions are of choices that were presented, whatever is presented next. -/
theorem Choices.mem_letters_of_present {multiplicity alternative : Bool} {found : Char}
    (inside : ∀ letter ∈ choices.alternatives, letter ∈ choices.letters)
    (presented : choices.present multiplicity found alternative = .ok after) :
    ∀ letter ∈ after.alternatives, letter ∈ after.letters := by
  unfold present at presented
  dsimp only at presented
  split at presented
  · split at presented
    · contradiction
    · cases presented
      exact inside
  split at presented
  · cases presented
    intro letter member
    obtain ⟨count, below, same⟩ := mem_letters.1 (inside letter member)
    exact mem_letters.2 ⟨count, Nat.lt_succ_of_lt below, same⟩
  split at presented
  · rename_i again
    simp only [Bool.and_eq_true, decide_eq_true_eq] at again
    obtain ⟨⟨-, some⟩, last⟩ := again
    split at presented
    · cases presented
      refine List.forall_mem_append.2 ⟨inside, List.forall_mem_singleton.2 ?_⟩
      exact mem_letters.2 ⟨choices.count - 1, Nat.sub_one_lt_of_lt some, last.symm⟩
    · contradiction
  · contradiction

end Choices

namespace Question

variable {W : Type}

/-- The letters of the choices that a question presents. -/
def letters (question : Question W) : List Char :=
  (List.range question.choices).map Choices.letter

/-- A question whose parts fit together, given the plugins that its slide embeds. -/
structure IsWellFormed (plugins : List String) (question : Question W) : Prop where
  choices : 0 < question.choices ↔ question.kind.isChoice = true
  /-- Letters are the answer to a choice, and several are the answer to a multiple choice. -/
  correct : ∀ letters, question.correct = some (.choices letters) →
    question.kind.isChoice = true ∧ letters ≠ [] ∧ (∀ letter ∈ letters, letter ∈ question.letters) ∧
      (1 < letters.length → question.kind = .multichoice)
  number : ∀ value error, question.correct = some (.number value error) →
    question.kind = .number
  alternatives : ∀ letter ∈ question.alternatives, letter ∈ question.letters
  embeds : ∀ name arguments, question.kind = .plugin name arguments → name ∈ plugins
  decides : ∀ name arguments, question.kind = .plugin name arguments →
    ∀ other action argument, question.correct = some (.plugin other action argument) →
      other = name

end Question

/-- What a slide has of its question so far fits together. -/
structure SlideDraft.AsksWell {W : Type} (slide : SlideDraft W) : Prop where
  sound : ∀ answer ∈ slide.answer, answer.IsSound
  agrees : 0 < slide.choices.count →
    ∀ answer ∈ slide.answer, ∀ kind ∈ answer.kind, kind.isChoice = true
  alternatives : ∀ letter ∈ slide.choices.alternatives, letter ∈ slide.choices.letters

theorem SlideDraft.AsksWell.of_same {W : Type} {slide after : SlideDraft W}
    (well : slide.AsksWell) (answer : after.answer = slide.answer)
    (choices : after.choices = slide.choices) : after.AsksWell where
  sound := answer ▸ well.sound
  agrees := by
    rw [choices, answer]
    exact well.agrees
  alternatives := choices ▸ well.alternatives

theorem SlideDraft.asksWell_start {W : Type} (fileNumber number firstBlock : Nat) :
    (start fileNumber number firstBlock : SlideDraft W).AsksWell where
  sound := fun _ given => nomatch given
  agrees := fun _ _ given => nomatch given
  alternatives := fun _ member => absurd member List.not_mem_nil

namespace Draft

variable {W : Type} [Weight W] {setting : Setting} {draft after : Draft W}

/-- Whatever comes next on a slide fits what came before. -/
theorem Move.asksWell (move : Move setting draft after) (well : draft.slide.AsksWell) :
    after.slide.AsksWell := by
  cases move.asks with
  | same answer choices => exact well.of_same answer choices
  | presents marker agrees presented answer =>
    refine ⟨answer ▸ well.sound, fun _ given member kind named => ?_,
      Choices.mem_letters_of_present well.alternatives presented⟩
    rw [answer] at member
    exact agrees kind (Option.bind_eq_some_iff.2 ⟨given, member, named⟩)
  | answers parsed agrees given choices =>
    constructor
    · intro answer member
      cases given.symm.trans member
      exact Answer.isSound_of_parse parsed
    · intro presented answer member
      cases given.symm.trans member
      exact agrees (choices ▸ presented)
    · rw [choices]
      exact well.alternatives

/-- A question of a slide that presents choices alone gives no kind and no correct answer. -/
theorem cases_of_answer? {slide : SlideDraft W} {answer : Answer W}
    (asked : answer? slide = some answer) : slide.answer = some answer ∨
      (0 < slide.choices.count ∧ answer = ⟨none, none, none, AnswerOptions.initial⟩) := by
  rcases Option.or_eq_some_iff.1 asked with given | ⟨-, made⟩
  · exact .inl given
  · split at made
    · rename_i presented
      exact .inr ⟨presented, (Option.some.inj made).symm⟩
    · contradiction

omit [Weight W] in
/-- A slide ends only with the plugin its question requires. -/
theorem embeds_of_checkAnswer {slide : SlideDraft W} {answer : Answer W} {kind : QuestionKind}
    (checked : checkAnswer slide answer kind = .ok ()) :
    ∀ plugin ∈ answer.requiredPlugin, plugin ∈ slide.embeds := by
  intro plugin required
  unfold checkAnswer at checked
  rw [required] at checked
  -- The plugin is checked last, whatever the kind and whatever choices are correct.
  have embedded : slide.embeds.contains plugin = true := by
    by_contra missing
    simp only [Bool.eq_false_iff.2 missing, Bool.not_false, if_true] at checked
    repeat' split at checked
    all_goals simp [bind, Except.bind] at checked
  exact List.contains_iff_mem.1 embedded

omit [Weight W] in
/-- A slide ends with a choice question only where every correct choice is presented. -/
theorem presents_of_checkAnswer {slide : SlideDraft W} {answer : Answer W} {kind : QuestionKind}
    (checked : checkAnswer slide answer kind = .ok ()) (isChoice : kind.isChoice = true) :
    0 < slide.choices.count ∧ ∀ letters, answer.correct = some (.choices letters) →
      ∀ letter ∈ letters, letter ∈ slide.choices.letters := by
  unfold checkAnswer at checked
  rw [if_pos isChoice] at checked
  dsimp only at checked
  split at checked
  · obtain ⟨_, refused, _⟩ := bind_eq_ok.1 checked
    cases refused
  rename_i some
  refine ⟨Nat.pos_of_ne_zero some, fun letters given letter member => ?_⟩
  rw [given] at checked
  dsimp only at checked
  split at checked
  · obtain ⟨_, refused, _⟩ := bind_eq_ok.1 checked
    cases refused
  rename_i every
  have none := Option.eq_none_iff_forall_ne_some.2 every
  have inside := List.find?_eq_none.1 none letter member
  simpa using inside

/-- The question of a slide that ends is well formed. -/
theorem isWellFormed_questionOf (well : draft.slide.AsksWell) {answer : Answer W}
    (asked : answer? draft.slide = some answer)
    (checked : checkAnswer draft.slide answer (kindOf draft.slide answer) = .ok ()) :
    (questionOf setting draft answer).IsWellFormed draft.slide.embeds := by
  have presents := presents_of_checkAnswer checked
  obtain ⟨sound, agrees⟩ : answer.IsSound ∧
      (0 < draft.slide.choices.count → ∀ kind ∈ answer.kind, kind.isChoice = true) := by
    rcases cases_of_answer? asked with given | ⟨-, rfl⟩
    · exact ⟨well.sound answer given, fun presented => well.agrees presented answer given⟩
    · exact ⟨⟨nofun, nofun, nofun⟩, nofun⟩
  -- A kind that the answer establishes is the kind of the question.
  have established {kind : QuestionKind} (named : answer.kind = some kind) :
      kindOf draft.slide answer = kind := by rw [kindOf, named, Option.getD_some]
  have plugin {name arguments : String}
      (decided : kindOf draft.slide answer = .plugin name arguments) :
      answer.kind = some (.plugin name arguments) := by
    cases named : answer.kind with
    | some kind => rw [← established named, decided]
    | none =>
      rw [kindOf, named, Option.getD_none] at decided
      split at decided <;> contradiction
  refine ⟨⟨fun presented => ?_, fun isChoice => (presents isChoice).1⟩, ?_, ?_, well.alternatives,
    fun name arguments decided => ?_, fun name arguments decided => ?_⟩
  · cases named : answer.kind with
    | some kind =>
      have isChoice := agrees presented kind named
      rwa [← established named] at isChoice
    | none =>
      have choice : kindOf draft.slide answer = .choice := by
        rw [kindOf, named, Option.getD_none]
        exact if_pos presented
      exact congrArg QuestionKind.isChoice choice
  · intro letters given
    obtain ⟨some, kind, named, isChoice, single⟩ := sound.choices letters given
    have same := established named
    rw [← same] at isChoice single
    exact ⟨isChoice, some, (presents isChoice).2 letters given, single⟩
  · intro value error given
    exact established (sound.number value error given)
  · exact embeds_of_checkAnswer checked name (sound.plugin name arguments (plugin decided)).1
  · exact (sound.plugin name arguments (plugin decided)).2

/-- Every question is on a slide that has ended, and is well formed there. -/
def AsksWellOn (file : FileDraft W) : Prop :=
  ∀ question ∈ file.questions, ∃ slide ∈ file.slides,
    slide.number = question.slide ∧ question.IsWellFormed slide.plugins

omit [Weight W] in
theorem AsksWellOn.of_sameSlides {file later : FileDraft W} (well : AsksWellOn file)
    (same : file.SameSlides later) : AsksWellOn later := by
  intro question member
  obtain ⟨other, known, equal⟩ := same.exists_mem member
  obtain ⟨slide, ended, number, formed⟩ := well other known
  rw [same.slides, equal]
  exact ⟨slide, ended, number, ⟨formed.choices, formed.correct, formed.number,
    formed.alternatives, formed.embeds, formed.decides⟩⟩

/-- The question of a slide that ends is recorded with it. -/
theorem AsksWellOn.of_closeSlide (well : AsksWellOn draft.file) (asks : draft.slide.AsksWell)
    {endBlock : Nat} (closed : draft.closeSlide setting endBlock = .ok after) :
    AsksWellOn after.file := by
  have checked := checkAnswer_of_closeSlide closed
  obtain ⟨question, warnings, asked, settled⟩ := exists_of_closeSlide closed
  refine AsksWellOn.of_sameSlides ?_ (stays_of_settle settled).file
  intro recorded member
  rw [withEnded] at member ⊢
  dsimp only at member ⊢
  rw [record_questions] at member
  rw [record_slides, record_slide]
  rcases List.mem_append.1 member with earlier | last
  · obtain ⟨slide, ended, same⟩ := well recorded earlier
    exact ⟨slide, List.mem_append_left _ ended, same⟩
  · have bare := SlideDraft.bare_closeAll draft.slide
    have asks : draft.slide.closeAll.AsksWell :=
      asks.of_same (SlideDraft.answer_of_bare bare) (SlideDraft.choices_of_bare bare)
    rw [Option.mem_toList, asked] at last
    obtain ⟨answer, given, rfl⟩ := Option.map_eq_some_iff.1 last
    exact ⟨_, List.mem_append_right _ (List.mem_singleton_self _), rfl,
      isWellFormed_questionOf asks given (checked answer given)⟩

theorem lasting_asksWell (setting : Setting) :
    Lasting setting (fun draft : Draft W => draft.slide.AsksWell ∧ AsksWellOn draft.file)
      AsksWellOn where
  start := ⟨SlideDraft.asksWell_start _ _ _, fun _ member => absurd member List.not_mem_nil⟩
  move := fun move ⟨asks, well⟩ => ⟨move.asksWell asks, well.of_sameSlides move.stays.file⟩
  turned := by
    rintro draft block ⟨asks, well⟩
    obtain ⟨script, same⟩ := exists_turned_eq draft block
    rw [same]
    exact ⟨asks.of_same rfl rfl, well⟩
  noteContent := fun _ ⟨asks, well⟩ => ⟨asks.of_same rfl rfl, well⟩
  close := fun closed ⟨asks, well⟩ => well.of_closeSlide asks closed
  next := fun _ well => ⟨SlideDraft.asksWell_start _ _ _, well⟩

/-- **Questions are well formed** in a file that is read to its end. -/
theorem asksWell_of_readFile (read : readFile setting = .ok after) : AsksWellOn after.file :=
  (lasting_asksWell setting).of_readFile read

end Draft

end LectureDeck
