import LectureDeck.Deck.Draft
import LectureDeck.Proofs.Question.Weights
import Mathlib.Data.List.Nodup
import Mathlib.Data.List.TakeWhile

/-!
# Recorded questions

The questions of a file are listed slide by slide, together with their weights
(`LectureDeck.Listed`). For exact weights the ledger then tells what lies between a question and a
later slide: the weights of the questions on the slides strictly between
(`LectureDeck.Listed.skip?_eq`). They weigh nothing only if none of them does, given that each may
have its grade weight (`LectureDeck.Recorded.isZero_iff`).
-/

namespace LectureDeck

namespace Question

variable {W : Type}

/-- The grade weight of a question, which is zero when it has none. -/
def grade [Weight W] (question : Question W) : W := question.gradeWeight.getD Weight.zero

end Question

section Between

variable {W : Type} [Weight W]

/-- The weight of the questions on the slides strictly between two slides. -/
def weightBetween (weigh : Question W → W) (questions : List (Question W)) (first last : Nat) : W :=
  Weight.sum ((questions.filter fun question =>
    first < question.slide && question.slide < last).map weigh)

/-- Questions after the last slide do not count. -/
theorem weightBetween_concat (weigh : Question W → W) (questions : List (Question W))
    (first : Nat) {last : Nat} {question : Question W} (after : last ≤ question.slide) :
    weightBetween weigh (questions ++ [question]) first last =
      weightBetween weigh questions first last := by
  have outside : (decide (first < question.slide) && decide (question.slide < last)) = false := by
    rw [Bool.and_eq_false_iff]
    exact .inr (decide_eq_false (Nat.not_lt.2 after))
  rw [weightBetween, List.filter_append, List.filter_singleton, outside, cond_false,
    List.append_nil, weightBetween]

end Between

/-- Questions listed slide by slide, with their weights in a ledger. They are on slides before
`slide`. -/
structure Listed {W : Type} [Weight W] (questions : List (Question W)) (ledger : Ledger W)
    (slide : Nat) : Prop where
  numbers : questions.map Question.number = List.range' 1 questions.length
  sorted : (questions.map Question.slide).Pairwise (· < ·)
  ended : ∀ question ∈ questions, question.slide < slide
  ledger : ledger = ⟨Ledger.sums (questions.map Question.weight),
    Ledger.sums (questions.map Question.grade), questions.map Question.slide⟩

/-- Questions listed slide by slide, each with a grade weight that it may have. -/
structure Recorded {W : Type} [Weight W] (questions : List (Question W)) (ledger : Ledger W)
    (slide : Nat) : Prop extends Listed questions ledger slide where
  admissible : ∀ question ∈ questions, Weight.admissible question.grade = true

namespace Listed

variable {W : Type} [Weight W] {questions : List (Question W)} {ledger : Ledger W} {slide : Nat}
  {question : Question W}

theorem nil : Listed ([] : List (Question W)) Ledger.empty slide where
  numbers := rfl
  sorted := List.Pairwise.nil
  ended := fun _ member => absurd member List.not_mem_nil
  ledger := rfl

theorem size (listed : Listed questions ledger slide) : ledger.size = questions.length := by
  rw [listed.ledger, Ledger.size, List.length_map]

/-- A slide without a question ends. -/
theorem later (listed : Listed questions ledger slide) : Listed questions ledger (slide + 1) :=
  ⟨listed.numbers, listed.sorted,
    fun question member => Nat.lt_succ_of_lt (listed.ended question member), listed.ledger⟩

/-- A slide with a question ends. -/
theorem push (listed : Listed questions ledger slide)
    (number : question.number = ledger.size + 1) (on : question.slide = slide) :
    Listed (questions ++ [question])
      (ledger.push slide question.weight question.gradeWeight) (slide + 1) where
  numbers := by
    rw [List.map_append, listed.numbers, List.length_append, List.length_singleton,
      List.range'_concat, List.map_singleton, number, listed.size, Nat.one_mul, Nat.add_comm 1]
  sorted := by
    rw [List.map_append, List.map_singleton]
    refine List.pairwise_append.2 ⟨listed.sorted, List.pairwise_singleton _ _, ?_⟩
    intro earlier member last same
    obtain ⟨other, known, rfl⟩ := List.mem_map.1 member
    rw [List.mem_singleton.1 same, on]
    exact listed.ended other known
  ended := by
    intro other member
    rcases List.mem_append.1 member with earlier | last
    · exact Nat.lt_succ_of_lt (listed.ended other earlier)
    · rw [List.mem_singleton.1 last, on]
      exact Nat.lt_succ_self slide
  ledger := by
    rw [listed.ledger, Ledger.push, List.map_append, List.map_append, List.map_append]
    simp only [List.map_singleton, Ledger.sums_concat, on]
    rfl

/-- A question is told by its number. -/
theorem eq_of_number (listed : Listed questions ledger slide) {other : Question W}
    (first : question ∈ questions) (second : other ∈ questions)
    (same : question.number = other.number) : question = other := by
  have nodup : (questions.map Question.number).Nodup := by
    rw [listed.numbers]
    exact List.nodup_range'
  exact List.inj_on_of_nodup_map nodup first second same

/-- A question is told by its slide. -/
theorem eq_of_slide (listed : Listed questions ledger slide) {other : Question W}
    (first : question ∈ questions) (second : other ∈ questions)
    (same : question.slide = other.slide) : question = other :=
  List.inj_on_of_nodup_map (listed.sorted.imp Nat.ne_of_lt) first second same

/-- The questions before one and after it, and its number. -/
theorem exists_split (listed : Listed questions ledger slide) (member : question ∈ questions) :
    ∃ before after, questions = before ++ question :: after ∧ question.number = before.length + 1 ∧
      questions.filter (fun other => question.slide < other.slide && other.slide < slide) =
        after := by
  obtain ⟨before, after, rfl⟩ := List.append_of_mem member
  refine ⟨before, after, rfl, ?_, ?_⟩
  · have number := congrArg (·[before.length]?) listed.numbers
    simpa [List.getElem?_append_right, Nat.add_comm 1] using number
  · have sorted := listed.sorted
    rw [List.map_append, List.map_cons, List.pairwise_append, List.pairwise_cons] at sorted
    obtain ⟨-, ⟨above, -⟩, below⟩ := sorted
    rw [List.filter_append, List.filter_cons_of_neg (by simp)]
    -- Slides increase: none before the question lies between, and all after it do.
    have none : before.filter (fun other => question.slide < other.slide && other.slide < slide) =
        [] := by
      refine List.filter_eq_nil_iff.2 fun other earlier => ?_
      have lower := below other.slide (List.mem_map_of_mem earlier) question.slide
        List.mem_cons_self
      simp [Nat.not_lt.2 (Nat.le_of_lt lower)]
    have all : after.filter (fun other => question.slide < other.slide && other.slide < slide) =
        after := by
      refine List.filter_eq_self.2 fun other later => ?_
      have higher := above other.slide (List.mem_map_of_mem later)
      have inside := listed.ended other (by simp [later])
      simp [higher, inside]
    rw [none, all, List.nil_append]

theorem questionsBefore_eq (listed : Listed questions ledger slide) :
    ledger.questionsBefore slide = questions.length := by
  have every : ∀ other ∈ questions.map Question.slide, decide (other < slide) = true := by
    intro other member
    obtain ⟨question, known, rfl⟩ := List.mem_map.1 member
    exact decide_eq_true (listed.ended question known)
  rw [Ledger.questionsBefore, listed.ledger]
  dsimp only
  rw [List.takeWhile_eq_self_iff.2 every, List.length_map]

/-- What a ledger has between a question and the end is the weight of the questions on the slides
between. -/
theorem between_eq [ExactWeight W] (listed : Listed questions ledger slide)
    (member : question ∈ questions) (weigh : Question W → W) :
    Ledger.between (Ledger.sums (questions.map weigh)) question.number questions.length =
      weightBetween weigh questions question.slide slide := by
  obtain ⟨before, after, whole, number, between⟩ := listed.exists_split member
  have sums := Ledger.between_sums ((before ++ [question]).map weigh) (after.map weigh)
  rw [← List.map_append, List.append_assoc, List.singleton_append, ← whole, List.length_map,
    List.length_map, List.length_append, List.length_singleton, ← number] at sums
  rw [sums, weightBetween, between]

/-- What a link skips that leads from the slide of a question to the slide that is read. -/
theorem skip?_eq [ExactWeight W] (listed : Listed questions ledger slide)
    (member : question ∈ questions) {link : ForwardLink}
    (origin : link.originSlide = question.slide)
    (number : link.originQuestion = some question.number)
    (target : link.definedAt = some slide) :
    link.skip? ledger =
      if Weight.isZero (weightBetween Question.grade questions question.slide slide) then
        .ok (some (question.number, ⟨slide, slide - question.slide,
          weightBetween Question.weight questions question.slide slide⟩))
      else .error ⟨link.target, question.slide,
        weightBetween Question.grade questions question.slide slide⟩ := by
  have ahead := listed.ended question member
  have grades := listed.between_eq member Question.grade
  have scores := listed.between_eq member Question.weight
  have last := listed.questionsBefore_eq
  rw [listed.ledger] at last ⊢
  rw [ForwardLink.skip?, number, target]
  dsimp only
  rw [origin, if_neg (Nat.not_le.2 ahead), last, grades, scores]

end Listed

namespace Recorded

variable {W : Type} [Weight W] {questions : List (Question W)} {ledger : Ledger W} {slide : Nat}
  {question : Question W}

theorem nil : Recorded ([] : List (Question W)) Ledger.empty slide :=
  ⟨.nil, fun _ member => absurd member List.not_mem_nil⟩

theorem later (recorded : Recorded questions ledger slide) :
    Recorded questions ledger (slide + 1) := ⟨recorded.toListed.later, recorded.admissible⟩

theorem push (recorded : Recorded questions ledger slide)
    (number : question.number = ledger.size + 1) (on : question.slide = slide)
    (admissible : Weight.admissible question.grade = true) :
    Recorded (questions ++ [question])
      (ledger.push slide question.weight question.gradeWeight) (slide + 1) :=
  ⟨recorded.toListed.push number on,
    List.forall_mem_append.2 ⟨recorded.admissible, List.forall_mem_singleton.2 admissible⟩⟩

/-- What lies between two slides weighs nothing for the grade only if none of it does. -/
theorem isZero_iff [ExactWeight W] (recorded : Recorded questions ledger slide) (first last : Nat) :
    Weight.isZero (weightBetween Question.grade questions first last) = true ↔
      ∀ question ∈ questions, first < question.slide → question.slide < last →
        question.grade = Weight.zero := by
  rw [ExactWeight.isZero_iff, weightBetween, Weight.sum_eq_zero_iff]
  · simp only [List.mem_map, List.mem_filter, Bool.and_eq_true, decide_eq_true_eq]
    constructor
    · intro every question member above below
      exact every _ ⟨question, ⟨member, above, below⟩, rfl⟩
    · rintro every _ ⟨question, ⟨member, above, below⟩, rfl⟩
      exact every question member above below
  · intro weight member
    obtain ⟨question, inside, rfl⟩ := List.mem_map.1 member
    exact recorded.admissible question (List.mem_of_mem_filter inside)

end Recorded

end LectureDeck
