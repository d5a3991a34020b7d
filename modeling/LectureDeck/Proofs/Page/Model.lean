import LectureDeck.Proofs.Deck.Consistency
import LectureDeck.Proofs.Deck.Questions
import LectureDeck.Proofs.Outline.Reads
import LectureDeck.Proofs.Page.Pages

/-!
# Models of compiled files

The model of a file that compiles is consistent (`LectureDeck.Compiled.compile_consistent`): slides
and questions are numbered, a slide knows its question and the question its slide, the ledger holds
the totals of the weights, and whatever names a slide names one that there is. Every question is
well formed (`LectureDeck.Compiled.compile_questions`), in whatever order its parts stand on its
slide.
-/

namespace LectureDeck

open LectureDeck.Text

namespace Compiled

variable {W : Type} [Weight W] {environment : Environment} {fileNumber : Nat} {name text : String}
  {compiled : Compiled W}

/-- A file whose model is consistent. -/
structure IsConsistent (compiled : Compiled W) (name : String) (fileNumber : Nat) : Prop where
  numbers : compiled.model.slides.map Slide.number = List.range' 1 compiled.model.slides.length
  ids : ∀ slide ∈ compiled.model.slides, slide.id = slideId fileNumber slide.number
  questions :
    compiled.model.questions.map Question.number = List.range' 1 compiled.model.questions.length
  increasing : (compiled.model.questions.map Question.slide).Pairwise (· < ·)
  asked : ∀ slide ∈ compiled.model.slides, ∀ number, slide.question = some number ↔
    ∃ question ∈ compiled.model.questions,
      question.number = number ∧ question.slide = slide.number
  asks : ∀ question ∈ compiled.model.questions, ∃ slide ∈ compiled.model.slides,
    slide.number = question.slide ∧ slide.id = question.slideId
  scores : Ledger.Accumulates compiled.model.ledger.scores
    (compiled.model.questions.map Question.weight)
  /-- A question without a grade weight adds zero. -/
  grades : Ledger.Accumulates compiled.model.ledger.grades
    (compiled.model.questions.map fun question => question.gradeWeight.getD Weight.zero)
  /-- An index knows the slides that have tags, in order. -/
  occurrences : compiled.occurrences = compiled.model.slides.filterMap fun slide =>
    if slide.tags.isEmpty then none
    else some ⟨name, slide.number, slide.id, slide.header.getD "", slide.tags, slide.question⟩
  sections : ∀ entry ∈ compiled.model.sections, ∃ slide ∈ compiled.model.slides,
    slide.id = entry.1
  references : ∀ reference ∈ compiled.model.references, ∃ slide ∈ compiled.model.slides,
    slide.number = reference.owningSlide
  pluginUses : ∀ use ∈ compiled.model.pluginUses, ∃ slide ∈ compiled.model.slides,
    slide.number = use.slide
  skips : ∀ question ∈ compiled.model.questions, ∀ skip ∈ question.skip,
    ∃ slide ∈ compiled.model.slides, slide.number = skip.targetSlide

/-- **Models are consistent.** When a file compiles, its slides have the numbers from 1 on and the
identifiers of these, and its questions have the numbers from 1 on and stand on later and later
slides. A slide names the question on it and no other. Both lists of the ledger hold the totals of
the weights, an index knows the slides with tags, and every entry of the sections, every reference,
every use of a plugin and every skip leads to a slide that there is. -/
theorem compile_consistent (compiles : compile environment fileNumber name text = .ok compiled) :
    compiled.IsConsistent name fileNumber := by
  obtain ⟨setting, analysis, found, rfl⟩ := ofSource_eq_ok_iff.1 compiles
  obtain ⟨rfl, rfl, -, -⟩ := setting_of_findSetting (read_eq_ok_iff.1 found).1
  obtain ⟨draft, _, reads, rfl⟩ := exists_readFile_of_read found
  obtain ⟨agrees, points⟩ := Draft.isConsistent_of_readFile reads
  have ledger := agrees.listed.ledger
  -- A number of a slide is the number of a slide that there is.
  have exists_slide {number : Nat} (inside : number ∈ List.range' 1 draft.file.slides.length) :
      ∃ slide ∈ draft.file.slides, slide.number = number := by
    rw [← agrees.numbers] at inside
    exact List.mem_map.1 inside
  constructor
  · exact agrees.numbers
  · exact agrees.ids
  · exact agrees.listed.numbers
  · exact agrees.listed.sorted
  · exact agrees.asked
  · intro question member
    have positive := agrees.positive question member
    have ended := agrees.listed.ended question member
    obtain ⟨slide, known, same⟩ := exists_slide (List.mem_range'_1.2 ⟨positive, by omega⟩)
    refine ⟨slide, known, same, ?_⟩
    rw [agrees.ids slide known, agrees.slideIds question member, same]
  · change Ledger.Accumulates draft.file.ledger.scores (draft.file.questions.map Question.weight)
    rw [ledger]
    exact Ledger.accumulates_sums _
  · change Ledger.Accumulates draft.file.ledger.grades (draft.file.questions.map Question.grade)
    rw [ledger]
    exact Ledger.accumulates_sums _
  · exact agrees.occurrences
  · intro entry member
    obtain ⟨number, inside, same⟩ := points.sections entry member
    obtain ⟨slide, known, rfl⟩ := exists_slide inside
    exact ⟨slide, known, (agrees.ids slide known).trans same.symm⟩
  · exact fun reference member => exists_slide (points.references reference member)
  · exact fun use member => exists_slide (points.uses use member)
  · exact fun question member skip told => exists_slide (points.skips question member skip told)

/-- Two sections. The first has tags and a question, from which a link leads to the second. -/
def twoSections : String :=
  "## One\n\nTags: first\n\n[go](#Two)\n\nAnswer: 5\n\n---\n\n## Two\n"

theorem compile_consistent_twoSections : ∃ compiled : Compiled Float,
    compile .plain 1 "a" twoSections = .ok compiled ∧ compiled.IsConsistent "a" 1 ∧
      compiled.model.slides.map Slide.question = [some 1, none] ∧
      compiled.model.sections.map Prod.fst = ["slidoc01-01", "slidoc01-02"] ∧
      compiled.occurrences.map Occurrence.question = [some 1] ∧
      compiled.model.questions.map (fun question => question.skip.map Skip.targetSlide) =
        [some 2] := by
  have seen : (read (W := Float) .plain 1 "a" (Source.ofText twoSections.toList)).toOption.any
      (fun reading =>
        reading.2.model.slides.map Slide.question = [some 1, none] ∧
        reading.2.model.sections.map Prod.fst = ["slidoc01-01", "slidoc01-02"] ∧
        reading.2.occurrences.map Occurrence.question = [some 1] ∧
        reading.2.model.questions.map (fun question => question.skip.map Skip.targetSlide) =
          [some 2]) = true := by
    unfold read findSetting
    rw [Outline.ofSource_eq_within 40 (by decide +kernel)]
    decide +kernel
  obtain ⟨⟨setting, analysis⟩, found, holds⟩ := exists_of_any seen
  have compiles : compile .plain 1 "a" twoSections =
      .ok (present .plain 1 "a" _ (setting, analysis)) :=
    ofSource_eq_ok_iff.2 ⟨setting, analysis, found, rfl⟩
  exact ⟨_, compiles, compile_consistent compiles, of_decide_eq_true holds⟩

/-- **Questions are well formed.** When a file compiles, each question presents choices if and only
if it is a choice or a multiple choice. Letters are correct for these only, are some of those
presented, and are several only for a multiple choice. A number is correct only where one is asked
for, and further versions are of choices that are presented. If a plugin decides, the slide embeds
it, and no other plugin is asked. -/
theorem compile_questions (compiles : compile environment fileNumber name text = .ok compiled) :
    ∀ question ∈ compiled.model.questions, ∃ slide ∈ compiled.model.slides,
      slide.number = question.slide ∧ question.IsWellFormed slide.plugins := by
  obtain ⟨setting, analysis, found, rfl⟩ := ofSource_eq_ok_iff.1 compiles
  obtain ⟨draft, _, reads, rfl⟩ := exists_readFile_of_read found
  exact Draft.asksWell_of_readFile reads

/-- An answer of two letters, before the choices that they name. -/
def answerThenChoices : String :=
  "Answer: multichoice=AB\n\nWhich?\n\nA.. one\nB.. two\nC.. three\n"

theorem compile_questions_answerThenChoices : ∃ compiled : Compiled Float,
    compile .plain 1 "a" answerThenChoices = .ok compiled ∧
      compiled.model.questions.map Question.kind = [.multichoice] ∧
      compiled.model.questions.map Question.choices = [3] ∧
      ∀ question ∈ compiled.model.questions, ∃ slide ∈ compiled.model.slides,
        slide.number = question.slide ∧ question.IsWellFormed slide.plugins := by
  have seen : (read (W := Float) .plain 1 "a"
      (Source.ofText answerThenChoices.toList)).toOption.any (fun reading =>
        reading.2.model.questions.map Question.kind = [.multichoice] ∧
        reading.2.model.questions.map Question.choices = [3]) = true := by
    unfold read findSetting
    rw [Outline.ofSource_eq_within 20 (by decide +kernel)]
    decide +kernel
  obtain ⟨⟨setting, analysis⟩, found, holds⟩ := exists_of_any seen
  obtain ⟨kinds, choices⟩ := of_decide_eq_true holds
  have compiles : compile .plain 1 "a" answerThenChoices =
      .ok (present .plain 1 "a" _ (setting, analysis)) :=
    ofSource_eq_ok_iff.2 ⟨setting, analysis, found, rfl⟩
  exact ⟨_, compiles, kinds, choices, compile_questions compiles⟩

end Compiled

end LectureDeck
