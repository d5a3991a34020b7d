import LectureDeck.Proofs.Deck.Frame

/-!
# Ends of slides

What the end of a slide does to a file: it records the question of the slide
(`LectureDeck.Draft.recordQuestion_eq`), adds the slide and its script, and settles the forward
links that can be settled (`LectureDeck.Draft.exists_closeSlide_eq`). A block that is read may end
the slide before it (`LectureDeck.Draft.BlockRead`).
-/

namespace LectureDeck

namespace Draft

variable {W : Type} {setting : Setting} {draft after : Draft W}

/-- Calls without their plugins only cause warnings. -/
theorem exists_warnOfCalls_eq (setting : Setting) (draft : Draft W) :
    ∃ warnings, warnOfCalls setting draft =
      { draft with file := { draft.file with warnings := warnings } } := by
  unfold warnOfCalls
  generalize (distinct draft.slide.calls).filter _ = plugins
  induction plugins generalizing draft with
  | nil => exact ⟨draft.file.warnings, rfl⟩
  | cons plugin rest later =>
    obtain ⟨warnings, same⟩ := later (warn setting draft (.missingEmbed plugin))
    exact ⟨warnings, same⟩

variable [Weight W]

/-- The question of a slide, given its answer. -/
def questionOf (setting : Setting) (draft : Draft W) (answer : Answer W) : Question W where
  number := draft.file.ledger.size + 1
  slide := draft.slide.number
  slideId := draft.slide.id
  kind := kindOf draft.slide answer
  correct := answer.correct
  weight := answer.options.weight
  gradeWeight := answer.options.gradeWeight
  voteWeight := answer.options.voteWeight
  settings := answer.options.settings
  retry := answer.options.retry
  hints := draft.slide.hints
  digest := digest (slideText setting draft.slide.number)
  choices := draft.slide.choices.count
  alternatives := draft.slide.choices.alternatives
  skip := none

/-- The question of the slide, if it has an answer or choices. -/
def slideQuestion (setting : Setting) (draft : Draft W) : Option (Question W) :=
  (answer? draft.slide).map (questionOf setting draft)

/-- The draft with the question of its slide recorded, if there is one. -/
def record (draft : Draft W) : Option (Question W) → Draft W
  | none => draft
  | some question => { draft with file := { draft.file with
      ledger := draft.file.ledger.push draft.slide.number question.weight question.gradeWeight
      questions := draft.file.questions ++ [question] } }

/-- A question is recorded in the file. The slide stays as it is. -/
theorem record_slide (draft : Draft W) (question : Option (Question W)) :
    (draft.record question).slide = draft.slide := by cases question <;> rfl

/-- Recording a question adds no slide. -/
theorem record_slides (draft : Draft W) (question : Option (Question W)) :
    (draft.record question).file.slides = draft.file.slides := by cases question <;> rfl

/-- Recording a question adds no script. -/
theorem record_scripts (draft : Draft W) (question : Option (Question W)) :
    (draft.record question).file.scripts = draft.file.scripts := by cases question <;> rfl

/-- Recording a question adds no occurrence of concepts. -/
theorem record_occurrences (draft : Draft W) (question : Option (Question W)) :
    (draft.record question).file.occurrences = draft.file.occurrences := by cases question <;> rfl

/-- A question that is recorded comes after those of earlier slides. -/
theorem record_questions (draft : Draft W) (question : Option (Question W)) :
    (draft.record question).file.questions = draft.file.questions ++ question.toList := by
  cases question with
  | none => exact (List.append_nil _).symm
  | some question => rfl

/-- The question of a slide is recorded after those before it, if its answer is right. -/
theorem recordQuestion_eq (setting : Setting) (draft : Draft W) :
    draft.recordQuestion setting = (do
      (answer? draft.slide).elim (.ok ()) fun answer =>
        located setting draft (checkAnswer draft.slide answer (kindOf draft.slide answer))
      return (draft.record (draft.slideQuestion setting),
        (draft.slideQuestion setting).map Question.number)) := by
  unfold recordQuestion slideQuestion
  dsimp only
  cases answer? draft.slide with
  | none => rfl
  | some answer =>
    have size : (draft.file.ledger.push draft.slide.number answer.options.weight
        answer.options.gradeWeight).size = draft.file.ledger.size + 1 := by
      simp [Ledger.push, Ledger.size]
    dsimp only
    rw [size]
    rfl

/-- A file with one more slide, which has a question or not. -/
def withEnded (setting : Setting) (draft : Draft W) (question : Option Nat) (endBlock : Nat)
    (warnings : List Warning) : Draft W :=
  { draft with file := { draft.file with
      occurrences := draft.file.occurrences ++ occurrences setting draft.slide question
      scripts := draft.file.scripts ++ [draft.slide.script]
      slides := draft.file.slides ++ [finished draft.slide question endBlock]
      forward := draft.file.forward.closeSlide (draft.file.slides.length + 1) question
      warnings := warnings } }

/-- A slide that ends is closed, its question is recorded, the slide is added to the file, and the
forward links are settled. -/
theorem exists_closeSlide_eq (setting : Setting) (draft : Draft W) (endBlock : Nat) :
    ∃ warnings : Draft W → List Warning, draft.closeSlide setting endBlock = (do
      let (recorded, question) ← recordQuestion setting (draft.withSlide draft.slide.closeAll)
      settle setting (recorded.withEnded setting question endBlock (warnings recorded))) := by
  choose warnings same using exists_warnOfCalls_eq (W := W) setting
  refine ⟨warnings, ?_⟩
  unfold closeSlide
  refine bind_congr fun ⟨recorded, question⟩ => ?_
  dsimp only
  rw [same]
  rfl

/-- A slide that is closed records the question that it has with everything on it closed, and
settles links after the slide was added. -/
theorem exists_of_closeSlide {endBlock : Nat}
    (closed : draft.closeSlide setting endBlock = .ok after) : ∃ question warnings,
      question = (draft.withSlide draft.slide.closeAll).slideQuestion setting ∧
        settle setting (((draft.withSlide draft.slide.closeAll).record question).withEnded setting
          (question.map Question.number) endBlock warnings) = .ok after := by
  obtain ⟨warnings, same⟩ := exists_closeSlide_eq setting draft endBlock
  rw [same, bind_eq_ok] at closed
  obtain ⟨recorded, records, settled⟩ := closed
  rw [recordQuestion_eq, bind_eq_ok] at records
  obtain ⟨_, _, records⟩ := records
  cases records
  exact ⟨_, _, rfl, settled⟩

/-- A slide that ends is added to the file. -/
theorem exists_slides_of_closeSlide {endBlock : Nat}
    (closed : draft.closeSlide setting endBlock = .ok after) : ∃ question, after.file.slides =
      draft.file.slides ++ [finished draft.slide.closeAll question endBlock] := by
  obtain ⟨question, warnings, _, settled⟩ := exists_of_closeSlide closed
  refine ⟨question.map Question.number, ?_⟩
  rw [(stays_of_settle settled).file.slides, withEnded]
  dsimp only
  rw [record_slides, record_slide]
  rfl

/-- A slide that ends leaves its script. -/
theorem scripts_of_closeSlide {endBlock : Nat}
    (closed : draft.closeSlide setting endBlock = .ok after) :
    after.file.scripts = draft.file.scripts ++ [draft.slide.closeAll.script] := by
  obtain ⟨question, warnings, _, settled⟩ := exists_of_closeSlide closed
  rw [(stays_of_settle settled).file.scripts, withEnded]
  dsimp only
  rw [record_scripts, record_slide]
  rfl

/-- A slide ends only if its answer is right. -/
theorem checkAnswer_of_closeSlide {endBlock : Nat}
    (closed : draft.closeSlide setting endBlock = .ok after) :
    ∀ answer ∈ answer? draft.slide.closeAll, checkAnswer draft.slide.closeAll answer
      (kindOf draft.slide.closeAll answer) = .ok () := by
  obtain ⟨warnings, same⟩ := exists_closeSlide_eq setting draft endBlock
  rw [same, bind_eq_ok] at closed
  obtain ⟨recorded, records, -⟩ := closed
  rw [recordQuestion_eq, bind_eq_ok] at records
  obtain ⟨_, checks, -⟩ := records
  intro answer asked
  have asked : answer? (draft.withSlide draft.slide.closeAll).slide = some answer := asked
  rw [asked] at checks
  exact located_eq_ok.1 checks

/-- The next slide is a new one of the next number, after the one before it was closed. -/
theorem exists_of_nextSlide {endBlock : Nat}
    (opened : draft.nextSlide setting endBlock = .ok after) :
    ∃ ended, draft.closeSlide setting endBlock = .ok ended ∧
      after = ended.withSlide
        (.start setting.fileNumber (ended.file.slides.length + 1) endBlock) := by
  unfold nextSlide at opened
  simp only [bind_eq_ok, pure_eq_ok] at opened
  obtain ⟨ended, closed, same⟩ := opened
  exact ⟨ended, closed, same.symm⟩

/-- How a block is read: it ends the slide, or it is part of it, perhaps after the slide before it
has ended. -/
inductive BlockRead (setting : Setting) (draft : Draft W) (block : Block) (before : Nat)
    (after : Draft W) : Prop
  | ends (outermost : draft.slide.depth = 0) (ends : block.endsSlide = true)
      (opened : draft.nextSlide setting (before + 1) = .ok after)
  | starts {opened : Draft W} (outermost : draft.slide.depth = 0)
      (within : ¬ block.endsSlide = true)
      (starts : (block.startsSlide && draft.slide.hasContent) = true)
      (next : draft.nextSlide setting before = .ok opened)
      (part : (opened.noteContent block).readPart setting block = .ok after)
  | continues (outermost : draft.slide.depth = 0) (within : ¬ block.endsSlide = true)
      (continues : ¬ (block.startsSlide && draft.slide.hasContent) = true)
      (part : (draft.noteContent block).readPart setting block = .ok after)
  | quoted (inside : ¬ draft.slide.depth = 0)
      (part : draft.readPart setting block = .ok after)

/-- A block that is read is part of the slide, or begins one after the slide before it was closed.
No more than one slide ends with it. -/
theorem blockRead_of_readBlock {block : Block} {before : Nat}
    (read : draft.readBlock setting (block, before) = .ok after) :
    BlockRead setting draft block before after := by
  unfold readBlock at read
  dsimp only at read
  split at read
  · rename_i outermost
    split at read
    · exact .ends outermost ‹_› read
    · split at read
      · obtain ⟨opened, next, part⟩ := bind_eq_ok.1 read
        exact .starts outermost ‹_› ‹_› next part
      · exact .continues outermost ‹_› ‹_› read
  · exact .quoted ‹_› read

end Draft

end LectureDeck
