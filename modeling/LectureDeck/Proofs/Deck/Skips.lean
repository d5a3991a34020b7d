import LectureDeck.Proofs.Deck.Errors
import LectureDeck.Proofs.Deck.Hearing
import LectureDeck.Proofs.Deck.Landings
import LectureDeck.Proofs.Deck.SlideLoop

/-!
# Skips of a file

A draft that is read onto agrees with what the blocks so far mention
(`LectureDeck.Draft.agrees_of_readBlocks`). So when a file is read to its end, no forward link skips
a grade, and every question tells what a reader may skip from it
(`LectureDeck.Draft.skips_of_readFile`); and when a skip is refused, a link has landed past a grade
(`LectureDeck.Draft.offends_of_readFile`).
-/

namespace LectureDeck

variable {W : Type} [Weight W]

namespace Known

variable {fileNumber : Nat} {mentions : List (Nat × Reference.Mention)} {known : Known W}

/-- Of a file of which nothing is read, nothing is known. -/
theorem agrees_start (fileNumber : Nat) :
    Agrees fileNumber [] (Draft.start fileNumber : Draft W).known where
  table := rfl
  behind := fun _ member => absurd member List.not_mem_nil
  recorded := .nil
  waits := {
    isForward := fun _ member => absurd member List.not_mem_nil
    lands := fun _ member => absurd member List.not_mem_nil
    kept := by
      rintro id slide ⟨before, after, same, -⟩
      simp at same
    closed := fun _ member => absurd member List.not_mem_nil
    question := fun _ member => absurd member List.not_mem_nil
    waiting := fun _ member => absurd member List.not_mem_nil }
  skips := fun _ member => absurd member List.not_mem_nil
  grades := fun _ _ _ _ _ ⟨_, member, _⟩ => absurd member List.not_mem_nil

/-- Mentions heard one after another on the slide. -/
theorem Agrees.hearAll [ExactWeight W] (agrees : known.Agrees fileNumber mentions)
    (heard : List Reference.Mention) :
    (∃ after, heard.foldlM Known.hear known = .ok after ∧ after.slide = known.slide ∧
      after.Agrees fileNumber (mentions ++ heard.map (Prod.mk known.slide))) ∨
    ∃ violation, heard.foldlM Known.hear known = .error violation ∧
      Offends fileNumber (mentions ++ heard.map (Prod.mk known.slide)) known.questions violation
        known.slide := by
  induction heard generalizing known mentions with
  | nil => exact .inl ⟨known, rfl, rfl, by simpa using agrees⟩
  | cons mention rest later =>
    have whole : mentions ++ (mention :: rest).map (Prod.mk known.slide) =
        mentions ++ [(known.slide, mention)] ++ rest.map (Prod.mk known.slide) := by simp
    rw [List.foldlM_cons, whole]
    -- A mention changes of the questions only what they tell, which does not matter to offences.
    rcases agrees.hear mention with
      ⟨middle, hears, slide, bare, agrees⟩ | ⟨violation, refuses, offends⟩
    · have later := later agrees
      rw [slide] at later
      rw [hears]
      rcases later with ⟨after, hears, same, agrees⟩ | ⟨violation, refuses, offends⟩
      · exact .inl ⟨after, hears, same, agrees⟩
      · exact .inr ⟨violation, refuses, offends.of_bare bare.symm⟩
    · exact .inr ⟨violation, by rw [refuses]; rfl, offends.append _⟩

end Known

namespace SlideDraft

/-- The answer on a slide gives a grade weight only if it may be one. -/
def GradesWell (slide : SlideDraft W) : Prop :=
  ∀ answer ∈ slide.answer, answer.options.IsAdmissible

/-- How a slide grades depends on its answer alone. -/
theorem GradesWell.of_answer {slide after : SlideDraft W} (grades : slide.GradesWell)
    (same : after.answer = slide.answer) : after.GradesWell := by
  rwa [GradesWell, same]

/-- What is open and written on a slide does not change how it grades. -/
theorem GradesWell.of_bare {slide after : SlideDraft W} (grades : slide.GradesWell)
    (same : after.bare = slide.bare) : after.GradesWell := grades.of_answer (answer_of_bare same)

end SlideDraft

namespace Draft

variable {setting : Setting} {draft after : Draft W}

/-- Every move keeps weights admissible, because options with others are refused where an answer is
parsed. -/
theorem Move.gradesWell (move : Move setting draft after) (grades : draft.slide.GradesWell) :
    after.slide.GradesWell := by
  cases move.asks with
  | same answer choices => exact grades.of_answer answer
  | presents marker agrees presented answer => exact grades.of_answer answer
  | answers parsed agrees given choices =>
    intro answer same
    cases given.symm.trans same
    exact Answer.isAdmissible_of_parse parsed

/-- Reading a block keeps the grades of answers well. -/
theorem gradesWell_of_readPart (grades : draft.slide.GradesWell) {block : Block}
    (read : draft.readPart setting block = .ok after) : after.slide.GradesWell := by
  have begun : (draft.beforeBlock block).slide.GradesWell :=
    (moves_beforeBlock draft block : Moves setting draft _).preserve
      (fun move grades => move.gradesWell grades) grades
  refine (moves_of_readContent read).preserve (fun move grades => move.gradesWell grades) ?_
  obtain ⟨script, same⟩ := exists_turned_eq (draft.beforeBlock block) block
  rw [same]
  exact begun

/-- The question of a slide has the next number, and weights that the ledger can sum up exactly. -/
theorem fits_slideQuestion [ExactWeight W] (setting : Setting) (grades : draft.slide.GradesWell) :
    ∀ question ∈ draft.slideQuestion setting, draft.known.Fits question := by
  intro question asked
  obtain ⟨answer, answered, rfl⟩ := Option.map_eq_some_iff.1 asked
  have admissible : answer.options.IsAdmissible := by
    rcases Option.or_eq_some_iff.1 answered with given | ⟨-, made⟩
    · exact grades answer given
    · split at made
      · cases made
        exact AnswerOptions.isAdmissible_initial
      · cases made
  refine ⟨rfl, rfl, ?_, rfl⟩
  change Weight.admissible (answer.options.gradeWeight.getD Weight.zero) = true
  cases weighs : answer.options.gradeWeight with
  | none => exact ExactWeight.admissible_zero
  | some weight => exact admissible weight weighs

/-- A draft agrees with what a walk over the blocks so far tells, and with what they mention. -/
structure Agrees (setting : Setting) (walk : SlideWalk) (mentions : List (Nat × Reference.Mention))
    (draft : Draft W) : Prop where
  follows : draft.Follows setting walk
  grades : draft.slide.GradesWell
  known : draft.known.Agrees setting.fileNumber mentions

variable {walk : SlideWalk} {mentions : List (Nat × Reference.Mention)}

/-- The slide that is read has the number that the walk gives it. -/
theorem Agrees.number (agrees : draft.Agrees setting walk mentions) :
    draft.slide.number = walk.ends.length + 1 := by
  rw [agrees.follows.number, agrees.follows.file.slides.length_ends]

section Steps

variable [ExactWeight W]

/-- The end of a slide keeps what is known in agreement with the mentions so far. It refuses no
skip: a link that skips a grade is refused where it lands. -/
theorem Agrees.closeSlide (agrees : draft.Agrees setting walk mentions) (endBlock : Nat) :
    (∀ after, draft.closeSlide setting endBlock = .ok after →
      Known.Agrees setting.fileNumber mentions
        { after.known with slide := draft.known.slide + 1 }) ∧
    ∀ location target weight,
      draft.closeSlide setting endBlock ≠ .error (.gradedSkip location target weight) := by
  have tells := tells_closeSlide setting agrees.follows.number endBlock
  have closed : (draft.withSlide draft.slide.closeAll).slide.GradesWell :=
    agrees.grades.of_bare (SlideDraft.bare_closeAll _)
  have fits := known_closeAll draft ▸ fits_slideQuestion setting closed
  obtain ⟨ended, ends, -, known⟩ := agrees.known.endSlide fits
  constructor
  · intro after succeeds
    cases (tells.ok after succeeds).symm.trans ends
    exact known
  · intro location target weight fails
    cases (tells.error fails rfl).symm.trans ends

/-- The next slide begins in agreement with the walk, and no skip is refused where it begins. -/
theorem Agrees.nextSlide (agrees : draft.Agrees setting walk mentions) (outermost : walk.depth = 0)
    (endBlock : Nat) :
    (∀ after, draft.nextSlide setting endBlock = .ok after →
      after.Agrees setting (walk.endSlide endBlock) mentions) ∧
    ∀ location target weight,
      draft.nextSlide setting endBlock ≠ .error (.gradedSkip location target weight) := by
  obtain ⟨closes, never⟩ := agrees.closeSlide endBlock
  constructor
  · intro after opened
    have follows := agrees.follows.of_nextSlide outermost opened
    obtain ⟨ended, closed, rfl⟩ := exists_of_nextSlide opened
    refine ⟨follows, fun _ same => (nomatch same), ?_⟩
    have known := closes ended closed
    have slides := (agrees.follows.of_closeSlide closed).slides.length_ends
    rw [List.length_append, List.length_singleton] at slides
    have number : ended.file.slides.length + 1 = draft.known.slide + 1 := by
      rw [← slides]
      exact congrArg (· + 1) agrees.number.symm
    change Known.Agrees _ _ { ended.known with slide := ended.file.slides.length + 1 }
    rw [number]
    exact known
  · intro location target weight fails
    unfold Draft.nextSlide at fails
    rcases bind_eq_error.1 fails with fails | ⟨_, _, fails⟩
    · exact never location target weight fails
    · cases fails

omit [ExactWeight W] in
/-- Noting that a slide has content mentions nothing. -/
theorem Agrees.noteContent (agrees : draft.Agrees setting walk mentions) (block : Block) :
    (draft.noteContent block).Agrees setting
      { walk with hasContent := walk.hasContent || block.isContent } mentions :=
  ⟨agrees.follows.of_noteContent block, agrees.grades, agrees.known⟩

/-- What reading a block leaves: a draft that agrees with what is mentioned, unless a skip is
refused because a link has landed past a grade. -/
structure Keeps (setting : Setting) (questions : List (Question W)) (slide : Nat) (walk : SlideWalk)
    (mentions : List (Nat × Reference.Mention))
    (result : Except (CompileError W) (Draft W)) : Prop where
  ok : ∀ after, result = .ok after → after.Agrees setting walk mentions
  error : ∀ location target weight, result = .error (.gradedSkip location target weight) →
    Offends setting.fileNumber mentions questions ⟨target, location.slide, weight⟩ slide

/-- A block keeps the agreement by hearing its mentions, or is refused where one of them skips a
grade. -/
theorem Agrees.readPart (agrees : draft.Agrees setting walk mentions) (block : Block) :
    Keeps setting draft.file.questions draft.slide.number
      { walk with depth := block.turn walk.depth }
      (mentions ++
        (block.mentions setting.outline.linkTargets).map (Prod.mk (walk.ends.length + 1)))
      (draft.readPart setting block) := by
  have hears := hears_readPart setting draft block
  have heard := agrees.known.hearAll (block.mentions setting.outline.linkTargets)
  rw [← agrees.number]
  rcases heard with ⟨known, hearing, -, keeps⟩ | ⟨violation, refusal, offends⟩
  · refine ⟨fun after read => ?_, fun location target weight fails => ?_⟩
    · cases (hears.ok after read).symm.trans hearing
      exact ⟨agrees.follows.of_readPart read, gradesWell_of_readPart agrees.grades read, keeps⟩
    · cases (hears.error fails rfl).symm.trans hearing
  · refine ⟨fun after read => ?_, fun location target weight fails => ?_⟩
    · cases (hears.ok after read).symm.trans refusal
    · cases (hears.error fails rfl).symm.trans refusal
      exact offends

/-- **Reading a block.** The draft agrees with what is mentioned still, unless a skip is refused
because a link has landed past a grade. The slide before the block may have ended first. -/
theorem Agrees.readBlock (agrees : draft.Agrees setting walk mentions) (block : Block)
    (before : Nat) :
    (∀ after, draft.readBlock setting (block, before) = .ok after →
      after.Agrees setting (walk.step block before)
        (mentions ++ (block.mentions setting.outline.linkTargets).map
          (Prod.mk ((walk.step block before).ends.length + 1)))) ∧
    ∀ location target weight,
      draft.readBlock setting (block, before) = .error (.gradedSkip location target weight) →
      ∃ reached, (reached = draft ∨ draft.nextSlide setting before = .ok reached) ∧
        Offends setting.fileNumber (mentions ++ (block.mentions setting.outline.linkTargets).map
          (Prod.mk ((walk.step block before).ends.length + 1))) reached.file.questions
            ⟨target, location.slide, weight⟩ reached.slide.number := by
  unfold Draft.readBlock SlideWalk.step
  dsimp only
  rw [agrees.follows.depth]
  by_cases outermost : walk.depth = 0
  · rw [if_pos outermost, if_pos outermost]
    by_cases ends : block.endsSlide = true
    · rw [if_pos ends, if_pos ends, Block.mentions_of_endsSlide ends, List.map_nil, List.append_nil]
      obtain ⟨opens, never⟩ := agrees.nextSlide outermost (before + 1)
      exact ⟨opens, fun location target weight fails => (never location target weight fails).elim⟩
    · rw [if_neg ends, if_neg ends, agrees.follows.hasContent]
      by_cases starts : (block.startsSlide && walk.hasContent) = true
      · rw [if_pos starts, if_pos starts]
        obtain ⟨opens, never⟩ := agrees.nextSlide outermost before
        constructor
        · intro after read
          obtain ⟨opened, next, read⟩ := bind_eq_ok.1 read
          exact (((opens opened next).noteContent block).readPart block).ok after read
        · intro location target weight fails
          rcases bind_eq_error.1 fails with fails | ⟨opened, next, fails⟩
          · exact (never location target weight fails).elim
          · exact ⟨opened, .inr next, (((opens opened next).noteContent block).readPart block).error
              location target weight fails⟩
      · rw [if_neg starts, if_neg starts]
        obtain ⟨reads, refuses⟩ := (agrees.noteContent block).readPart block
        exact ⟨reads, fun location target weight fails =>
          ⟨draft, .inl rfl, refuses location target weight fails⟩⟩
  · rw [if_neg outermost, if_neg outermost]
    obtain ⟨reads, refuses⟩ := agrees.readPart block
    exact ⟨reads, fun location target weight fails =>
      ⟨draft, .inl rfl, refuses location target weight fails⟩⟩

/-- Blocks are read onto the draft of a file. After them its slide may have ended. -/
def Reaches (setting : Setting) (blocks : List Block) (draft : Draft W) : Prop :=
  ∃ earlier, blocks.zipIdx.foldlM (readBlock setting) (start setting.fileNumber) = .ok earlier ∧
    (draft = earlier ∨ earlier.nextSlide setting blocks.length = .ok draft)

/-- The draft onto which blocks are read agrees with what they mention. -/
theorem agrees_of_readBlocks {blocks : List Block}
    (read : blocks.zipIdx.foldlM (readBlock setting) (start setting.fileNumber) = .ok draft) :
    draft.Agrees setting (SlideWalk.ofBlocks blocks)
      (mentionsOf setting.outline.linkTargets blocks) := by
  induction blocks using List.reverseRecOn generalizing draft with
  | nil =>
    cases read
    exact ⟨follows_start setting, fun _ same => (nomatch same), Known.agrees_start _⟩
  | append_singleton blocks block earlier =>
    rw [foldlM_zipIdx_concat, bind_eq_ok] at read
    obtain ⟨middle, before, last⟩ := read
    rw [mentionsOf_concat, SlideWalk.ofBlocks_concat]
    exact ((earlier before).readBlock block blocks.length).1 _ last

/-- A skip that is refused while blocks are read leads past a grade of those read before. -/
theorem offends_of_readBlocks {blocks : List Block} {location : Location} {target : String}
    {weight : W} (fails : blocks.zipIdx.foldlM (readBlock setting) (start setting.fileNumber) =
      .error (.gradedSkip location target weight)) :
    ∃ before reached, before <+: blocks ∧ Reaches setting before reached ∧
      Offends setting.fileNumber (mentionsOf setting.outline.linkTargets blocks)
        reached.file.questions ⟨target, location.slide, weight⟩ reached.slide.number := by
  induction blocks using List.reverseRecOn with
  | nil => cases fails
  | append_singleton blocks block earlier =>
    rw [foldlM_zipIdx_concat, bind_eq_error] at fails
    rw [mentionsOf_concat, SlideWalk.ofBlocks_concat]
    rcases fails with fails | ⟨middle, read, fails⟩
    · obtain ⟨before, reached, inside, reaches, offends⟩ := earlier fails
      exact ⟨before, reached, inside.trans (List.prefix_append _ _), reaches, offends.append _⟩
    · obtain ⟨reached, reaches, offends⟩ :=
        ((agrees_of_readBlocks read).readBlock block blocks.length).2 location target weight fails
      exact ⟨blocks, reached, List.prefix_append _ _, ⟨middle, read, reaches⟩, offends⟩

/-- **Skips of a file.** When a file is read to its end, no forward link skips a grade, and every
question tells what a reader may skip from it. -/
theorem skips_of_readFile (read : readFile setting = .ok after) :
    SkipsNoGrade setting.fileNumber setting.outline.mentions after.file.questions ∧
      ∀ question ∈ after.file.questions,
        question.TellsSkip setting.fileNumber setting.outline.mentions after.file.questions := by
  unfold readFile at read
  obtain ⟨last, blocks, closed⟩ := bind_eq_ok.1 read
  have known := ((agrees_of_readBlocks blocks).closeSlide _).1 after closed
  exact ⟨known.grades, known.skips⟩

/-- **Refused skips.** When a skip is refused, a forward link has landed past a grade. -/
theorem offends_of_readFile {location : Location} {target : String} {weight : W}
    (fails : readFile setting = .error (.gradedSkip location target weight)) :
    ∃ before reached, before <+: setting.outline.blocks ∧ Reaches setting before reached ∧
      Offends setting.fileNumber setting.outline.mentions reached.file.questions
        ⟨target, location.slide, weight⟩ reached.slide.number := by
  unfold readFile at fails
  rcases bind_eq_error.1 fails with fails | ⟨last, blocks, fails⟩
  · exact offends_of_readBlocks fails
  · exact (((agrees_of_readBlocks blocks).closeSlide _).2 location target weight fails).elim

end Steps

end Draft

end LectureDeck
