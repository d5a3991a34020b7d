import LectureDeck.Deck.Reading
import LectureDeck.Proofs.Deck.SlideEnd
import Mathlib.Data.List.Chain

/-!
# Slides as they are read

The slides of a file end where a walk over its blocks ends them: reading a block and walking over it
keep in step (`LectureDeck.Draft.Follows.of_readBlock`). When a file is read to its end its slides
follow one another from the first block to the last (`LectureDeck.Draft.hasSlides_of_readFile`).
-/

namespace LectureDeck

/-- Slides that follow one another from the first block of a file on. They end after some numbers
of blocks, and the slide after them begins after `next` blocks. -/
structure Consecutive (slides : List Slide) (ends : List Nat) (next : Nat) : Prop where
  numbers : slides.map Slide.number = List.range' 1 slides.length
  starts : slides.map Slide.firstBlock ++ [next] = 0 :: ends
  ends : slides.map Slide.endBlock = ends

/-- One more slide follows the others if it has the next number and begins where the last one
ended. -/
theorem Consecutive.concat {slides : List Slide} {ends : List Nat} {next : Nat}
    (earlier : Consecutive slides ends next) {slide : Slide}
    (number : slide.number = slides.length + 1) (start : slide.firstBlock = next) :
    Consecutive (slides ++ [slide]) (ends ++ [slide.endBlock]) slide.endBlock where
  numbers := by
    rw [List.map_append, earlier.numbers, List.length_append, List.length_singleton,
      List.range'_concat, List.map_singleton, number, Nat.one_mul, Nat.add_comm 1]
  starts := by
    rw [List.map_append, List.map_singleton, start, earlier.starts, List.cons_append]
  ends := by rw [List.map_append, earlier.ends, List.map_singleton]

namespace Consecutive

variable {slides : List Slide} {ends : List Nat} {next : Nat}

/-- There are as many ends as slides. -/
theorem length_ends (consecutive : Consecutive slides ends next) : ends.length = slides.length := by
  rw [← consecutive.ends, List.length_map]

/-- The ends are those of the slides, in order. -/
theorem endBlock_getElem (consecutive : Consecutive slides ends next) {index : Nat}
    (inside : index < slides.length) : ends[index]? = some slides[index].endBlock := by
  rw [← consecutive.ends, List.getElem?_map, List.getElem?_eq_getElem inside, Option.map_some]

/-- A slide begins where the one before it ended, the first with the first block. -/
theorem firstBlock_getElem (consecutive : Consecutive slides ends next) {index : Nat}
    (inside : index < slides.length) :
    (0 :: ends)[index]? = some slides[index].firstBlock := by
  rw [← consecutive.starts, List.getElem?_append_left (by simpa using inside), List.getElem?_map,
    List.getElem?_eq_getElem inside, Option.map_some]

/-- No block stands between two slides, and none is on both. -/
theorem isChain (consecutive : Consecutive slides ends next) :
    slides.IsChain fun slide next => next.firstBlock = slide.endBlock := by
  refine List.isChain_iff_getElem.2 fun index inside => ?_
  have start := consecutive.firstBlock_getElem inside
  rw [List.getElem?_cons_succ, consecutive.endBlock_getElem (Nat.lt_of_succ_lt inside)] at start
  exact (Option.some.inj start).symm

/-- The first slide begins with the first block. -/
theorem head?_firstBlock (consecutive : Consecutive slides ends next) (inhabited : slides ≠ []) :
    slides.head?.map Slide.firstBlock = some 0 := by
  have inside := List.length_pos_iff.2 inhabited
  rw [List.head?_eq_getElem?, List.getElem?_eq_getElem inside, Option.map_some]
  exact (consecutive.firstBlock_getElem inside).symm

/-- No slide ends before it begins. -/
theorem firstBlock_le_endBlock (consecutive : Consecutive slides ends next)
    (sorted : ends.Pairwise (· ≤ ·)) : ∀ slide ∈ slides, slide.firstBlock ≤ slide.endBlock := by
  intro slide member
  obtain ⟨index, inside, rfl⟩ := List.getElem_of_mem member
  have start := consecutive.firstBlock_getElem inside
  have stop := consecutive.endBlock_getElem inside
  cases index with
  | zero => exact Option.some.inj start ▸ Nat.zero_le _
  | succ index =>
    obtain ⟨early, start⟩ := List.getElem?_eq_some_iff.1 start
    obtain ⟨late, stop⟩ := List.getElem?_eq_some_iff.1 stop
    rw [← start, ← stop]
    exact List.pairwise_iff_getElem.1 sorted index (index + 1) _ _ (Nat.lt_succ_self index)

end Consecutive

/-- A question is on a slide that has ended, and has the digest of its text. -/
structure Question.IsOnSlide {W : Type} (setting : Setting) (slides : Nat)
    (question : Question W) : Prop where
  positive : 1 ≤ question.slide
  inside : question.slide ≤ slides
  digest : question.digest = LectureDeck.digest (Draft.slideText setting question.slide)

/-- On which slide a question is does not depend on what may be skipped from it. -/
theorem Question.IsOnSlide.of_bare {W : Type} {setting : Setting} {slides : Nat}
    {question other : Question W} (on : question.IsOnSlide setting slides)
    (same : question.bare = other.bare) : other.IsOnSlide setting slides := by
  have slide : question.bare.slide = other.bare.slide := congrArg Question.slide same
  have digest : question.bare.digest = other.bare.digest := congrArg Question.digest same
  change question.slide = other.slide at slide
  change question.digest = other.digest at digest
  exact ⟨slide ▸ on.positive, slide ▸ on.inside, slide ▸ digest ▸ on.digest⟩

/-- A question stays on its slide when there are more slides. -/
theorem Question.IsOnSlide.later {W : Type} {setting : Setting} {slides : Nat}
    {question : Question W} (on : question.IsOnSlide setting slides) :
    question.IsOnSlide setting (slides + 1) :=
  ⟨on.positive, Nat.le_succ_of_le on.inside, on.digest⟩

/-- Questions stay on their slides in a file with the same slides. -/
theorem FileDraft.SameSlides.isOnSlide {W : Type} {setting : Setting} {slides : Nat}
    {before after : FileDraft W} (same : before.SameSlides after)
    (on : ∀ question ∈ before.questions, question.IsOnSlide setting slides) :
    ∀ question ∈ after.questions, question.IsOnSlide setting slides := by
  intro question member
  obtain ⟨other, known, equal⟩ := same.exists_mem member
  rw [equal]
  exact (on other known).of_bare rfl

/-- The slides of a file that have ended, with what each wrote and the questions on them. -/
structure FileDraft.HasSlides {W : Type} (setting : Setting) (file : FileDraft W) (ends : List Nat)
    (next : Nat) : Prop where
  slides : Consecutive file.slides ends next
  scripts : file.scripts.length = file.slides.length
  questions : ∀ question ∈ file.questions, question.IsOnSlide setting file.slides.length

/-- What a reader may skip does not matter to where a question is. -/
theorem FileDraft.HasSlides.of_sameSlides {W : Type} {setting : Setting} {file after : FileDraft W}
    {ends : List Nat} {next : Nat} (has : file.HasSlides setting ends next)
    (same : file.SameSlides after) : after.HasSlides setting ends next where
  slides := same.slides ▸ has.slides
  scripts := by rw [same.scripts, same.slides, has.scripts]
  questions := same.slides ▸ same.isOnSlide has.questions

namespace Draft

variable {W : Type} {setting : Setting} {draft after : Draft W} {walk : SlideWalk}

/-- A draft is where a walk over the blocks is that were read. -/
structure Follows (setting : Setting) (draft : Draft W) (walk : SlideWalk) : Prop where
  depth : draft.slide.depth = walk.depth
  hasContent : draft.slide.hasContent = walk.hasContent
  number : draft.slide.number = draft.file.slides.length + 1
  file : draft.file.HasSlides setting walk.ends draft.slide.firstBlock

/-- Noting that a slide has content is done by the walk as well. -/
theorem Follows.of_noteContent (follows : draft.Follows setting walk) (block : Block) :
    (draft.noteContent block).Follows setting
      { walk with hasContent := walk.hasContent || block.isContent } :=
  ⟨follows.depth, by rw [← follows.hasContent]; rfl, follows.number, follows.file⟩

variable [Weight W]

/-- The slide that ends is the last slide of the file. -/
theorem Follows.of_closeSlide (follows : draft.Follows setting walk) {endBlock : Nat}
    (closed : draft.closeSlide setting endBlock = .ok after) :
    after.file.HasSlides setting (walk.ends ++ [endBlock]) endBlock := by
  obtain ⟨question, warnings, asked, settled⟩ := exists_of_closeSlide closed
  refine FileDraft.HasSlides.of_sameSlides ?_ (stays_of_settle settled).file
  have place := SlideDraft.SamePlace.of_bare (SlideDraft.bare_closeAll draft.slide)
  have number := place.number.trans follows.number
  unfold withEnded
  constructor
  · dsimp only
    rw [record_slides, record_slide]
    exact follows.file.slides.concat number place.firstBlock
  · dsimp only
    rw [record_slides, record_scripts, List.length_append, List.length_append]
    exact congrArg (· + 1) follows.file.scripts
  · dsimp only
    rw [record_slides, record_questions, List.length_append]
    refine List.forall_mem_append.2
      ⟨fun question member => (follows.file.questions question member).later, ?_⟩
    rintro last member
    rw [Option.mem_toList, asked] at member
    obtain ⟨answer, _, rfl⟩ := Option.map_eq_some_iff.1 member
    have slide : draft.slide.closeAll.number = draft.file.slides.length + 1 := number
    exact ⟨by simp [questionOf, withSlide, slide], by simp [questionOf, withSlide, slide], rfl⟩

/-- A draft starts where the walk over no blocks is. -/
theorem follows_start (setting : Setting) :
    Follows setting (start setting.fileNumber : Draft W) {} where
  depth := rfl
  hasContent := rfl
  number := rfl
  file := ⟨⟨rfl, rfl, rfl⟩, rfl, fun _ member => absurd member List.not_mem_nil⟩

/-- A slide begins for the reader where it begins for the walk, with the slide before it closed at
the same block. -/
theorem Follows.of_nextSlide (follows : draft.Follows setting walk) {endBlock : Nat}
    (outermost : walk.depth = 0) (opened : draft.nextSlide setting endBlock = .ok after) :
    after.Follows setting (walk.endSlide endBlock) := by
  obtain ⟨ended, closed, rfl⟩ := exists_of_nextSlide opened
  have has := follows.of_closeSlide closed
  exact ⟨outermost.symm, rfl, rfl, has⟩

/-- A block that is part of a slide opens or closes a quote at most. -/
theorem Follows.of_readPart (follows : draft.Follows setting walk) {block : Block}
    (read : draft.readPart setting block = .ok after) :
    after.Follows setting { walk with depth := block.turn walk.depth } := by
  obtain ⟨place, same⟩ := stays_of_readPart read
  constructor
  · rw [place.depth, ← follows.depth]
    rfl
  · exact place.hasContent.trans follows.hasContent
  · rw [same.slides]
    exact place.number.trans follows.number
  · rw [place.firstBlock]
    exact follows.file.of_sameSlides same

/-- Reading a block and walking over it keep in step. -/
theorem Follows.of_readBlock (follows : draft.Follows setting walk) {place : Block × Nat}
    (read : draft.readBlock setting place = .ok after) :
    after.Follows setting (walk.step place.1 place.2) := by
  cases blockRead_of_readBlock read with
  | ends outermost ends opened =>
    rw [follows.depth] at outermost
    rw [SlideWalk.step, if_pos outermost, if_pos ends]
    exact follows.of_nextSlide outermost opened
  | starts outermost within starts next part =>
    rw [follows.depth] at outermost
    rw [follows.hasContent] at starts
    rw [SlideWalk.step, if_pos outermost, if_neg within, if_pos starts]
    exact ((follows.of_nextSlide outermost next).of_noteContent place.1).of_readPart part
  | continues outermost within continues part =>
    rw [follows.depth] at outermost
    rw [follows.hasContent] at continues
    rw [SlideWalk.step, if_pos outermost, if_neg within, if_neg continues]
    exact (follows.of_noteContent place.1).of_readPart part
  | quoted inside part =>
    rw [follows.depth] at inside
    rw [SlideWalk.step, if_neg inside]
    exact follows.of_readPart part

/-- A file read to its end has the slides that a walk over its blocks ends, and one more. -/
theorem hasSlides_of_readFile (read : readFile setting = .ok after) :
    after.file.HasSlides setting
      ((SlideWalk.ofBlocks setting.outline.blocks).ends ++ [setting.outline.blocks.length])
      setting.outline.blocks.length := by
  unfold readFile at read
  rw [bind_eq_ok] at read
  obtain ⟨last, blocks, closed⟩ := read
  have follows : last.Follows setting (SlideWalk.ofBlocks setting.outline.blocks) :=
    foldlM_simulation (fun read follows => follows.of_readBlock read) blocks
      (follows_start setting)
  exact follows.of_closeSlide closed

/-- A block that cannot be read ends the reading of its file. -/
theorem readFile_eq_error {before after : List Block} {block : Block} {draft : Draft W}
    {error : CompileError W} (whole : setting.outline.blocks = before ++ block :: after)
    (read : before.zipIdx.foldlM (readBlock setting) (start setting.fileNumber) = .ok draft)
    (failed : draft.readBlock setting (block, before.length) = .error error) :
    readFile setting = .error error := by
  unfold readFile
  refine bind_eq_error.2 (.inl ?_)
  rw [whole, List.zipIdx_append, List.foldlM_append]
  refine bind_eq_error.2 (.inr ⟨draft, read, ?_⟩)
  rw [List.zipIdx_cons, List.foldlM_cons, Nat.zero_add]
  exact bind_eq_error.2 (.inl failed)

end Draft

end LectureDeck
