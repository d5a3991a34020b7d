import LectureDeck.Proofs.Deck.SlideLoop
import Mathlib.Data.List.Forall2

/-!
# The blocks of a slide

What a slide is depends on its own blocks (`LectureDeck.currentSlide`,
`LectureDeck.Slide.blocksOf`). A property of a slide and its blocks that every block keeps
(`LectureDeck.Draft.Kept`) holds of the slide that is read (`LectureDeck.Draft.Kept.of_readBlocks`),
and held of each slide of a file when it ended (`LectureDeck.Draft.Kept.of_readFile`).
-/

namespace LectureDeck

/-- An element of a list has a partner in a list that goes with it. -/
theorem exists_mem_of_forall₂ {α β : Type} {goes : α → β → Prop} {list : List α} {others : List β}
    (pairs : List.Forall₂ goes list others) {item : α} (member : item ∈ list) :
    ∃ other ∈ others, goes item other := by
  induction pairs with
  | nil => contradiction
  | cons pair _ later =>
    rcases List.mem_cons.1 member with rfl | member
    · exact ⟨_, List.mem_cons_self, pair⟩
    · obtain ⟨other, known, pair⟩ := later member
      exact ⟨other, List.mem_cons_of_mem _ known, pair⟩

/-- The blocks of the slide that is being read, given all blocks so far. -/
def currentSlide (blocks : List Block) : List Block :=
  blocks.drop ((SlideWalk.ofBlocks blocks).ends.getLastD 0)

/-- The blocks of a slide, given those of its file. -/
def Slide.blocksOf (blocks : List Block) (slide : Slide) : List Block :=
  (blocks.take slide.endBlock).drop slide.firstBlock

/-- The blocks of a slide that has ended do not depend on those after it. -/
theorem Slide.blocksOf_append {blocks : List Block} {slide : Slide}
    (ended : slide.endBlock ≤ blocks.length) (later : List Block) :
    slide.blocksOf (blocks ++ later) = slide.blocksOf blocks := by
  rw [blocksOf, blocksOf, List.take_append_of_le_length ended]

/-- Slides that follow one another have all blocks from the start of the first of them to the end of
the last. -/
theorem flatMap_blocksOf (blocks : List Block) {slides : List Slide} {start next : Nat}
    (starts : slides.map Slide.firstBlock ++ [next] = start :: slides.map Slide.endBlock)
    (ordered : ∀ slide ∈ slides, slide.firstBlock ≤ slide.endBlock) :
    slides.flatMap (Slide.blocksOf blocks) ++ blocks.drop next = blocks.drop start := by
  induction slides generalizing start with
  | nil =>
    rw [(List.cons.inj starts).1]
    rfl
  | cons slide rest later =>
    obtain ⟨first, starts⟩ := List.cons.inj starts
    have inside := ordered slide List.mem_cons_self
    have whole := later starts fun other member => ordered other (List.mem_cons_of_mem _ member)
    have rest : blocks.drop slide.endBlock =
        (blocks.drop slide.firstBlock).drop (slide.endBlock - slide.firstBlock) := by
      rw [List.drop_drop, Nat.add_sub_cancel' inside]
    rw [List.flatMap_cons, List.append_assoc, whole, ← first, Slide.blocksOf, List.drop_take, rest,
      List.take_append_drop]

theorem getLastD_ends_le (blocks : List Block) :
    (SlideWalk.ofBlocks blocks).ends.getLastD 0 ≤ blocks.length := by
  rw [List.getLastD_eq_getLast?]
  cases last : (SlideWalk.ofBlocks blocks).ends.getLast? with
  | none => exact Nat.zero_le _
  | some stop =>
    exact (SlideWalk.ordered_ofBlocks blocks).behind stop (List.mem_of_getLast? last)

/-- A block goes on the slide, or it begins one, or it ends one and the next has no blocks yet. -/
theorem currentSlide_concat (blocks : List Block) (block : Block) :
    currentSlide (blocks ++ [block]) =
      if (SlideWalk.ofBlocks blocks).depth = 0 ∧ block.endsSlide = true then []
      else if (SlideWalk.ofBlocks blocks).depth = 0 ∧
          (block.startsSlide && (SlideWalk.ofBlocks blocks).hasContent) = true then [block]
      else currentSlide blocks ++ [block] := by
  have inside := getLastD_ends_le blocks
  have goesOn : (blocks ++ [block]).drop ((SlideWalk.ofBlocks blocks).ends.getLastD 0) =
      currentSlide blocks ++ [block] := List.drop_append_of_le_length inside
  unfold currentSlide
  rw [SlideWalk.ofBlocks_concat, SlideWalk.step]
  by_cases outermost : (SlideWalk.ofBlocks blocks).depth = 0
  · by_cases ends : block.endsSlide = true
    · rw [if_pos outermost, if_pos ends, if_pos ⟨outermost, ends⟩]
      simp [SlideWalk.endSlide]
    · rw [if_pos outermost, if_neg ends]
      have within : ¬ ((SlideWalk.ofBlocks blocks).depth = 0 ∧ block.endsSlide = true) :=
        fun both => ends both.2
      by_cases starts : (block.startsSlide && (SlideWalk.ofBlocks blocks).hasContent) = true
      · rw [if_pos starts, if_neg within, if_pos ⟨outermost, starts⟩]
        simp [SlideWalk.endSlide, SlideWalk.pass]
      · rw [if_neg starts, if_neg within, if_neg fun both => starts both.2]
        exact goesOn
  · rw [if_neg outermost, if_neg fun both => outermost both.1, if_neg fun both => outermost both.1]
    exact goesOn

theorem Block.eq_rule_of_endsSlide {block : Block} (ends : block.endsSlide = true) :
    block = .rule := by
  cases block <;> first | rfl | contradiction

namespace Draft

variable {W : Type} [Weight W] {setting : Setting} {draft after : Draft W} {walk : SlideWalk}

omit [Weight W] in
/-- The slide that is read begins where the last one ended. -/
theorem Follows.currentSlide_eq {blocks : List Block}
    (follows : draft.Follows setting (SlideWalk.ofBlocks blocks)) :
    currentSlide blocks = blocks.drop draft.slide.firstBlock := by
  have starts := congrArg List.getLast? follows.file.slides.starts
  rw [List.getLast?_concat, List.getLast?_cons] at starts
  rw [currentSlide, List.getLastD_eq_getLast?, Option.some.inj starts]

omit [Weight W] in
/-- The blocks of the slide that ends are those of the slide that is read. -/
theorem Follows.blocksOf_finished {blocks : List Block}
    (follows : draft.Follows setting (SlideWalk.ofBlocks blocks)) (later : List Block)
    {endBlock : Nat} (whole : endBlock = (blocks ++ later).length) (question : Option Nat) :
    (finished draft.slide.closeAll question endBlock).blocksOf (blocks ++ later) =
      currentSlide blocks ++ later := by
  have inside : draft.slide.firstBlock ≤ blocks.length := by
    have starts := congrArg List.getLast? follows.file.slides.starts
    rw [List.getLast?_concat, List.getLast?_cons] at starts
    rw [Option.some.inj starts, ← List.getLastD_eq_getLast?]
    exact getLastD_ends_le blocks
  have place := SlideDraft.SamePlace.of_bare (SlideDraft.bare_closeAll draft.slide)
  change ((blocks ++ later).take endBlock).drop draft.slide.closeAll.firstBlock = _
  rw [place.firstBlock, whole, List.take_length, follows.currentSlide_eq,
    List.drop_append_of_le_length inside]

/-- A property of a slide and of its blocks so far that every block keeps. -/
structure Kept (setting : Setting) (holds : List Block → SlideDraft W → Prop) : Prop where
  start : ∀ number firstBlock, holds [] (.start setting.fileNumber number firstBlock)
  noted : ∀ {blocks slide} (hasContent : Bool), holds blocks slide →
    holds blocks { slide with hasContent := hasContent }
  part : ∀ {blocks} {draft after : Draft W} {block}, draft.readPart setting block = .ok after →
    holds blocks draft.slide → holds (blocks ++ [block]) after.slide
  /-- A rule ends the slide and is not read. -/
  rule : ∀ {blocks slide}, holds blocks slide → holds (blocks ++ [.rule]) slide

variable {holds : List Block → SlideDraft W → Prop} {blocks : List Block}

/-- Properties that every block keeps are kept together. -/
theorem Kept.and {others : List Block → SlideDraft W → Prop} (kept : Kept setting holds)
    (also : Kept setting others) :
    Kept setting fun blocks slide => holds blocks slide ∧ others blocks slide where
  start := fun number firstBlock => ⟨kept.start number firstBlock, also.start number firstBlock⟩
  noted := fun hasContent both => ⟨kept.noted hasContent both.1, also.noted hasContent both.2⟩
  part := fun read both => ⟨kept.part read both.1, also.part read both.2⟩
  rule := fun both => ⟨kept.rule both.1, also.rule both.2⟩

/-- A slide that has ended as a draft of it for which something holds. Its question is recorded, if
it has one. -/
def EndsAs (setting : Setting) (holds : List Block → SlideDraft W → Prop) (blocks : List Block)
    (questions : List (Question W)) (slide : Slide) (script : List Entry) : Prop :=
  slide.endBlock ≤ blocks.length ∧ ∃ last : Draft W, holds (slide.blocksOf blocks) last.slide ∧
    script = last.slide.closeAll.script ∧
    (∃ question, question = (last.withSlide last.slide.closeAll).slideQuestion setting ∧
      slide = finished last.slide.closeAll (question.map Question.number) slide.endBlock ∧
      ∀ asked ∈ question, asked.bare ∈ questions.map Question.bare)

/-- A slide that has ended stays as it is. -/
theorem EndsAs.later {questions asked : List (Question W)} {slide : Slide} {script : List Entry}
    (ends : EndsAs setting holds blocks questions slide script) (later : List Block)
    (kept : ∀ question ∈ questions.map Question.bare, question ∈ asked.map Question.bare) :
    EndsAs setting holds (blocks ++ later) asked slide script := by
  obtain ⟨inside, last, held, wrote, question, asks, same, recorded⟩ := ends
  refine ⟨?_, last, ?_, wrote, question, asks, same, fun asked member =>
    kept _ (recorded asked member)⟩
  · rw [List.length_append]
    exact Nat.le_add_right_of_le inside
  · rwa [Slide.blocksOf_append inside]

/-- What holds of the slide that is read, and held of those that have ended. -/
structure Keeping (setting : Setting) (holds : List Block → SlideDraft W → Prop)
    (blocks : List Block) (draft : Draft W) : Prop where
  follows : draft.Follows setting (SlideWalk.ofBlocks blocks)
  slide : holds (currentSlide blocks) draft.slide
  ended : List.Forall₂ (EndsAs setting holds blocks draft.file.questions) draft.file.slides
    draft.file.scripts

/-- The slide that ends is a slide that has ended. -/
theorem Keeping.of_closeSlide (keeping : draft.Keeping setting holds blocks) (later : List Block)
    {endBlock : Nat} (whole : endBlock = (blocks ++ later).length)
    (held : holds (currentSlide blocks ++ later) draft.slide)
    (closed : draft.closeSlide setting endBlock = .ok after) :
    List.Forall₂ (EndsAs setting holds (blocks ++ later) after.file.questions) after.file.slides
      after.file.scripts := by
  obtain ⟨question, warnings, asks, settled⟩ := exists_of_closeSlide closed
  have same := (stays_of_settle settled).file
  have questions : after.file.questions.map Question.bare =
      draft.file.questions.map Question.bare ++ (question.map Question.bare).toList := by
    rw [same.questions, withEnded]
    dsimp only
    rw [record_questions, List.map_append]
    cases question <;> rfl
  rw [same.slides, same.scripts, withEnded]
  dsimp only
  rw [record_slides, record_scripts, record_slide]
  refine List.rel_append (keeping.ended.imp fun slide script ends => ?_) (.cons ?_ .nil)
  · exact ends.later later fun asked member => by
      rw [questions]
      exact List.mem_append_left _ member
  · refine ⟨Nat.le_of_eq whole, draft, ?_, rfl, question, asks, rfl, fun asked member => ?_⟩
    · exact (keeping.follows.blocksOf_finished later whole _).symm ▸ held
    · rw [questions, Option.mem_def.1 member]
      exact List.mem_append_right _ List.mem_cons_self

/-- A block that is part of the slide. -/
theorem Keeping.of_readPart {block : Block}
    (same : draft.file.SameSlides after.file)
    (ended : List.Forall₂ (EndsAs setting holds blocks draft.file.questions) draft.file.slides
      draft.file.scripts)
    (follows : after.Follows setting (SlideWalk.ofBlocks (blocks ++ [block])))
    (slide : holds (currentSlide (blocks ++ [block])) after.slide) :
    after.Keeping setting holds (blocks ++ [block]) := by
  refine ⟨follows, slide, ?_⟩
  rw [same.slides, same.scripts]
  refine ended.imp fun slide script ends => ends.later [block] ?_
  rw [same.questions]
  exact fun _ member => member

/-- **A block keeps what holds of slides.** -/
theorem Keeping.of_readBlock (kept : Kept setting holds)
    (keeping : draft.Keeping setting holds blocks) {block : Block}
    (read : draft.readBlock setting (block, blocks.length) = .ok after) :
    after.Keeping setting holds (blocks ++ [block]) := by
  have depth := keeping.follows.depth
  have content := keeping.follows.hasContent
  have follows := keeping.follows.of_readBlock read
  dsimp only at follows
  rw [← SlideWalk.ofBlocks_concat] at follows
  have next := currentSlide_concat blocks block
  rw [← depth, ← content] at next
  cases blockRead_of_readBlock read with
  | ends outermost ends opened =>
    obtain ⟨ended, closed, rfl⟩ := exists_of_nextSlide opened
    obtain rfl := Block.eq_rule_of_endsSlide ends
    rw [if_pos ⟨outermost, ends⟩] at next
    refine ⟨follows, ?_, ?_⟩
    · rw [next]
      exact kept.start _ _
    · have whole : blocks.length + 1 = (blocks ++ [Block.rule]).length := by simp
      have begun := keeping.of_closeSlide [.rule] whole (kept.rule keeping.slide) closed
      exact begun
  | starts outermost within starts opened part =>
    obtain ⟨ended, closed, rfl⟩ := exists_of_nextSlide opened
    rw [if_neg fun both => within both.2, if_pos ⟨outermost, starts⟩] at next
    have begun := keeping.of_closeSlide [] (by simp) (by simpa using keeping.slide) closed
    rw [List.append_nil] at begun
    refine .of_readPart ((stays_of_readPart part).file) begun follows ?_
    rw [next]
    exact kept.part part (kept.noted _ (kept.start _ _))
  | continues outermost within continues part =>
    rw [if_neg fun both => within both.2, if_neg fun both => continues both.2] at next
    refine .of_readPart ((stays_of_readPart part).file) keeping.ended follows ?_
    rw [next]
    exact kept.part part (kept.noted _ keeping.slide)
  | quoted inside part =>
    rw [if_neg fun both => inside both.1, if_neg fun both => inside both.1] at next
    refine .of_readPart ((stays_of_readPart part).file) keeping.ended follows ?_
    rw [next]
    exact kept.part part keeping.slide

theorem Kept.keeping (kept : Kept setting holds)
    (read : blocks.zipIdx.foldlM (readBlock setting) (Draft.start setting.fileNumber) = .ok draft) :
    draft.Keeping setting holds blocks := by
  induction blocks using List.reverseRecOn generalizing draft with
  | nil =>
    cases read
    exact ⟨follows_start setting, kept.start _ _, .nil⟩
  | append_singleton blocks block earlier =>
    rw [foldlM_zipIdx_concat, bind_eq_ok] at read
    obtain ⟨middle, before, last⟩ := read
    exact (earlier before).of_readBlock kept last

/-- What every block keeps holds of the slide that is read. -/
theorem Kept.of_readBlocks (kept : Kept setting holds)
    (read : blocks.zipIdx.foldlM (readBlock setting) (Draft.start setting.fileNumber) = .ok draft) :
    holds (currentSlide blocks) draft.slide := (kept.keeping read).slide

/-- **What every block keeps held of each slide of a file when it ended.** -/
theorem Kept.of_readFile (kept : Kept setting holds) (read : readFile setting = .ok after) :
    List.Forall₂ (EndsAs setting holds setting.outline.blocks after.file.questions)
      after.file.slides after.file.scripts := by
  unfold readFile at read
  obtain ⟨last, blocks, closed⟩ := bind_eq_ok.1 read
  have keeping := kept.keeping blocks
  have ended := keeping.of_closeSlide [] (by simp) (by simpa using keeping.slide) closed
  rwa [List.append_nil] at ended

/-- **The slides of a file have its blocks.** -/
theorem flatMap_blocksOf_of_readFile (read : readFile setting = .ok after) :
    after.file.slides.flatMap (Slide.blocksOf setting.outline.blocks) = setting.outline.blocks := by
  have slides := (hasSlides_of_readFile read).slides
  have sorted := (SlideWalk.ordered_ofBlocks setting.outline.blocks).endSlide.sorted
  have whole := flatMap_blocksOf setting.outline.blocks
    (slides.ends.symm ▸ slides.starts) (slides.firstBlock_le_endBlock sorted)
  rwa [List.drop_length, List.append_nil, List.drop_zero] at whole

/-- What every block keeps held of a slide of a file when it ended. -/
theorem Kept.exists_endsAs (kept : Kept setting holds) (read : readFile setting = .ok after)
    {slide : Slide} (member : slide ∈ after.file.slides) :
    ∃ script ∈ after.file.scripts,
      EndsAs setting holds setting.outline.blocks after.file.questions slide script :=
  exists_mem_of_forall₂ (kept.of_readFile read) member

end Draft

end LectureDeck
