import LectureDeck.Proofs.Deck.SlideBlocks

/-!
# What a file gathers of its slides

Some lists of a file grow with each block, and some when a slide ends. Such a list holds slide by
slide what the blocks of each give (`LectureDeck.Draft.Gathers.of_readFile`).
-/

namespace LectureDeck

/-- What a slide gives, block by block and then as a whole. -/
def Slide.gives {α : Type} (ofBlock : Nat → Block → List α) (ofSlide : Nat → List Block → List α)
    (blocks : List Block) (slide : Slide) : List α :=
  (slide.blocksOf blocks).flatMap (ofBlock slide.number) ++
    ofSlide slide.number (slide.blocksOf blocks)

namespace Draft

variable {W : Type} [Weight W] {setting : Setting} {draft after : Draft W}
  {holds : List Block → SlideDraft W → Prop} {α : Type} {view : FileDraft W → List α}
  {ofBlock : Nat → Block → List α} {ofSlide : Nat → List Block → List α} {blocks : List Block}

/-- A list of a file grows by what each block gives, and at the end of a slide by what its blocks
give together. What every block keeps is known of the slide then. -/
structure Gathers (setting : Setting) (holds : List Block → SlideDraft W → Prop)
    (view : FileDraft W → List α) (ofBlock : Nat → Block → List α)
    (ofSlide : Nat → List Block → List α) : Prop where
  kept : Kept setting holds
  start : view (start setting.fileNumber : Draft W).file = []
  part : ∀ {draft after : Draft W} {block}, draft.readPart setting block = .ok after →
    view after.file = view draft.file ++ ofBlock draft.slide.number block
  close : ∀ {draft after : Draft W} {endBlock blocks}, holds blocks draft.slide →
    draft.closeSlide setting endBlock = .ok after →
      view after.file = view draft.file ++ ofSlide draft.slide.number blocks
  rule : ∀ number, ofBlock number .rule = []

/-- A file has what its slides gave that have ended, and what the blocks of the next one gave. -/
def HasGathered (view : FileDraft W → List α) (ofBlock : Nat → Block → List α)
    (ofSlide : Nat → List Block → List α) (blocks : List Block) (draft : Draft W) : Prop :=
  view draft.file = draft.file.slides.flatMap (Slide.gives ofBlock ofSlide blocks) ++
    (currentSlide blocks).flatMap (ofBlock draft.slide.number)

/-- What slides gave that have ended does not depend on later blocks. -/
theorem flatMap_gives_append {slides : List Slide} {scripts : List (List Entry)}
    {questions : List (Question W)}
    (ended : List.Forall₂ (EndsAs setting holds blocks questions) slides scripts)
    (later : List Block) : slides.flatMap (Slide.gives ofBlock ofSlide (blocks ++ later)) =
      slides.flatMap (Slide.gives ofBlock ofSlide blocks) := by
  induction ended with
  | nil => rfl
  | cons ends _ rest =>
    rw [List.flatMap_cons, List.flatMap_cons, rest, Slide.gives, Slide.blocksOf_append ends.1,
      Slide.gives]

namespace Gathers

theorem of_closeSlide (gathers : Gathers setting holds view ofBlock ofSlide)
    (keeping : draft.Keeping setting holds blocks)
    (has : draft.HasGathered view ofBlock ofSlide blocks) (later : List Block)
    (silent : later.flatMap (ofBlock draft.slide.number) = []) {endBlock : Nat}
    (whole : endBlock = (blocks ++ later).length)
    (held : holds (currentSlide blocks ++ later) draft.slide)
    (closed : draft.closeSlide setting endBlock = .ok after) :
    view after.file =
      after.file.slides.flatMap (Slide.gives ofBlock ofSlide (blocks ++ later)) := by
  obtain ⟨question, slides⟩ := exists_slides_of_closeSlide closed
  have number : draft.slide.closeAll.number = draft.slide.number :=
    (SlideDraft.SamePlace.of_bare (SlideDraft.bare_closeAll draft.slide)).number
  have last : Slide.gives ofBlock ofSlide (blocks ++ later)
      (finished draft.slide.closeAll question endBlock) =
        (currentSlide blocks).flatMap (ofBlock draft.slide.number) ++
          ofSlide draft.slide.number (currentSlide blocks ++ later) := by
    rw [Slide.gives, keeping.follows.blocksOf_finished later whole]
    change (currentSlide blocks ++ later).flatMap (ofBlock draft.slide.closeAll.number) ++
      ofSlide draft.slide.closeAll.number _ = _
    rw [number, List.flatMap_append, silent, List.append_nil]
  rw [gathers.close held closed, slides, List.flatMap_append, flatMap_gives_append keeping.ended,
    List.flatMap_singleton, last, has, List.append_assoc]

/-- A block that is part of the slide that goes on. -/
theorem of_readPart (gathers : Gathers setting holds view ofBlock ofSlide) {block : Block}
    (own : List Block) {ended : List α} (read : draft.readPart setting block = .ok after)
    (has : view draft.file = ended ++ own.flatMap (ofBlock draft.slide.number)) :
    view after.file = ended ++ (own ++ [block]).flatMap (ofBlock after.slide.number) := by
  have number : after.slide.number = draft.slide.number := (stays_of_readPart read).place.number
  rw [gathers.part read, has, number, List.flatMap_append, List.flatMap_singleton,
    List.append_assoc]

theorem of_readBlock (gathers : Gathers setting holds view ofBlock ofSlide)
    (keeping : draft.Keeping setting holds blocks)
    (has : draft.HasGathered view ofBlock ofSlide blocks) {block : Block}
    (read : draft.readBlock setting (block, blocks.length) = .ok after) :
    after.HasGathered view ofBlock ofSlide (blocks ++ [block]) := by
  have next := currentSlide_concat blocks block
  rw [← keeping.follows.depth, ← keeping.follows.hasContent] at next
  unfold HasGathered
  cases blockRead_of_readBlock read with
  | ends outermost ends opened =>
    obtain ⟨ended, closed, rfl⟩ := exists_of_nextSlide opened
    obtain rfl := Block.eq_rule_of_endsSlide ends
    have whole : blocks.length + 1 = (blocks ++ [Block.rule]).length := by simp
    have begun := gathers.of_closeSlide keeping has [.rule] (by simp [gathers.rule]) whole
      (gathers.kept.rule keeping.slide) closed
    rw [next, if_pos ⟨outermost, ends⟩, List.flatMap_nil, List.append_nil]
    exact begun
  | starts outermost within starts opened part =>
    obtain ⟨ended, closed, rfl⟩ := exists_of_nextSlide opened
    have kept := keeping.of_closeSlide [] (by simp) (by simpa using keeping.slide) closed
    have begun := gathers.of_closeSlide keeping has [] rfl (by simp)
      (by simpa using keeping.slide) closed
    have slides : after.file.slides = ended.file.slides := (stays_of_readPart part).file.slides
    rw [List.append_nil] at kept begun
    rw [next, if_neg fun both => within both.2, if_pos ⟨outermost, starts⟩, slides,
      flatMap_gives_append kept]
    exact gathers.of_readPart [] part (begun.trans (List.append_nil _).symm)
  | continues outermost within continues part =>
    have slides : after.file.slides = draft.file.slides := (stays_of_readPart part).file.slides
    rw [next, if_neg fun both => within both.2, if_neg fun both => continues both.2, slides,
      flatMap_gives_append keeping.ended]
    exact gathers.of_readPart _ part has
  | quoted inside part =>
    have slides : after.file.slides = draft.file.slides := (stays_of_readPart part).file.slides
    rw [next, if_neg fun both => inside both.1, if_neg fun both => inside both.1, slides,
      flatMap_gives_append keeping.ended]
    exact gathers.of_readPart _ part has

theorem of_readBlocks (gathers : Gathers setting holds view ofBlock ofSlide)
    (read : blocks.zipIdx.foldlM (readBlock setting) (Draft.start setting.fileNumber) = .ok draft) :
    draft.HasGathered view ofBlock ofSlide blocks := by
  induction blocks using List.reverseRecOn generalizing draft with
  | nil =>
    cases read
    exact gathers.start
  | append_singleton blocks block earlier =>
    rw [foldlM_zipIdx_concat, bind_eq_ok] at read
    obtain ⟨middle, before, last⟩ := read
    exact gathers.of_readBlock (gathers.kept.keeping before) (earlier before) last

/-- **A file read to its end has gathered what its slides give.** -/
theorem of_readFile (gathers : Gathers setting holds view ofBlock ofSlide)
    (read : readFile setting = .ok after) : view after.file =
      after.file.slides.flatMap (Slide.gives ofBlock ofSlide setting.outline.blocks) := by
  unfold readFile at read
  obtain ⟨last, blocks, closed⟩ := bind_eq_ok.1 read
  have keeping := gathers.kept.keeping blocks
  have gathered := gathers.of_closeSlide keeping (gathers.of_readBlocks blocks) [] rfl (by simp)
    (by simpa using keeping.slide) closed
  rwa [List.append_nil] at gathered

end Gathers

end Draft

end LectureDeck
