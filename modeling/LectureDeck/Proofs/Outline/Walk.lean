import LectureDeck.Proofs.Outline.Reads
import LectureDeck.Proofs.Stepwise
import Mathlib.Order.Defs.PartialOrder

/-!
# Where slides end

The blocks of a source alone tell where slides end: a walk over them counts the quotes that are
open, and notes whether the slide has content (`LectureDeck.SlideWalk.ofBlocks`). Reading a source
cuts it where the walk over its blocks ends slides (`LectureDeck.OutlineDraft.Reads.isWalked`), so
the slices of an outline end where its blocks tell
(`LectureDeck.Outline.map_endBlock_of_ofSource`).
-/

namespace LectureDeck

open LectureDeck.Text

/-- The number of open quotes after a block. -/
def Block.turn : Block → Nat → Nat
  | .quoteStart, depth => depth + 1
  | .quoteEnd, depth => depth - 1
  | _, depth => depth

/-- Only the edge of a quote changes how many quotes are open. -/
theorem Block.turn_of_within {block : Block} (within : block.isQuoteEdge = false) (depth : Nat) :
    block.turn depth = depth := by
  cases block <;> first | rfl | contradiction

/-- What ends a slide does not begin one. -/
theorem Block.startsSlide_of_endsSlide {block : Block} (ends : block.endsSlide = true) :
    block.startsSlide = false := by
  cases block <;> first | rfl | contradiction

/-- What the blocks that were walked over tell of slides. -/
structure SlideWalk where
  /-- The number of quotes that are open. -/
  depth : Nat := 0
  /-- The current slide has content. -/
  hasContent : Bool := false
  /-- The number of blocks up to the end of each slide that has ended. -/
  ends : List Nat := []

namespace SlideWalk

/-- The current slide ended after a number of blocks. -/
def endSlide (walk : SlideWalk) (blocks : Nat) : SlideWalk :=
  { walk with hasContent := false, ends := walk.ends ++ [blocks] }

/-- A block outside quotes walked over that is part of the current slide. -/
def pass (walk : SlideWalk) (block : Block) : SlideWalk :=
  { walk with
    depth := block.turn walk.depth
    hasContent := walk.hasContent || block.isContent }

/-- A block walked over, given the number of blocks before it. Outside quotes a slide may end before
the block or after it. -/
def step (walk : SlideWalk) (block : Block) (before : Nat) : SlideWalk :=
  if walk.depth = 0 then
    if block.endsSlide then walk.endSlide (before + 1)
    else (if block.startsSlide && walk.hasContent then walk.endSlide before else walk).pass block
  else { walk with depth := block.turn walk.depth }

/-- The walk over all blocks of a list. -/
def ofBlocks (blocks : List Block) : SlideWalk :=
  blocks.zipIdx.foldl (fun walk place => walk.step place.1 place.2) {}

/-- A walk over one more block takes one more step. -/
theorem ofBlocks_concat (blocks : List Block) (block : Block) :
    ofBlocks (blocks ++ [block]) = (ofBlocks blocks).step block blocks.length := by
  rw [ofBlocks, List.zipIdx_append, List.foldl_append, List.zipIdx_singleton, Nat.zero_add]
  rfl

/-- Ends come one after another, and none lies ahead. -/
structure Ordered (walk : SlideWalk) (blocks : Nat) : Prop where
  sorted : walk.ends.Pairwise (· ≤ ·)
  behind : ∀ last ∈ walk.ends, last ≤ blocks

variable {walk : SlideWalk} {before : Nat}

/-- A walk that is in order before a block is in order before any later one. -/
theorem Ordered.later {now : Nat} (ordered : walk.Ordered before) (after : before ≤ now) :
    walk.Ordered now :=
  ⟨ordered.sorted, fun last member => Nat.le_trans (ordered.behind last member) after⟩

/-- Ending a slide keeps a walk in order. -/
theorem Ordered.endSlide (ordered : walk.Ordered before) :
    (walk.endSlide before).Ordered before where
  sorted := by
    refine List.pairwise_append.2 ⟨ordered.sorted, List.pairwise_singleton _ _, ?_⟩
    intro last member next same
    rw [List.mem_singleton.1 same]
    exact ordered.behind last member
  behind := by
    intro last member
    rcases List.mem_append.1 member with earlier | same
    · exact ordered.behind last earlier
    · exact Nat.le_of_eq (List.mem_singleton.1 same)

/-- A step over a block keeps a walk in order. -/
theorem Ordered.step (ordered : walk.Ordered before) (block : Block) :
    (walk.step block before).Ordered (before + 1) := by
  have later := ordered.later (Nat.le_succ before)
  unfold SlideWalk.step
  split
  · split
    · exact later.endSlide
    · split
      · have ended := ordered.endSlide.later (Nat.le_succ before)
        exact ⟨ended.sorted, ended.behind⟩
      · exact ⟨later.sorted, later.behind⟩
  · exact ⟨later.sorted, later.behind⟩

/-- The slides of any blocks end in order, and not behind the blocks. -/
theorem ordered_ofBlocks (blocks : List Block) : (ofBlocks blocks).Ordered blocks.length := by
  induction blocks using List.reverseRecOn with
  | nil => exact ⟨List.Pairwise.nil, fun _ member => absurd member List.not_mem_nil⟩
  | append_singleton blocks block ordered =>
    rw [ofBlocks_concat, List.length_append]
    exact ordered.step block

end SlideWalk

namespace OutlineDraft

/-- What a draft tells of slides. -/
def walk (draft : OutlineDraft) : SlideWalk :=
  ⟨draft.depth, draft.hasContent, draft.slices.map Slice.endBlock⟩

/-- A draft tells of slides what its blocks tell. An open quote is content. -/
structure IsWalked (draft : OutlineDraft) : Prop where
  told : SlideWalk.ofBlocks draft.blocks = draft.walk
  inside : 0 < draft.depth → draft.hasContent = true

variable {draft after : OutlineDraft}

/-- A slice is cut where the walk ends a slide. -/
theorem walk_endSlice (draft : OutlineDraft) (offset : Nat) :
    (draft.endSlice offset).walk = draft.walk.endSlide draft.blocks.length := by
  simp [walk, endSlice, SlideWalk.endSlide]

/-- A block that is added to a draft does not end a slice. -/
theorem walk_push (draft : OutlineDraft) (block : Block) : (draft.push block).walk = draft.walk :=
  rfl

/-- A block that is no edge of a quote is walked over as it is emitted. -/
theorem walk_emit (draft : OutlineDraft) {token : Block} (within : token.isQuoteEdge = false)
    (start stop : Nat) :
    (draft.emit token start stop).walk = draft.walk.step token draft.blocks.length := by
  have stays := Block.turn_of_within within
  unfold emit SlideWalk.step
  by_cases inside : 0 < draft.depth
  · have deep : draft.walk.depth ≠ 0 := Nat.ne_of_gt inside
    rw [if_pos inside, if_neg deep, stays, walk_push]
  · have outermost : draft.walk.depth = 0 := Nat.eq_zero_of_not_pos inside
    rw [if_neg inside, if_pos outermost]
    by_cases ends : token.endsSlide = true
    -- No block both begins and ends a slide, so the draft ends one slice at most.
    · have starts : token.startsSlide = false := Block.startsSlide_of_endsSlide ends
      simp only [starts, Bool.false_and, Bool.false_eq_true, if_false, ends, if_true, walk_endSlice]
      simp [walk, push, SlideWalk.endSlide]
    · have pushed (before : OutlineDraft) : ({ before with
          hasContent := before.hasContent || token.isContent }.push token).walk =
            before.walk.pass token := by
        rw [SlideWalk.pass, stays]
        rfl
      rw [if_neg ends, if_neg ends, pushed]
      by_cases starts : (token.startsSlide && draft.hasContent) = true
      · have starts' : (token.startsSlide && draft.walk.hasContent) = true := starts
        rw [if_pos starts, if_pos starts', walk_endSlice]
      · have starts' : ¬(token.startsSlide && draft.walk.hasContent) = true := starts
        rw [if_neg starts, if_neg starts']

/-- A block that is emitted is the last one. -/
theorem blocks_emit (draft : OutlineDraft) (token : Block) (start stop : Nat) :
    (draft.emit token start stop).blocks = draft.blocks ++ [token] := by
  unfold emit
  split
  · rfl
  · dsimp only
    split <;> split <;> rfl

/-- The target of a link is no block. -/
theorem blocks_addTarget (draft : OutlineDraft) (key : String) (target : LinkTarget) :
    (draft.addTarget key target).blocks = draft.blocks := by
  unfold addTarget
  split <;> rfl

/-- A block that is emitted opens and closes no quote. -/
theorem depth_emit (draft : OutlineDraft) (token : Block) (start stop : Nat) :
    (draft.emit token start stop).depth = draft.depth := by
  unfold emit
  split
  · rfl
  · dsimp only
    split <;> split <;> rfl

/-- A block that is emitted is walked over, and a slice is cut before or behind it where the walk
ends a slide. -/
theorem IsWalked.emit (walked : draft.IsWalked) {token : Block}
    (within : token.isQuoteEdge = false) (start stop : Nat) :
    (draft.emit token start stop).IsWalked where
  told := by rw [blocks_emit, SlideWalk.ofBlocks_concat, walked.told, walk_emit draft within]
  inside := by
    intro inside
    rw [depth_emit] at inside
    rw [emit_of_inside inside]
    exact walked.inside inside

/-- The target of a link changes nothing about the walk. -/
theorem IsWalked.addTarget (walked : draft.IsWalked) (key : String) (target : LinkTarget) :
    (draft.addTarget key target).IsWalked := by
  unfold OutlineDraft.addTarget
  split <;> exact ⟨walked.told, walked.inside⟩

/-- The beginning of a quote is walked over one level deeper. -/
theorem IsWalked.openQuote (walked : draft.IsWalked) (offset : Nat) :
    (draft.openQuote offset).IsWalked where
  told := by
    rw [openQuote_blocks, SlideWalk.ofBlocks_concat, walked.told, SlideWalk.step]
    have content := walked.inside
    by_cases outermost : draft.depth = 0
    · simp [walk, outermost, SlideWalk.pass, Block.turn, Block.endsSlide, Block.startsSlide,
        Block.isContent]
    · simp [walk, outermost, Block.turn]
  inside := by
    intro _
    by_cases outermost : draft.depth = 0
    · simp [outermost]
    · simp [walked.inside (Nat.pos_of_ne_zero outermost)]

/-- The end of a quote is walked over if one is open. -/
theorem IsWalked.closeQuote (walked : draft.IsWalked) (inside : 0 < draft.depth) (offset : Nat) :
    (draft.closeQuote offset).IsWalked where
  told := by
    -- The draft counts the end of the quote as content, the walk does not: its start was enough.
    have deep : draft.walk.depth ≠ 0 := Nat.ne_of_gt inside
    rw [closeQuote_blocks, SlideWalk.ofBlocks_concat, walked.told, SlideWalk.step, if_neg deep]
    simp [walk, Block.turn, walked.inside inside]
  inside := by
    intro _
    simp [walked.inside inside]

/-- Reading a text closes the quotes that it opens. -/
theorem Reads.depth_eq {offset : Nat} {cs : List Char} (reads : Reads draft offset cs after) :
    after.depth = draft.depth := by
  induction reads with
  | nil => rfl
  | blank _ _ _ later => exact later
  | block _ _ _ later => rw [later, depth_emit]
  | linkTarget _ _ _ later => rw [later, (sameCut_addTarget _ _ _).depth]
  | quote _ _ _ _ inner later => rw [later, closeQuote_depth, inner, openQuote_depth,
      Nat.add_sub_cancel]

/-- Reading a source cuts it where its blocks tell. -/
theorem Reads.isWalked {offset : Nat} {cs : List Char} (reads : Reads draft offset cs after)
    (walked : draft.IsWalked) : after.IsWalked := by
  induction reads with
  | nil => exact walked
  | blank _ _ _ later => exact later walked
  | block _ taken _ later =>
    have within := Block.isQuoteEdge_of_isTaken (Block.fitsIn_of_next? taken).2
    exact later (walked.emit within _ _)
  | linkTarget _ _ _ later => exact later (walked.addTarget _ _)
  | quote _ _ innerReads _ inner later =>
    have inside := innerReads.depth_eq
    rw [openQuote_depth] at inside
    exact later ((inner (walked.openQuote _)).closeQuote (by omega) _)

/-- Quotes end only where one is open. -/
def ClosesQuotes (blocks : List Block) : Prop :=
  Stepwise (fun before block => block = .quoteEnd → 0 < (SlideWalk.ofBlocks before).depth) blocks

/-- The blocks of a source end no quote that is not open. -/
theorem Reads.closesQuotes {offset : Nat} {cs : List Char} (reads : Reads draft offset cs after)
    (walked : draft.IsWalked) (closes : ClosesQuotes draft.blocks) : ClosesQuotes after.blocks := by
  induction reads with
  | nil => exact closes
  | blank _ _ _ later => exact later walked closes
  | block _ taken _ later =>
    have within := Block.isQuoteEdge_of_isTaken (Block.fitsIn_of_next? taken).2
    refine later (walked.emit within _ _) ?_
    rw [blocks_emit]
    exact Stepwise.concat_iff.2 ⟨closes, fun edge => by rw [edge] at within; contradiction⟩
  | @linkTarget draft after offset part rest key target _ _ _ later =>
    exact later (walked.addTarget key target) ((blocks_addTarget draft key target).symm ▸ closes)
  | quote _ _ innerReads _ inner later =>
    have inside := innerReads.depth_eq
    rw [openQuote_depth] at inside
    have opened := walked.openQuote
    have quoted := innerReads.isWalked (opened _)
    refine later (quoted.closeQuote (by omega) _) ?_
    rw [closeQuote_blocks]
    refine Stepwise.concat_iff.2 ⟨inner (opened _) ?_, fun _ => ?_⟩
    · rw [openQuote_blocks]
      exact Stepwise.concat_iff.2 ⟨closes, fun edge => nomatch edge⟩
    · rw [quoted.told]
      change 0 < OutlineDraft.depth _
      omega

/-- Rules take all blocks but the edges of quotes. -/
theorem Reads.isTaken {offset : Nat} {cs : List Char} (reads : Reads draft offset cs after)
    (taken : ∀ block ∈ draft.blocks, block.isQuoteEdge = true ∨ block.isTaken = true) :
    ∀ block ∈ after.blocks, block.isQuoteEdge = true ∨ block.isTaken = true := by
  induction reads with
  | nil => exact taken
  | blank _ _ _ later => exact later taken
  | block _ found _ later =>
    apply later
    rw [blocks_emit]
    have last := (Block.fitsIn_of_next? found).2
    exact List.forall_mem_append.2 ⟨taken, List.forall_mem_singleton.2 (.inr last)⟩
  | @linkTarget draft after offset part rest key target _ _ _ later =>
    exact later ((blocks_addTarget draft key target).symm ▸ taken)
  | quote _ _ _ _ inner later =>
    apply later
    rw [closeQuote_blocks]
    refine List.forall_mem_append.2 ⟨inner ?_, List.forall_mem_singleton.2 (.inl rfl)⟩
    rw [openQuote_blocks]
    exact List.forall_mem_append.2 ⟨taken, List.forall_mem_singleton.2 (.inl rfl)⟩

end OutlineDraft

namespace Outline

/-- Rules took all blocks of a source but the edges of quotes. -/
theorem isTaken_of_mem {source : List Char} {outline : Outline}
    (read : ofSource source = .ok outline) {block : Block} (member : block ∈ outline.blocks)
    (within : block.isQuoteEdge = false) : block.isTaken = true := by
  obtain ⟨draft, found, reads⟩ := OutlineDraft.exists_reads {} 0 source
  rw [ofSource, found] at read
  obtain rfl := Except.ok.inj read
  rcases reads.isTaken (fun _ member => absurd member List.not_mem_nil) _ member with edge | taken
  · rw [within] at edge
    contradiction
  · exact taken

/-- A plugin that a source embeds is named by a word. -/
theorem isWord_of_embedded {source : List Char} {outline : Outline}
    (read : ofSource source = .ok outline) {name arguments : String}
    (embedded : .pluginEmbed name arguments ∈ outline.blocks) :
    name.toList.all isWordChar = true := isTaken_of_mem read embedded rfl

/-- A comment that tells something of the file is named by a word. -/
theorem isWord_of_metadata {source : List Char} {outline : Outline}
    (read : ofSource source = .ok outline) {name content : String}
    (told : .metadata name content ∈ outline.blocks) :
    name.toList.all isWordChar = true := isTaken_of_mem read told rfl

/-- The blocks of a source close all of their quotes. -/
theorem closesQuotes_of_ofSource {source : List Char} {outline : Outline}
    (read : ofSource source = .ok outline) : OutlineDraft.ClosesQuotes outline.blocks := by
  obtain ⟨draft, found, reads⟩ := OutlineDraft.exists_reads {} 0 source
  rw [ofSource, found] at read
  obtain rfl := Except.ok.inj read
  have start : OutlineDraft.IsWalked {} := ⟨rfl, fun inside => absurd inside (Nat.lt_irrefl 0)⟩
  exact reads.closesQuotes start Stepwise.nil

/-- The slices of an outline end where its blocks tell, and the last one after all blocks. No quote
is open then. -/
theorem map_endBlock_of_ofSource {source : List Char} {outline : Outline}
    (read : ofSource source = .ok outline) :
    outline.slices.map Slice.endBlock =
        (SlideWalk.ofBlocks outline.blocks).ends ++ [outline.blocks.length] ∧
      (SlideWalk.ofBlocks outline.blocks).depth = 0 := by
  obtain ⟨draft, found, reads⟩ := OutlineDraft.exists_reads {} 0 source
  rw [ofSource, found] at read
  obtain rfl := Except.ok.inj read
  have start : OutlineDraft.IsWalked {} := ⟨rfl, fun inside => absurd inside (Nat.lt_irrefl 0)⟩
  have walked := reads.isWalked start
  constructor
  · have ended := OutlineDraft.walk_endSlice draft (byteSize source)
    rw [← walked.told] at ended
    exact congrArg SlideWalk.ends ended
  · exact (congrArg SlideWalk.depth walked.told).trans reads.depth_eq

end Outline

end LectureDeck
