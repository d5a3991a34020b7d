import LectureDeck.Decimal.Layout
import LectureDeck.Markup.Block.Remainder
import LectureDeck.Text.Utf8

/-!
# Sources as slides

A source is read block by block, and quoted lines in turn. On the way it is cut into slices, one for
each slide: after rules, and before headings of the first two levels that follow other content.
Blocks in quotes cut nothing.
-/

namespace LectureDeck

open LectureDeck.Text

/-- A block begins a slide when the slide before it has content. -/
def Block.startsSlide : Block → Bool
  | .heading level content => level ≤ 2 && !allBlank content.toList
  | _ => false

def Block.endsSlide : Block → Bool
  | .rule => true
  | _ => false

/-- A block is content of its slide. What a comment tells of the file is not. -/
def Block.isContent : Block → Bool
  | .metadata .. => false
  | _ => true

/-- The part of a source that makes a slide, from an offset in bytes to another. -/
structure Slice where
  start : Nat
  stop : Nat
  /-- The number of blocks that were read when the slice ended. -/
  endBlock : Nat
deriving DecidableEq, Repr

def Slice.text (slice : Slice) (source : List Char) : List Char :=
  byteRange slice.start slice.stop source

/-- What reading a source yields. -/
structure Outline where
  /-- All blocks in order, those of quotes between their starts and ends. -/
  blocks : List Block := []
  /-- One for each slide. -/
  slices : List Slice := []
  /-- The targets of links, of which the first of each key counts. -/
  linkTargets : List (String × LinkTarget) := []
deriving Repr

/-- No rule takes anything from the rest of a source. -/
structure UnreadText where
  offset : Nat
deriving DecidableEq, Repr

/-- What is said of a text that no rule reads. -/
def UnreadText.message (unread : UnreadText) : String :=
  "internal tokenizer error: no rule matched at byte " ++ Decimal.naturalText unread.offset

/-- An outline while its source is read. -/
structure OutlineDraft extends Outline where
  /-- The number of quotes that are open. -/
  depth : Nat := 0
  /-- The offset at which the current slice begins. -/
  sliceStart : Nat := 0
  /-- The current slice has content. -/
  hasContent : Bool := false
deriving Repr

namespace OutlineDraft

def endSlice (draft : OutlineDraft) (offset : Nat) : OutlineDraft :=
  { draft with
    slices := draft.slices ++ [⟨draft.sliceStart, offset, draft.blocks.length⟩]
    sliceStart := offset
    hasContent := false }

/-- A block put after those before it. -/
def push (draft : OutlineDraft) (block : Block) : OutlineDraft :=
  { draft with blocks := draft.blocks ++ [block] }

/-- A block that stands between two offsets. Outside quotes it may end a slice, at its start or at
its end. -/
def emit (draft : OutlineDraft) (block : Block) (start stop : Nat) : OutlineDraft :=
  if 0 < draft.depth then draft.push block
  else
    let before := if block.startsSlide && draft.hasContent then draft.endSlice start else draft
    let after := { before with hasContent := before.hasContent || block.isContent }.push block
    if block.endsSlide then after.endSlice stop else after

def openQuote (draft : OutlineDraft) (offset : Nat) : OutlineDraft :=
  let inside := draft.emit .quoteStart offset offset
  { inside with depth := inside.depth + 1 }

def closeQuote (draft : OutlineDraft) (offset : Nat) : OutlineDraft :=
  { draft with depth := draft.depth - 1 }.emit .quoteEnd offset offset

theorem emit_of_inside {draft : OutlineDraft} (inside : 0 < draft.depth) (block : Block)
    (start stop : Nat) : draft.emit block start stop = draft.push block := if_pos inside

@[simp]
theorem openQuote_blocks (draft : OutlineDraft) (offset : Nat) :
    (draft.openQuote offset).blocks = draft.blocks ++ [.quoteStart] := by
  unfold openQuote emit
  split <;> rfl

@[simp]
theorem openQuote_slices (draft : OutlineDraft) (offset : Nat) :
    (draft.openQuote offset).slices = draft.slices := by
  unfold openQuote emit
  split <;> rfl

@[simp]
theorem openQuote_sliceStart (draft : OutlineDraft) (offset : Nat) :
    (draft.openQuote offset).sliceStart = draft.sliceStart := by
  unfold openQuote emit
  split <;> rfl

@[simp]
theorem openQuote_depth (draft : OutlineDraft) (offset : Nat) :
    (draft.openQuote offset).depth = draft.depth + 1 := by
  unfold openQuote emit
  split <;> rfl

@[simp]
theorem openQuote_hasContent (draft : OutlineDraft) (offset : Nat) :
    (draft.openQuote offset).hasContent = (draft.hasContent || draft.depth == 0) := by
  unfold openQuote emit
  split
  · rename_i inside
    simp [push, Nat.ne_of_gt inside]
  · rename_i outside
    simp [push, Block.startsSlide, Block.endsSlide, Block.isContent,
      Nat.eq_zero_of_not_pos outside]

@[simp]
theorem closeQuote_blocks (draft : OutlineDraft) (offset : Nat) :
    (draft.closeQuote offset).blocks = draft.blocks ++ [.quoteEnd] := by
  unfold closeQuote emit
  split <;> rfl

@[simp]
theorem closeQuote_slices (draft : OutlineDraft) (offset : Nat) :
    (draft.closeQuote offset).slices = draft.slices := by
  unfold closeQuote emit
  split <;> rfl

@[simp]
theorem closeQuote_sliceStart (draft : OutlineDraft) (offset : Nat) :
    (draft.closeQuote offset).sliceStart = draft.sliceStart := by
  unfold closeQuote emit
  split <;> rfl

@[simp]
theorem closeQuote_depth (draft : OutlineDraft) (offset : Nat) :
    (draft.closeQuote offset).depth = draft.depth - 1 := by
  unfold closeQuote emit
  split <;> rfl

@[simp]
theorem closeQuote_hasContent (draft : OutlineDraft) (offset : Nat) :
    (draft.closeQuote offset).hasContent = (draft.hasContent || draft.depth - 1 == 0) := by
  unfold closeQuote emit
  split
  · rename_i inside
    simp [push, Nat.ne_of_gt inside]
  · rename_i outside
    have outermost : draft.depth - 1 = 0 := Nat.eq_zero_of_not_pos outside
    simp [push, Block.startsSlide, Block.endsSlide, Block.isContent, outermost]

/-- The target of a key, which counts when there was none before. -/
def addTarget (draft : OutlineDraft) (key : String) (target : LinkTarget) : OutlineDraft :=
  if draft.linkTargets.any fun other => other.1 == key then draft
  else { draft with linkTargets := draft.linkTargets ++ [(key, target)] }

/-- A text read that begins at an offset of the source. The text of a quote counts as beginning
where the quote begins. -/
def read (draft : OutlineDraft) (offset : Nat) (cs : List Char) : Except UnreadText OutlineDraft :=
  if cs.isEmpty then .ok draft
  else
    match _ : Block.next? cs with
    | none => .error ⟨offset⟩
    | some (.blank, rest) => draft.read (offset + (byteSize cs - byteSize rest)) rest
    | some (.block token, rest) =>
      let stop := offset + (byteSize cs - byteSize rest)
      (draft.emit token offset stop).read stop rest
    | some (.linkTarget key target, rest) =>
      (draft.addTarget key target).read (offset + (byteSize cs - byteSize rest)) rest
    | some (.quote content, rest) => do
      let stop := offset + (byteSize cs - byteSize rest)
      let inside ← (draft.openQuote offset).read offset content
      (inside.closeQuote stop).read stop rest
termination_by (cs.count '>', cs.length)
decreasing_by
  · exact Block.lex_lt_of_next? ‹_›
  · exact Block.lex_lt_of_next? ‹_›
  · exact Block.lex_lt_of_next? ‹_›
  · exact Prod.Lex.left _ _ (Block.count_lt_of_next? ‹_›)
  · exact Block.lex_lt_of_next? ‹_›

end OutlineDraft

namespace Outline

/-- The outline of a source. What follows the last end of a slice is a slice too. -/
def ofSource (source : List Char) : Except UnreadText Outline :=
  (OutlineDraft.read {} 0 source).map fun draft => (draft.endSlice (byteSize source)).toOutline

/-- The offsets in bytes at which the slides after the first begin. -/
def breaks (outline : Outline) : List Nat := (outline.slices.drop 1).map Slice.start

/-- The texts of all slices of a source, one after another. -/
def joined (outline : Outline) (source : List Char) : List Char :=
  outline.slices.flatMap fun slice => slice.text source

end Outline

end LectureDeck
