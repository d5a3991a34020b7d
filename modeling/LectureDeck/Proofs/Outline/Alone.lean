import LectureDeck.Proofs.Outline.Passes
import LectureDeck.Proofs.Outline.Reads

/-!
# Slides on their own

The text of a slide that is read alone has the blocks that the slide has in its source
(`LectureDeck.Outline.exists_ofSource_text`), but for a slide that ends within a line and whose end
is the definition of a link when nothing follows. While a source is read, every slice that has ended
is the text of a slide (`LectureDeck.OutlineDraft.Divides`).
-/

namespace LectureDeck

open LectureDeck.Text

namespace Outline

/-- The number of blocks that were read before the slice of an index. -/
def blocksBefore (outline : Outline) : Nat → Nat
  | 0 => 0
  | index + 1 => (outline.slices[index]?.map Slice.endBlock).getD 0

/-- The blocks that were read in the slice of an index. -/
def blocksIn (outline : Outline) (index : Nat) : List Block :=
  (outline.blocks.take (outline.blocksBefore (index + 1))).drop (outline.blocksBefore index)

variable {outline after : Outline} {more : List Slice} {later : List Block} {index : Nat}

theorem blocksBefore_le (ended : ∀ slice ∈ outline.slices, slice.endBlock ≤ outline.blocks.length)
    (index : Nat) : outline.blocksBefore index ≤ outline.blocks.length := by
  cases index with
  | zero => exact Nat.zero_le _
  | succ index =>
    rw [blocksBefore]
    cases present : outline.slices[index]? with
    | none => exact Nat.zero_le _
    | some slice => exact ended slice (List.mem_of_getElem? present)

theorem blocksBefore_eq (slices : after.slices = outline.slices ++ more)
    (inside : index ≤ outline.slices.length) :
    after.blocksBefore index = outline.blocksBefore index := by
  cases index with
  | zero => rfl
  | succ index => rw [blocksBefore, blocksBefore, slices, List.getElem?_append_left inside]

/-- What is read after a slice leaves its blocks alone. -/
theorem blocksIn_eq (slices : after.slices = outline.slices ++ more)
    (blocks : after.blocks = outline.blocks ++ later)
    (ended : ∀ slice ∈ outline.slices, slice.endBlock ≤ outline.blocks.length)
    (inside : index < outline.slices.length) : after.blocksIn index = outline.blocksIn index := by
  rw [blocksIn, blocksIn, blocksBefore_eq slices inside, blocksBefore_eq slices inside.le, blocks,
    List.take_append_of_le_length (blocksBefore_le ended _)]

end Outline

/-- The text of a slide and its blocks. It was read item by item, up to where a slide may end. -/
def IsSlide (text : List Char) (blocks : List Block) : Prop :=
  ∃ beyond, Passes beyond text blocks ∧ (beyond ≠ [] → Breaks text beyond)

theorem IsSlide.blocksOf_eq_or {text : List Char} {blocks : List Block}
    (slide : IsSlide text blocks) : Outline.blocksOf text = blocks ∨
      (EndsAsDefinition text ∧ Outline.blocksOf text <+: blocks) := by
  obtain ⟨beyond, passes, breaks⟩ := slide
  by_cases more : beyond = []
  · subst more
    exact .inl passes.blocksOf_eq
  · exact passes.blocksOf_eq_or more fun _ => breaks more

namespace OutlineDraft

/-- The slices that have ended are those of slides. Of the source, `current` was read in the current
slice, and `rest` is left. -/
structure Divides (draft : OutlineDraft) (source : List Char) (offset : Nat)
    (earlier current rest : List Char) : Prop where
  whole : earlier ++ current ++ rest = source
  offset : offset = byteSize (earlier ++ current)
  sliceStart : draft.sliceStart = byteSize earlier
  outside : draft.depth = 0
  bounded : ∀ slice ∈ draft.slices, slice.endBlock ≤ draft.blocks.length
  passes : Passes rest current (draft.blocks.drop (draft.blocksBefore draft.slices.length))
  slides : ∀ index slice, draft.slices[index]? = some slice →
    IsSlide (slice.text source) (draft.blocksIn index)

variable {draft after : OutlineDraft} {source earlier current part rest : List Char} {offset : Nat}

theorem eq_or_last_of_endSlice {index : Nat} {slice : Slice}
    (present : (draft.endSlice offset).slices[index]? = some slice) :
    (index < draft.slices.length ∧ draft.slices[index]? = some slice) ∨
      (index = draft.slices.length ∧ slice = ⟨draft.sliceStart, offset, draft.blocks.length⟩) := by
  rcases Nat.lt_or_ge index draft.slices.length with inside | last
  · rw [endSlice, List.getElem?_append_left inside] at present
    exact .inl ⟨inside, present⟩
  · rw [endSlice, List.getElem?_append_right last, List.getElem?_singleton] at present
    split at present
    · cases present
      exact .inr ⟨by omega, rfl⟩
    · contradiction

theorem blocksBefore_endSlice (draft : OutlineDraft) (offset : Nat) :
    (draft.endSlice offset).blocksBefore (draft.slices.length + 1) = draft.blocks.length := by
  simp [endSlice, Outline.blocksBefore]

theorem blocksIn_endSlice (draft : OutlineDraft) (offset : Nat) :
    (draft.endSlice offset).blocksIn draft.slices.length =
      draft.blocks.drop (draft.blocksBefore draft.slices.length) := by
  have earlier : (draft.endSlice offset).blocksBefore draft.slices.length =
      draft.blocksBefore draft.slices.length := Outline.blocksBefore_eq rfl le_rfl
  rw [Outline.blocksIn, blocksBefore_endSlice, earlier]
  exact congrArg (List.drop _) List.take_length

/-- The text of the current slice, when it ends. -/
theorem Divides.text_last (divides : draft.Divides source offset earlier current rest)
    (endBlock : Nat) : Slice.text ⟨draft.sliceStart, offset, endBlock⟩ source = current := by
  rw [Slice.text, divides.sliceStart, divides.offset, byteSize_append, ← divides.whole,
    byteRange_append]

theorem Divides.endSlice (divides : draft.Divides source offset earlier current rest)
    (breaks : rest ≠ [] → Breaks current rest) :
    (draft.endSlice offset).Divides source offset (earlier ++ current) [] rest where
  whole := by simpa using divides.whole
  offset := by simpa using divides.offset
  sliceStart := divides.offset
  outside := divides.outside
  bounded := by
    intro slice member
    rcases List.mem_append.1 member with earlier | last
    · exact divides.bounded slice earlier
    · rw [List.mem_singleton.1 last]
      exact le_rfl
  passes := by
    have slices : (draft.endSlice offset).slices.length = draft.slices.length + 1 := by
      simp [OutlineDraft.endSlice]
    rw [slices, blocksBefore_endSlice]
    exact List.drop_length (l := draft.blocks) ▸ Passes.nil
  slides := by
    intro index slice present
    rcases eq_or_last_of_endSlice present with ⟨inside, earlier⟩ | ⟨rfl, rfl⟩
    · have same : (draft.endSlice offset).blocksIn index = draft.blocksIn index :=
        Outline.blocksIn_eq rfl (List.append_nil _).symm divides.bounded inside
      rw [same]
      exact divides.slides index slice earlier
    · rw [blocksIn_endSlice, divides.text_last]
      exact ⟨rest, divides.passes, breaks⟩

/-- An item that cuts nothing belongs to the current slice. -/
theorem Divides.extend (divides : draft.Divides source offset earlier current (part ++ rest))
    (nonempty : part ≠ []) {item : Block.Item}
    (taken : Block.next? (part ++ rest) = some (item, rest))
    (blocks : after.blocks = draft.blocks ++ item.blocks) (slices : after.slices = draft.slices)
    (sliceStart : after.sliceStart = draft.sliceStart) (outside : after.depth = 0) :
    after.Divides source (offset + byteSize part) earlier (current ++ part) rest where
  whole := by simpa using divides.whole
  offset := by rw [divides.offset, ← List.append_assoc, byteSize_append _ part]
  sliceStart := sliceStart.trans divides.sliceStart
  outside := outside
  bounded := by
    intro slice member
    rw [slices] at member
    rw [blocks, List.length_append]
    exact (divides.bounded slice member).trans (Nat.le_add_right _ _)
  passes := by
    have before : after.blocksBefore after.slices.length =
        draft.blocksBefore draft.slices.length := by
      rw [slices]
      exact Outline.blocksBefore_eq (slices.trans (List.append_nil _).symm) le_rfl
    rw [before, blocks, List.drop_append_of_le_length (Outline.blocksBefore_le divides.bounded _)]
    exact divides.passes.concat nonempty taken
  slides := by
    intro index slice present
    rw [slices] at present
    have inside := (List.getElem?_eq_some_iff.1 present).1
    rw [Outline.blocksIn_eq (slices.trans (List.append_nil _).symm) blocks divides.bounded inside]
    exact divides.slides index slice present

theorem Divides.emit (divides : draft.Divides source offset earlier current (part ++ rest))
    (nonempty : part ≠ []) {token : Block}
    (taken : Block.next? (part ++ rest) = some (.block token, rest)) :
    ∃ earlier current, (draft.emit token offset (offset + byteSize part)).Divides source
      (offset + byteSize part) earlier current rest := by
  have ends : Block.EndsWell (part ++ rest) (token, rest) := Block.endsIn_of_next? taken
  obtain ⟨before, pushed, begun, rfl, ended⟩ := emit_cases divides.outside token offset
    (offset + byteSize part)
  have started : ∃ earlier current,
      before.Divides source offset earlier current (part ++ rest) := by
    rcases begun with rfl | ⟨starts, -, rfl⟩
    · exact ⟨_, _, divides⟩
    · obtain ⟨tail, heading⟩ := ends.begun starts
      exact ⟨_, _, divides.endSlice fun _ => breaks_of_indent? heading⟩
  obtain ⟨earlier, current, started⟩ := started
  have pushed : ({ before with hasContent := before.hasContent || token.isContent }.push
      token).Divides source (offset + byteSize part) earlier (current ++ part) rest :=
    started.extend nonempty taken rfl rfl rfl started.outside
  rcases ended with same | ⟨final, same⟩
  · rw [same]
    exact ⟨_, _, pushed⟩
  · rw [same]
    obtain ⟨start, unbroken⟩ := ends.ended final
    refine ⟨_, _, pushed.endSlice fun more => ⟨unbroken, .inl ?_⟩⟩
    rw [List.getLast?_append_of_ne_nil _ nonempty]
    exact getLast?_of_lineStart start more

/-- Reading outside quotes goes on dividing the source. -/
theorem Reads.divides {cs : List Char} (reads : Reads draft offset cs after)
    (divides : draft.Divides source offset earlier current cs) :
    ∃ earlier current, after.Divides source (byteSize source) earlier current [] := by
  induction reads generalizing earlier current with
  | nil draft offset =>
    have size : offset = byteSize source := by
      rw [divides.offset, ← divides.whole, List.append_nil]
    exact ⟨earlier, current, size ▸ divides⟩
  | @blank draft after offset part rest nonempty taken _ later =>
    exact later (divides.extend nonempty taken (List.append_nil _).symm rfl rfl divides.outside)
  | @block draft after offset part rest token nonempty taken _ later =>
    obtain ⟨earlier, current, emitted⟩ := divides.emit nonempty taken
    exact later emitted
  | @linkTarget draft after offset part rest key target nonempty taken _ later =>
    have added := sameCut_addTarget draft key target
    refine later (divides.extend nonempty taken ?_ added.slices added.sliceStart
      (added.depth.trans divides.outside))
    rw [blocks_addTarget]
    exact (List.append_nil _).symm
  | @quote draft quoted after offset part rest content nonempty taken inner _ _ later =>
    -- The text of a quote is no part of the source, but its blocks are blocks of the slice.
    have same := inner.sameCut (by simp)
    refine later (divides.extend nonempty taken ?_ (by simp [same.slices])
      (by simp [same.sliceStart])
      (by simp [same.depth, divides.outside]))
    simp [inner.blocks_eq, Block.Item.blocks]

end OutlineDraft

namespace Outline

/-- Every source has an outline, whose slices are those of slides. -/
theorem exists_divides (source : List Char) : ∃ draft earlier last,
    ofSource source = .ok (OutlineDraft.endSlice draft (byteSize source)).toOutline ∧
      draft.Divides source (byteSize source) earlier last [] := by
  obtain ⟨draft, read, reads⟩ := OutlineDraft.exists_reads {} 0 source
  have start : OutlineDraft.Divides {} source 0 [] [] source :=
    ⟨rfl, rfl, rfl, rfl, by simp, .nil, by simp⟩
  obtain ⟨earlier, last, divides⟩ := reads.divides start
  refine ⟨draft, earlier, last, ?_, divides⟩
  rw [ofSource, read]
  rfl

/-- **A slide means the same on its own.** Every source has an outline, and the text of each of its
slides has one too. That has the blocks that were read in the slide, and no others. The one
exception is a slide, not the last, that ends within a line before a heading and whose end is the
definition of a link when nothing follows it. Blocks at the end of the slide are then missing. -/
theorem exists_ofSource_text (source : List Char) : ∃ outline, ofSource source = .ok outline ∧
    ∀ index slice, outline.slices[index]? = some slice →
      ∃ alone, ofSource (slice.text source) = .ok alone ∧
        (alone.blocks = outline.blocksIn index ∨
          (index + 1 < outline.slices.length ∧ EndsAsDefinition (slice.text source) ∧
            alone.blocks <+: outline.blocksIn index)) := by
  obtain ⟨draft, earlier, last, read, divides⟩ := exists_divides source
  refine ⟨_, read, fun index slice present => ?_⟩
  obtain ⟨_, _, _, again, -⟩ := exists_divides (slice.text source)
  refine ⟨_, again, ?_⟩
  rw [← blocksOf_of_ofSource again]
  rcases OutlineDraft.eq_or_last_of_endSlice present with ⟨inside, _⟩ | ⟨rfl, rfl⟩
  · have ended := divides.endSlice fun more => absurd rfl more
    refine (ended.slides index slice present).blocksOf_eq_or.imp_right
      fun exception => ⟨?_, exception⟩
    simpa [OutlineDraft.endSlice] using inside
  · refine .inl ?_
    rw [divides.text_last, OutlineDraft.blocksIn_endSlice]
    exact divides.passes.blocksOf_eq

/-- Two slides that begin with headings. -/
def twoHeadings : List Char := "# A\n\nOne\n\n# B\n".toList

theorem exists_ofSource_text_twoHeadings : ∃ outline alone, ofSource twoHeadings = .ok outline ∧
    ofSource "# A\n\nOne\n\n".toList = .ok alone ∧ alone.blocks.length = 2 ∧
      alone.blocks = outline.blocksIn 0 := by
  have seen : (ofSourceWithin? twoHeadings 8).any (fun outline =>
      outline.slices[0]?.map (Slice.text · twoHeadings) = some "# A\n\nOne\n\n".toList ∧
        (outline.blocksIn 0).length = 2) = true := by
    decide +kernel
  obtain ⟨outline, read, seen⟩ := exists_ofSource_of_any 8 seen
  obtain ⟨texts, two⟩ := of_decide_eq_true seen
  obtain ⟨slice, present, text⟩ := Option.map_eq_some_iff.1 texts
  obtain ⟨again, same, each⟩ := exists_ofSource_text twoHeadings
  obtain rfl : again = outline := Except.ok.inj (same.symm.trans read)
  obtain ⟨alone, found, blocks⟩ := each 0 slice present
  rw [text] at found blocks
  have agree := blocks.resolve_right fun exception => exception.2.1.getLast?_ne rfl
  exact ⟨again, alone, read, found, by rw [agree, two], agree⟩

/-- The key of a link may go on over the ends of lines, here up to an environment before a
heading. -/
def keyOverLines : List Char := "[foo\n\n\\begin\x7ba\x7d]: u\\end\x7ba\x7d # H\n".toList

/-- A slide has blocks, and no blocks when it is read alone. -/
theorem not_forall_blocks_text : ¬ ∀ source outline index slice, ofSource source = .ok outline →
    outline.slices[index]? = some slice → ∃ alone, ofSource (slice.text source) = .ok alone ∧
      alone.blocks = outline.blocksIn index := by
  intro every
  have seen : (ofSourceWithin? keyOverLines 8).any (fun outline =>
      outline.slices[0]?.any fun slice => (outline.blocksIn 0).length = 2 ∧
        (ofSourceWithin? (slice.text keyOverLines) 8).any fun alone =>
          alone.blocks.isEmpty) = true := by
    decide +kernel
  obtain ⟨outline, read, seen⟩ := exists_ofSource_of_any 8 seen
  obtain ⟨slice, present, seen⟩ := (Option.any_eq_true _ _).1 seen
  obtain ⟨two, seen⟩ := of_decide_eq_true seen
  obtain ⟨alone, again, none⟩ := exists_ofSource_of_any 8 seen
  obtain ⟨other, found, agree⟩ := every keyOverLines outline 0 slice read present
  obtain rfl : other = alone := Except.ok.inj (found.symm.trans again)
  rw [← agree, List.isEmpty_iff.1 none] at two
  contradiction

end Outline

end LectureDeck
