import LectureDeck.Markup.Outline

/-!
# Readings of sources

How a source is read, as a relation with one case for each kind of item
(`LectureDeck.OutlineDraft.Reads`). Every text has a reading, so that reading never comes to a place
where no rule takes anything (`LectureDeck.OutlineDraft.exists_reads`). What is read in a quote
leaves the slices alone (`LectureDeck.OutlineDraft.Reads.sameCut`).

Reading ends because every item shortens the text, which a proof tells and no evaluation. A reading
of at most a number of items is found by evaluation, and is what the program finds
(`LectureDeck.Outline.ofSource_eq_within`).
-/

namespace LectureDeck

open LectureDeck.Text

namespace OutlineDraft

/-- A text that begins at an offset is read from one draft to another. Each item takes a part of the
text that is not empty. -/
inductive Reads : OutlineDraft → Nat → List Char → OutlineDraft → Prop
  | nil (draft : OutlineDraft) (offset : Nat) : Reads draft offset [] draft
  | blank {draft after : OutlineDraft} {offset : Nat} {part rest : List Char} (nonempty : part ≠ [])
      (taken : Block.next? (part ++ rest) = some (.blank, rest))
      (later : Reads draft (offset + byteSize part) rest after) :
      Reads draft offset (part ++ rest) after
  | block {draft after : OutlineDraft} {offset : Nat} {part rest : List Char} {token : Block}
      (nonempty : part ≠ []) (taken : Block.next? (part ++ rest) = some (.block token, rest))
      (later : Reads (draft.emit token offset (offset + byteSize part)) (offset + byteSize part)
        rest after) :
      Reads draft offset (part ++ rest) after
  | linkTarget {draft after : OutlineDraft} {offset : Nat} {part rest : List Char} {key : String}
      {target : LinkTarget} (nonempty : part ≠ [])
      (taken : Block.next? (part ++ rest) = some (.linkTarget key target, rest))
      (later : Reads (draft.addTarget key target) (offset + byteSize part) rest after) :
      Reads draft offset (part ++ rest) after
  | quote {draft inside after : OutlineDraft} {offset : Nat} {part rest content : List Char}
      (nonempty : part ≠ []) (taken : Block.next? (part ++ rest) = some (.quote content, rest))
      (inner : Reads (draft.openQuote offset) offset content inside)
      (later : Reads (inside.closeQuote (offset + byteSize part)) (offset + byteSize part)
        rest after) :
      Reads draft offset (part ++ rest) after

/-- An item takes a part of the text, and what follows is left. -/
theorem exists_part_of_next? {cs : List Char} {found : Block.Item × List Char}
    (taken : Block.next? cs = some found) :
    ∃ part, part ≠ [] ∧ cs = part ++ found.2 ∧ byteSize cs - byteSize found.2 = byteSize part := by
  obtain ⟨part, whole⟩ := (Block.fitsIn_of_next? taken).1
  refine ⟨part, ?_, whole.symm, ?_⟩
  · rintro rfl
    have shorter := Block.length_lt_of_next? taken
    rw [← whole] at shorter
    exact Nat.lt_irrefl _ shorter
  · rw [← whole, byteSize_append, Nat.add_sub_cancel]

section Equations

variable (draft : OutlineDraft) (offset : Nat) {part rest : List Char} (nonempty : part ≠ [])

include nonempty

theorem read_blank (taken : Block.next? (part ++ rest) = some (.blank, rest)) :
    draft.read offset (part ++ rest) = draft.read (offset + byteSize part) rest := by
  rw [read, if_neg (by simp [nonempty])]
  split <;> rename_i found
  all_goals rw [taken] at found; cases found
  rw [byteSize_append, Nat.add_sub_cancel]

theorem read_block {token : Block}
    (taken : Block.next? (part ++ rest) = some (.block token, rest)) :
    draft.read offset (part ++ rest) =
      (draft.emit token offset (offset + byteSize part)).read (offset + byteSize part) rest := by
  rw [read, if_neg (by simp [nonempty])]
  split <;> rename_i found
  all_goals rw [taken] at found; cases found
  rw [byteSize_append, Nat.add_sub_cancel]

theorem read_linkTarget {key : String} {target : LinkTarget}
    (taken : Block.next? (part ++ rest) = some (.linkTarget key target, rest)) :
    draft.read offset (part ++ rest) =
      (draft.addTarget key target).read (offset + byteSize part) rest := by
  rw [read, if_neg (by simp [nonempty])]
  split <;> rename_i found
  all_goals rw [taken] at found; cases found
  rw [byteSize_append, Nat.add_sub_cancel]

theorem read_quote {content : List Char}
    (taken : Block.next? (part ++ rest) = some (.quote content, rest)) :
    draft.read offset (part ++ rest) = (do
      let inside ← (draft.openQuote offset).read offset content
      (inside.closeQuote (offset + byteSize part)).read (offset + byteSize part) rest) := by
  rw [read, if_neg (by simp [nonempty])]
  split <;> rename_i found
  all_goals rw [taken] at found; cases found
  rw [byteSize_append, Nat.add_sub_cancel]

end Equations

/-- Every text has a reading, and the program finds it. -/
theorem exists_reads (draft : OutlineDraft) (offset : Nat) (cs : List Char) :
    ∃ after, draft.read offset cs = .ok after ∧ Reads draft offset cs after := by
  fun_induction read draft offset cs with
  | case1 draft offset cs isEmpty =>
    rw [List.isEmpty_iff.1 isEmpty]
    exact ⟨draft, rfl, .nil draft offset⟩
  | case2 draft offset cs nonempty unread =>
    obtain ⟨found, taken⟩ := Block.exists_next? fun isEmpty => nonempty (List.isEmpty_iff.2 isEmpty)
    rw [unread] at taken
    contradiction
  | case3 draft offset cs _ rest taken later =>
    obtain ⟨part, nonempty, rfl, size⟩ := exists_part_of_next? taken
    rw [size] at later ⊢
    obtain ⟨after, read, reads⟩ := later
    exact ⟨after, read, .blank nonempty taken reads⟩
  | case4 draft offset cs _ token rest taken stop later =>
    obtain ⟨part, nonempty, rfl, size⟩ := exists_part_of_next? taken
    obtain ⟨after, read, reads⟩ := later
    exact ⟨after, read, .block nonempty taken (size ▸ reads)⟩
  | case5 draft offset cs _ key target rest taken later =>
    obtain ⟨part, nonempty, rfl, size⟩ := exists_part_of_next? taken
    rw [size] at later ⊢
    obtain ⟨after, read, reads⟩ := later
    exact ⟨after, read, .linkTarget nonempty taken reads⟩
  | case6 draft offset cs _ content rest taken stop inner later =>
    obtain ⟨part, nonempty, rfl, size⟩ := exists_part_of_next? taken
    obtain ⟨inside, readInside, readsInside⟩ := inner
    obtain ⟨after, read, reads⟩ := later inside
    refine ⟨after, ?_, .quote nonempty taken readsInside (size ▸ reads)⟩
    rw [readInside]
    exact read

/-- The program finds every reading. -/
theorem Reads.read_eq {draft after : OutlineDraft} {offset : Nat} {cs : List Char}
    (reads : Reads draft offset cs after) : draft.read offset cs = .ok after := by
  induction reads with
  | nil draft offset => rw [read, if_pos List.isEmpty_nil]
  | blank nonempty taken _ later => rw [read_blank _ _ nonempty taken, later]
  | block nonempty taken _ later => rw [read_block _ _ nonempty taken, later]
  | linkTarget nonempty taken _ later => rw [read_linkTarget _ _ nonempty taken, later]
  | quote nonempty taken _ _ inner later =>
    rw [read_quote _ _ nonempty taken, inner]
    exact later

/-- Outside quotes a block may end the slice before it, is put in the current slice, and may end
that. -/
theorem emit_cases {draft : OutlineDraft} (outside : draft.depth = 0) (token : Block)
    (start stop : Nat) : ∃ before pushed : OutlineDraft,
      (before = draft ∨ (token.startsSlide = true ∧ draft.hasContent = true ∧
        before = draft.endSlice start)) ∧
      pushed = { before with hasContent := before.hasContent || token.isContent }.push token ∧
      (draft.emit token start stop = pushed ∨
        (token.endsSlide = true ∧ draft.emit token start stop = pushed.endSlice stop)) := by
  let before := if token.startsSlide && draft.hasContent then draft.endSlice start else draft
  refine ⟨before, _, ?_, rfl, ?_⟩
  · by_cases starts : (token.startsSlide && draft.hasContent) = true
    · have both := Bool.and_eq_true_iff.1 starts
      exact .inr ⟨both.1, both.2, if_pos starts⟩
    · exact .inl (if_neg starts)
  · rw [emit, if_neg (by simp [outside])]
    by_cases ends : token.endsSlide = true
    · exact .inr ⟨ends, if_pos ends⟩
    · exact .inl (if_neg ends)

/-- Two drafts agree on what cuts the source. -/
structure SameCut (before after : OutlineDraft) : Prop where
  slices : after.slices = before.slices
  sliceStart : after.sliceStart = before.sliceStart
  hasContent : after.hasContent = before.hasContent
  depth : after.depth = before.depth

theorem SameCut.trans {first second third : OutlineDraft} (earlier : SameCut first second)
    (later : SameCut second third) : SameCut first third where
  slices := later.slices.trans earlier.slices
  sliceStart := later.sliceStart.trans earlier.sliceStart
  hasContent := later.hasContent.trans earlier.hasContent
  depth := later.depth.trans earlier.depth

theorem sameCut_addTarget (draft : OutlineDraft) (key : String) (target : LinkTarget) :
    SameCut draft (draft.addTarget key target) := by
  unfold addTarget
  split <;> exact ⟨rfl, rfl, rfl, rfl⟩

/-- What is read in a quote cuts nothing. -/
theorem Reads.sameCut {draft after : OutlineDraft} {offset : Nat} {cs : List Char}
    (reads : Reads draft offset cs after) (inside : 0 < draft.depth) : SameCut draft after := by
  induction reads with
  | nil draft offset => exact ⟨rfl, rfl, rfl, rfl⟩
  | blank _ _ _ later => exact later inside
  | @block draft after offset part rest token _ _ _ later =>
    rw [emit_of_inside inside] at later
    have pushed : SameCut draft (draft.push token) := ⟨rfl, rfl, rfl, rfl⟩
    exact pushed.trans (later inside)
  | @linkTarget draft after offset part rest key target _ _ _ later =>
    have added := sameCut_addTarget draft key target
    exact added.trans (later (added.depth ▸ inside))
  | @quote draft quoted after offset part rest content _ _ _ _ inner later =>
    have inner := inner (by simp)
    have closed : SameCut draft (quoted.closeQuote (offset + byteSize part)) := by
      constructor
      · simp [inner.slices]
      · simp [inner.sliceStart]
      · simp [inner.hasContent, inner.depth, Nat.ne_of_gt inside]
      · simp [inner.depth]
    exact closed.trans (later (closed.depth ▸ inside))

end OutlineDraft

end LectureDeck

namespace LectureDeck

open LectureDeck.Text

namespace OutlineDraft

/-- A text read in which items follow one another and stand in one another at most as often as
`bound`. -/
def readWithin? (draft : OutlineDraft) (offset : Nat) (cs : List Char) : Nat → Option OutlineDraft
  | 0 => if cs.isEmpty then some draft else none
  | bound + 1 =>
    if cs.isEmpty then some draft
    else
      match Block.next? cs with
      | none => none
      | some (.blank, rest) =>
        draft.readWithin? (offset + (byteSize cs - byteSize rest)) rest bound
      | some (.block token, rest) =>
        let stop := offset + (byteSize cs - byteSize rest)
        (draft.emit token offset stop).readWithin? stop rest bound
      | some (.linkTarget key target, rest) =>
        (draft.addTarget key target).readWithin? (offset + (byteSize cs - byteSize rest)) rest bound
      | some (.quote content, rest) => do
        let stop := offset + (byteSize cs - byteSize rest)
        let inside ← (draft.openQuote offset).readWithin? offset content bound
        (inside.closeQuote stop).readWithin? stop rest bound

/-- A reading within a bound is the reading. -/
theorem read_eq_of_within {draft after : OutlineDraft} {offset : Nat} {cs : List Char} {bound : Nat}
    (found : draft.readWithin? offset cs bound = some after) :
    draft.read offset cs = .ok after := by
  induction bound generalizing draft after offset cs with
  | zero =>
    unfold readWithin? at found
    split at found
    · rename_i isEmpty
      rw [read, if_pos isEmpty, Option.some.inj found]
    · contradiction
  | succ bound inner =>
    unfold readWithin? at found
    rw [read]
    split at found
    · rename_i isEmpty
      rw [if_pos isEmpty, Option.some.inj found]
    · rename_i nonempty
      rw [if_neg nonempty]
      split at found
      · contradiction
      all_goals
        rename_i taken
        split <;> rename_i same
        all_goals rw [taken] at same; cases same
      · exact inner found
      · exact inner found
      · exact inner found
      -- The bound is on how deep calls go, so the text in a quote and the rest have the same.
      · obtain ⟨inside, quoted, found⟩ := Option.bind_eq_some_iff.1 found
        dsimp only
        rw [inner quoted]
        exact inner found

end OutlineDraft

/-- The outline of a source that holds few items. -/
def Outline.ofSourceWithin? (source : List Char) (bound : Nat) : Option Outline :=
  (OutlineDraft.readWithin? {} 0 source bound).map fun draft =>
    (draft.endSlice (byteSize source)).toOutline

/-- What is found in a number of items is the outline of the source. -/
theorem Outline.ofSource_of_within {source : List Char} {bound : Nat} {outline : Outline}
    (found : ofSourceWithin? source bound = some outline) : ofSource source = .ok outline := by
  obtain ⟨draft, read, rfl⟩ := Option.map_eq_some_iff.1 found
  rw [ofSource, OutlineDraft.read_eq_of_within read]
  rfl

theorem Outline.ofSource_eq_within {source : List Char} (bound : Nat)
    (found : (ofSourceWithin? source bound).isSome = true) :
    ofSource source = .ok ((ofSourceWithin? source bound).get found) :=
  ofSource_of_within (Option.some_get found).symm

/-- What is seen of the outline that is found in a number of items. -/
theorem Outline.exists_ofSource_of_any {source : List Char} (bound : Nat) {holds : Outline → Bool}
    (seen : (ofSourceWithin? source bound).any holds = true) :
    ∃ outline, ofSource source = .ok outline ∧ holds outline = true := by
  obtain ⟨outline, found, holds⟩ := (Option.any_eq_true _ _).1 seen
  exact ⟨outline, ofSource_of_within found, holds⟩

end LectureDeck
