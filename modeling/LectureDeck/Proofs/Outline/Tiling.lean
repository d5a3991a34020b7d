import LectureDeck.Proofs.Outline.Reads
import Mathlib.Data.List.Chain
import Mathlib.Order.Monotone.Basic

/-!
# Slices tile their source

The slices of a source are the bounds of texts that make up the source
(`LectureDeck.Outline.exists_tiles`). While the source is read, the slices that have ended are the
bounds of texts that make up what was read before the current slice
(`LectureDeck.OutlineDraft.Cuts`), and a slice ends only after something was read in it.
-/

namespace LectureDeck

open LectureDeck.Text

/-- Both bounds of a slice. -/
def Slice.bounds (slice : Slice) : Nat × Nat := (slice.start, slice.stop)

/-- The bounds in bytes of texts that follow one another from an offset on. -/
def boundsFrom (start : Nat) : List (List Char) → List (Nat × Nat)
  | [] => []
  | text :: rest => (start, start + byteSize text) :: boundsFrom (start + byteSize text) rest

/-- There are as many bounds as texts. -/
@[simp]
theorem length_boundsFrom (start : Nat) (texts : List (List Char)) :
    (boundsFrom start texts).length = texts.length := by
  induction texts generalizing start with
  | nil => rfl
  | cons text rest same => simp [boundsFrom, same]

/-- The bounds of further texts start where those before them end. -/
theorem boundsFrom_append (start : Nat) (first second : List (List Char)) :
    boundsFrom start (first ++ second) =
      boundsFrom start first ++ boundsFrom (start + byteSize first.flatten) second := by
  induction first generalizing start with
  | nil => rfl
  | cons text rest same => simp [boundsFrom, same, Nat.add_assoc]

/-- The offset in bytes at which the text of an index begins, of texts that follow one another. -/
def offsetAt (texts : List (List Char)) (index : Nat) : Nat := byteSize (texts.take index).flatten

/-- A text ends as many bytes behind its start as it has. -/
theorem offsetAt_succ {texts : List (List Char)} {index : Nat} {text : List Char}
    (present : texts[index]? = some text) :
    offsetAt texts (index + 1) = offsetAt texts index + byteSize text := by
  rw [offsetAt, List.take_add_one, present]
  simp [offsetAt]

/-- Later texts start no earlier. -/
theorem offsetAt_mono (texts : List (List Char)) : Monotone (offsetAt texts) := by
  refine monotone_nat_of_le_succ fun index => ?_
  cases present : texts[index]? with
  | none =>
    have past := List.getElem?_eq_none_iff.1 present
    rw [offsetAt, offsetAt, List.take_of_length_le past, List.take_of_length_le (by omega)]
  | some text => exact offsetAt_succ present ▸ Nat.le_add_right _ _

/-- The last text ends where all of them do. -/
theorem offsetAt_length (texts : List (List Char)) :
    offsetAt texts texts.length = byteSize texts.flatten := by rw [offsetAt, List.take_length]

/-- The offset of a text is where a character begins. -/
theorem isBoundary_offsetAt (texts : List (List Char)) (index : Nat) :
    IsBoundary texts.flatten (offsetAt texts index) :=
  ⟨(texts.take index).flatten, (texts.drop index).flatten,
    by rw [← List.flatten_append, List.take_append_drop], rfl⟩

/-- Between two offsets stand the texts that begin between them. -/
theorem byteRange_offsetAt (texts : List (List Char)) {first last : Nat} (ordered : first ≤ last) :
    byteRange (offsetAt texts first) (offsetAt texts last) texts.flatten =
      ((texts.drop first).take (last - first)).flatten := by
  have split : texts.flatten = (texts.take first).flatten ++
      ((texts.drop first).take (last - first)).flatten ++ (texts.drop last).flatten := by
    have parted : texts.take last = texts.take first ++ (texts.drop first).take (last - first) := by
      conv_lhs => rw [← Nat.add_sub_cancel' ordered, List.take_add]
    rw [← List.flatten_append, ← parted, ← List.flatten_append, List.take_append_drop]
  have size : offsetAt texts last = byteSize (texts.take first).flatten +
      byteSize ((texts.drop first).take (last - first)).flatten := by
    rw [offsetAt, ← byteSize_append, ← List.flatten_append, ← List.take_add,
      Nat.add_sub_cancel' ordered]
  rw [size, split, offsetAt, byteRange_append]

/-- Each text has the bounds at which it stands among the others. -/
theorem getElem?_boundsFrom (start : Nat) (texts : List (List Char)) (index : Nat) :
    (boundsFrom start texts)[index]? = texts[index]?.map fun _ =>
      (start + offsetAt texts index, start + offsetAt texts (index + 1)) := by
  induction texts generalizing start index with
  | nil => rfl
  | cons text rest same =>
    cases index with
    | zero => simp [boundsFrom, offsetAt]
    | succ index => simp [boundsFrom, offsetAt, same, Nat.add_assoc]

namespace OutlineDraft

/-- The slices that have ended cut what was read before the current slice into texts that are not
empty, and `current` was read in the current slice. -/
structure Cuts (draft : OutlineDraft) (passed : List Char) (texts : List (List Char))
    (current : List Char) : Prop where
  whole : texts.flatten ++ current = passed
  bounds : draft.slices.map Slice.bounds = boundsFrom 0 texts
  sliceStart : draft.sliceStart = byteSize texts.flatten
  nonempty : ∀ text ∈ texts, text ≠ []
  content : draft.hasContent = true → current ≠ []
  outside : draft.depth = 0

variable {draft after : OutlineDraft} {passed part current : List Char} {texts : List (List Char)}

/-- A slice that ends is one more text, if something was read in it. -/
theorem Cuts.endSlice (cuts : draft.Cuts passed texts current) (some : current ≠ []) :
    (draft.endSlice (byteSize passed)).Cuts passed (texts ++ [current]) [] where
  whole := by simpa using cuts.whole
  bounds := by
    have size : byteSize passed = byteSize texts.flatten + byteSize current := by
      rw [← cuts.whole, byteSize_append]
    simp [OutlineDraft.endSlice, cuts.bounds, boundsFrom_append, boundsFrom, Slice.bounds,
      cuts.sliceStart, size]
  sliceStart := by
    rw [List.flatten_concat, cuts.whole]
    rfl
  nonempty := by
    intro text member
    rcases List.mem_append.1 member with earlier | last
    · exact cuts.nonempty text earlier
    · rwa [List.mem_singleton.1 last]
  content := by
    intro content
    contradiction
  outside := cuts.outside

/-- Something read without a cut belongs to the current slice. -/
theorem Cuts.extend (cuts : draft.Cuts passed texts current) (nonempty : part ≠ [])
    (slices : after.slices = draft.slices) (sliceStart : after.sliceStart = draft.sliceStart)
    (outside : after.depth = 0) : after.Cuts (passed ++ part) texts (current ++ part) where
  whole := by rw [← List.append_assoc, cuts.whole]
  bounds := by rw [slices, cuts.bounds]
  sliceStart := by rw [sliceStart, cuts.sliceStart]
  nonempty := cuts.nonempty
  content := fun _ => by simp [nonempty]
  outside := outside

/-- A block cuts the source, if at all, where it begins or where it ends. -/
theorem Cuts.emit (cuts : draft.Cuts passed texts current) (nonempty : part ≠ []) (token : Block) :
    ∃ texts current, (draft.emit token (byteSize passed)
      (byteSize passed + byteSize part)).Cuts (passed ++ part) texts current := by
  obtain ⟨before, pushed, begun, rfl, ended⟩ := emit_cases cuts.outside token (byteSize passed)
    (byteSize passed + byteSize part)
  have started : ∃ texts current, before.Cuts passed texts current := by
    rcases begun with rfl | ⟨-, content, rfl⟩
    · exact ⟨_, _, cuts⟩
    · exact ⟨_, _, cuts.endSlice (cuts.content content)⟩
  obtain ⟨texts, current, started⟩ := started
  have pushed : ({ before with hasContent := before.hasContent || token.isContent }.push
      token).Cuts (passed ++ part) texts (current ++ part) :=
    started.extend nonempty rfl rfl started.outside
  rcases ended with same | ⟨-, same⟩
  · rw [same]
    exact ⟨_, _, pushed⟩
  · rw [same, ← byteSize_append]
    exact ⟨_, _, pushed.endSlice (by simp [nonempty])⟩

/-- Reading outside quotes goes on cutting the source. -/
theorem Reads.cuts {offset : Nat} {cs : List Char} (reads : Reads draft offset cs after)
    (cuts : draft.Cuts passed texts current) (size : offset = byteSize passed) :
    ∃ texts current, after.Cuts (passed ++ cs) texts current := by
  induction reads generalizing passed texts current with
  | nil draft offset => exact ⟨texts, current, by rwa [List.append_nil]⟩
  | @blank draft after offset part rest nonempty _ _ later =>
    rw [← List.append_assoc]
    exact later (cuts.extend nonempty rfl rfl cuts.outside) (by rw [size, byteSize_append])
  | @block draft after offset part rest token nonempty _ _ later =>
    rw [← List.append_assoc]
    subst size
    obtain ⟨texts, current, emitted⟩ := cuts.emit nonempty token
    exact later emitted (byteSize_append _ _).symm
  | @linkTarget draft after offset part rest key target nonempty _ _ later =>
    rw [← List.append_assoc]
    have added := sameCut_addTarget draft key target
    exact later (cuts.extend nonempty added.slices added.sliceStart
      (added.depth.trans cuts.outside)) (by rw [size, byteSize_append])
  | @quote draft quoted after offset part rest content nonempty _ inner _ _ later =>
    rw [← List.append_assoc]
    -- The text of a quote is no part of the source, but reading it leaves the cuts alone.
    have inner := inner.sameCut (by simp)
    exact later (cuts.extend nonempty (by simp [inner.slices]) (by simp [inner.sliceStart])
      (by simp [inner.depth, cuts.outside])) (by rw [size, byteSize_append])

end OutlineDraft

namespace Outline

/-- The slices of an outline are the bounds of texts that make up the source. Only the last may be
empty. -/
structure Tiles (outline : Outline) (source : List Char) (texts : List (List Char)) : Prop where
  whole : texts.flatten = source
  bounds : outline.slices.map Slice.bounds = boundsFrom 0 texts
  nonempty : ∀ text ∈ texts.dropLast, text ≠ []
  inhabited : texts ≠ []

/-- Every source has an outline, whose slices tile it. -/
theorem exists_tiles (source : List Char) :
    ∃ outline texts, ofSource source = .ok outline ∧ outline.Tiles source texts := by
  obtain ⟨draft, read, reads⟩ := OutlineDraft.exists_reads {} 0 source
  have start : OutlineDraft.Cuts {} [] [] [] :=
    ⟨rfl, rfl, rfl, by simp, by simp, rfl⟩
  obtain ⟨texts, last, cuts⟩ := reads.cuts start rfl
  refine ⟨(draft.endSlice (byteSize source)).toOutline, texts ++ [last], ?_, ?_⟩
  · rw [ofSource, read]
    rfl
  · have size : byteSize source = byteSize texts.flatten + byteSize last := by
      rw [← byteSize_append, cuts.whole, List.nil_append]
    refine ⟨by simpa using cuts.whole, ?_, ?_, by simp⟩
    · simp [OutlineDraft.endSlice, cuts.bounds, boundsFrom_append, boundsFrom, Slice.bounds,
        cuts.sliceStart, size]
    · simpa using cuts.nonempty

namespace Tiles

variable {outline : Outline} {source : List Char} {texts : List (List Char)}

/-- There are as many slices as texts. -/
theorem length_slices (tiles : outline.Tiles source texts) :
    outline.slices.length = texts.length := by
  simpa using congrArg List.length tiles.bounds

/-- There is a break between every two slices. -/
theorem length_breaks (tiles : outline.Tiles source texts) :
    outline.slices.length = outline.breaks.length + 1 := by
  have inhabited := List.length_pos_iff.2 tiles.inhabited
  have same := tiles.length_slices
  simp only [breaks, List.length_map, List.length_drop]
  omega

/-- The bounds of a slice are those of its text. -/
theorem bounds_getElem (tiles : outline.Tiles source texts) {index : Nat}
    (inside : index < outline.slices.length) :
    outline.slices[index].bounds = (offsetAt texts index, offsetAt texts (index + 1)) := by
  have found := congrArg (·[index]?) tiles.bounds
  have present : index < texts.length := tiles.length_slices ▸ inside
  simp only [List.getElem?_map, getElem?_boundsFrom] at found
  rw [List.getElem?_eq_getElem inside, List.getElem?_eq_getElem present, Option.map_some,
    Option.map_some, Nat.zero_add, Nat.zero_add] at found
  exact Option.some.inj found

/-- A slice starts where its text does. -/
theorem start_getElem (tiles : outline.Tiles source texts) {index : Nat}
    (inside : index < outline.slices.length) :
    outline.slices[index].start = offsetAt texts index :=
  congrArg Prod.fst (tiles.bounds_getElem inside)

/-- A slice stops where its text does. -/
theorem stop_getElem (tiles : outline.Tiles source texts) {index : Nat}
    (inside : index < outline.slices.length) :
    outline.slices[index].stop = offsetAt texts (index + 1) :=
  congrArg Prod.snd (tiles.bounds_getElem inside)

/-- A text that is not the last is not empty. -/
theorem offsetAt_lt (tiles : outline.Tiles source texts) {first last : Nat} (ordered : first < last)
    (inside : last < texts.length) : offsetAt texts first < offsetAt texts last := by
  have early : first < texts.dropLast.length := by
    rw [List.length_dropLast]
    omega
  have nonempty := tiles.nonempty _ (List.getElem_mem early)
  rw [List.getElem_dropLast] at nonempty
  have present : texts[first]? = some texts[first] := List.getElem?_eq_getElem _
  have positive := byteSize_pos nonempty
  calc offsetAt texts first
      < offsetAt texts first + byteSize texts[first] := Nat.lt_add_of_pos_right positive
    _ = offsetAt texts (first + 1) := (offsetAt_succ present).symm
    _ ≤ offsetAt texts last := offsetAt_mono texts ordered

/-- The text of each slice is the one that it bounds. -/
theorem map_text (tiles : outline.Tiles source texts) :
    outline.slices.map (fun slice => slice.text source) = texts := by
  refine List.ext_getElem (by simp [tiles.length_slices]) fun index inside present => ?_
  rw [List.length_map] at inside
  rw [List.getElem_map, Slice.text, tiles.start_getElem inside, tiles.stop_getElem inside,
    ← tiles.whole, byteRange_offsetAt texts (Nat.le_add_right index 1), Nat.add_sub_cancel_left,
    List.drop_eq_getElem_cons present, List.take_succ_cons, List.take_zero, List.flatten_singleton]

/-- The texts of the slices make up the source. -/
theorem joined (tiles : outline.Tiles source texts) : outline.joined source = source := by
  rw [Outline.joined, List.flatMap_def, tiles.map_text, tiles.whole]

end Tiles

/-- **The slices of a source tile it.** Every source has an outline. Its slices follow one another
from the first byte to the last, begin and end where characters do, and make up the source. Only the
last may be empty, so that the breaks between them are positive and increase, and are one less than
the slices. -/
theorem exists_ofSource_tiling (source : List Char) :
    ∃ outline, ofSource source = .ok outline ∧
      outline.slices.head?.map Slice.start = some 0 ∧
      outline.slices.IsChain (fun slice next => next.start = slice.stop) ∧
      outline.slices.getLast?.map Slice.stop = some (byteSize source) ∧
      (∀ slice ∈ outline.slices, IsBoundary source slice.start ∧ IsBoundary source slice.stop ∧
        slice.start ≤ slice.stop) ∧
      outline.joined source = source ∧
      (∀ slice ∈ outline.slices.dropLast, slice.start < slice.stop) ∧
      outline.breaks.Pairwise (· < ·) ∧ (∀ offset ∈ outline.breaks, 0 < offset) ∧
      outline.breaks.length + 1 = outline.slices.length := by
  obtain ⟨outline, texts, read, tiles⟩ := exists_tiles source
  have same := tiles.length_slices
  have positive : 0 < texts.length := List.length_pos_iff.2 tiles.inhabited
  have zero : offsetAt texts 0 = 0 := rfl
  refine ⟨outline, read, ?_, ?_, ?_, ?_, tiles.joined, ?_, ?_, ?_, ?_⟩
  · rw [List.head?_eq_getElem?, List.getElem?_eq_getElem (by omega), Option.map_some,
      tiles.start_getElem, zero]
  · refine List.isChain_iff_getElem.2 fun index inside => ?_
    rw [tiles.start_getElem, tiles.stop_getElem]
  · rw [List.getLast?_eq_getElem?, List.getElem?_eq_getElem (by omega), Option.map_some,
      tiles.stop_getElem, Nat.sub_add_cancel (by omega), same, offsetAt_length, tiles.whole]
  · intro slice member
    obtain ⟨index, inside, rfl⟩ := List.getElem_of_mem member
    rw [tiles.start_getElem, tiles.stop_getElem, ← tiles.whole]
    exact ⟨isBoundary_offsetAt texts _, isBoundary_offsetAt texts _,
      offsetAt_mono texts (Nat.le_succ index)⟩
  · intro slice member
    obtain ⟨index, early, rfl⟩ := List.getElem_of_mem member
    rw [List.length_dropLast] at early
    rw [List.getElem_dropLast, tiles.start_getElem, tiles.stop_getElem]
    exact tiles.offsetAt_lt (Nat.lt_succ_self index) (by omega)
  · refine List.pairwise_iff_getElem.2 fun first last _ inside ordered => ?_
    simp only [breaks, List.length_map, List.length_drop] at inside
    simp only [breaks, List.getElem_map, List.getElem_drop, tiles.start_getElem]
    exact tiles.offsetAt_lt (by omega) (by omega)
  · intro offset member
    obtain ⟨index, inside, rfl⟩ := List.getElem_of_mem member
    simp only [breaks, List.length_map, List.length_drop] at inside
    simp only [breaks, List.getElem_map, List.getElem_drop, tiles.start_getElem]
    exact zero ▸ tiles.offsetAt_lt (by omega) (by omega)
  · exact tiles.length_breaks.symm

end Outline

end LectureDeck
