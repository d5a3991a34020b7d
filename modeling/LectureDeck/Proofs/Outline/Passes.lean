import LectureDeck.Proofs.Outline.ItemEnds
import LectureDeck.Proofs.Outline.LocalItems
import LectureDeck.Proofs.Outline.Walk

/-!
# Parts of sources

A part of a source is read item by item up to what follows it (`LectureDeck.Passes`). Where the part
ends with a line break, or a heading follows, it has the same blocks when it is read alone, unless
the definition of a link takes its end (`LectureDeck.Passes.blocksOf_eq_or`).
-/

namespace LectureDeck

open LectureDeck.Text

/-- The blocks of a source. -/
def Outline.blocksOf (source : List Char) : List Block :=
  match ofSource source with
  | .ok outline => outline.blocks
  | .error _ => []

theorem Outline.blocksOf_of_ofSource {source : List Char} {outline : Outline}
    (read : ofSource source = .ok outline) : blocksOf source = outline.blocks := by
  rw [blocksOf, read]

/-- The blocks that an item adds. -/
def Block.Item.blocks : Block.Item → List Block
  | .blank => []
  | .block token => [token]
  | .quote content => .quoteStart :: Outline.blocksOf content ++ [.quoteEnd]
  | .linkTarget .. => []

namespace OutlineDraft

/-- Whatever was read before, a text adds the same blocks. -/
theorem Reads.exists_blocks {draft after : OutlineDraft} {offset : Nat} {cs : List Char}
    (reads : Reads draft offset cs after) : ∃ added, after.blocks = draft.blocks ++ added ∧
      ∀ draft offset, ∃ after, Reads draft offset cs after ∧
        after.blocks = draft.blocks ++ added := by
  induction reads with
  | nil draft offset => exact ⟨[], by simp, fun draft offset => ⟨draft, .nil draft offset, by simp⟩⟩
  | @blank draft after offset part rest nonempty taken _ later =>
    obtain ⟨added, same, every⟩ := later
    refine ⟨added, same, fun draft offset => ?_⟩
    obtain ⟨after, reads, blocks⟩ := every draft (offset + byteSize part)
    exact ⟨after, .blank nonempty taken reads, blocks⟩
  | @block draft after offset part rest token nonempty taken _ later =>
    obtain ⟨added, same, every⟩ := later
    refine ⟨token :: added, by simpa [blocks_emit] using same, fun draft offset => ?_⟩
    obtain ⟨after, reads, blocks⟩ :=
      every (draft.emit token offset (offset + byteSize part)) (offset + byteSize part)
    exact ⟨after, .block nonempty taken reads, by simpa [blocks_emit] using blocks⟩
  | @linkTarget draft after offset part rest key target nonempty taken _ later =>
    obtain ⟨added, same, every⟩ := later
    refine ⟨added, by rwa [blocks_addTarget] at same, fun draft offset => ?_⟩
    obtain ⟨after, reads, blocks⟩ := every (draft.addTarget key target) (offset + byteSize part)
    exact ⟨after, .linkTarget nonempty taken reads, by rwa [blocks_addTarget] at blocks⟩
  | @quote draft inside after offset part rest content nonempty taken _ _ inner later =>
    obtain ⟨quoted, sameInside, everyInside⟩ := inner
    obtain ⟨added, same, every⟩ := later
    refine ⟨.quoteStart :: quoted ++ .quoteEnd :: added, by simp [same, sameInside],
      fun draft offset => ?_⟩
    obtain ⟨inside, readsInside, blocksInside⟩ := everyInside (draft.openQuote offset) offset
    obtain ⟨after, reads, blocks⟩ :=
      every (inside.closeQuote (offset + byteSize part)) (offset + byteSize part)
    exact ⟨after, .quote nonempty taken readsInside reads, by simp [blocks, blocksInside]⟩

theorem blocksOf_of_reads {cs : List Char} {after : OutlineDraft} (reads : Reads {} 0 cs after) :
    Outline.blocksOf cs = after.blocks := by
  have read : Outline.ofSource cs = .ok (after.endSlice (byteSize cs)).toOutline := by
    rw [Outline.ofSource, reads.read_eq]
    rfl
  exact (Outline.blocksOf_of_ofSource read).trans rfl

/-- A text that is read adds its blocks. -/
theorem Reads.blocks_eq {draft after : OutlineDraft} {offset : Nat} {cs : List Char}
    (reads : Reads draft offset cs after) : after.blocks = draft.blocks ++ Outline.blocksOf cs := by
  obtain ⟨added, same, every⟩ := reads.exists_blocks
  obtain ⟨alone, again, blocks⟩ := every {} 0
  rw [same, blocksOf_of_reads again, blocks]
  rfl

theorem linkTargets_emit (draft : OutlineDraft) (token : Block) (start stop : Nat) :
    (draft.emit token start stop).linkTargets = draft.linkTargets := by
  unfold emit
  split
  · rfl
  · dsimp only
    split <;> split <;> rfl

theorem linkTargets_addTarget {first second : OutlineDraft}
    (same : first.linkTargets = second.linkTargets) (key : String) (target : LinkTarget) :
    (first.addTarget key target).linkTargets = (second.addTarget key target).linkTargets := by
  unfold addTarget
  rw [same]
  split
  · exact same
  · rfl

/-- Which links a text defines depends on those that were defined before, and on nothing else. -/
theorem Reads.exists_linkTargets {draft after other : OutlineDraft} {offset : Nat} {cs : List Char}
    (reads : Reads draft offset cs after) (same : other.linkTargets = draft.linkTargets)
    (start : Nat) : ∃ last, Reads other start cs last ∧ last.linkTargets = after.linkTargets := by
  induction reads generalizing other start with
  | nil draft offset => exact ⟨other, .nil other start, same⟩
  | @blank draft after offset part rest nonempty taken _ later =>
    obtain ⟨last, reads, agree⟩ := later same (start + byteSize part)
    exact ⟨last, .blank nonempty taken reads, agree⟩
  | @block draft after offset part rest token nonempty taken _ later =>
    have emitted : (other.emit token start (start + byteSize part)).linkTargets =
        (draft.emit token offset (offset + byteSize part)).linkTargets := by
      rw [linkTargets_emit, linkTargets_emit, same]
    obtain ⟨last, reads, agree⟩ := later emitted (start + byteSize part)
    exact ⟨last, .block nonempty taken reads, agree⟩
  | @linkTarget draft after offset part rest key target nonempty taken _ later =>
    obtain ⟨last, reads, agree⟩ := later (linkTargets_addTarget same key target)
      (start + byteSize part)
    exact ⟨last, .linkTarget nonempty taken reads, agree⟩
  | @quote draft inside after offset part rest content nonempty taken _ _ inner later =>
    have opened : (other.openQuote start).linkTargets = (draft.openQuote offset).linkTargets := by
      simp [openQuote, linkTargets_emit, same]
    obtain ⟨quoted, readsInside, agreeInside⟩ := inner opened start
    have closed : (quoted.closeQuote (start + byteSize part)).linkTargets =
        (inside.closeQuote (offset + byteSize part)).linkTargets := by
      simp [closeQuote, linkTargets_emit, agreeInside]
    obtain ⟨last, reads, agree⟩ := later closed (start + byteSize part)
    exact ⟨last, .quote nonempty taken readsInside reads, agree⟩

/-- Two readings of a text that begin with the same link targets end with the same ones. -/
theorem Reads.linkTargets_eq {draft after other last : OutlineDraft} {offset start : Nat}
    {cs : List Char} (reads : Reads draft offset cs after) (again : Reads other start cs last)
    (same : other.linkTargets = draft.linkTargets) : last.linkTargets = after.linkTargets := by
  obtain ⟨found, reads, agree⟩ := reads.exists_linkTargets same start
  obtain rfl : found = last := Except.ok.inj (reads.read_eq.symm.trans again.read_eq)
  exact agree

end OutlineDraft

open OutlineDraft in
/-- A source is read item by item. -/
theorem Outline.blocksOf_append {part rest : List Char} {item : Block.Item} (nonempty : part ≠ [])
    (taken : Block.next? (part ++ rest) = some (item, rest)) :
    blocksOf (part ++ rest) = item.blocks ++ blocksOf rest := by
  have later (draft : OutlineDraft) := exists_reads draft (0 + byteSize part) rest
  cases item with
  | blank =>
    obtain ⟨after, -, reads⟩ := later {}
    rw [blocksOf_of_reads (.blank nonempty taken reads), reads.blocks_eq]
    rfl
  | block token =>
    obtain ⟨after, -, reads⟩ := later (OutlineDraft.emit {} token 0 (0 + byteSize part))
    rw [blocksOf_of_reads (.block nonempty taken reads), reads.blocks_eq, blocks_emit]
    rfl
  | linkTarget key target =>
    obtain ⟨after, -, reads⟩ := later (OutlineDraft.addTarget {} key target)
    rw [blocksOf_of_reads (.linkTarget nonempty taken reads), reads.blocks_eq, blocks_addTarget]
    rfl
  | quote content =>
    obtain ⟨inside, -, inner⟩ := exists_reads (OutlineDraft.openQuote {} 0) 0 content
    obtain ⟨after, -, reads⟩ := later (inside.closeQuote (0 + byteSize part))
    rw [blocksOf_of_reads (.quote nonempty taken inner reads), reads.blocks_eq, closeQuote_blocks,
      inner.blocks_eq, openQuote_blocks]
    rfl

theorem Outline.blocksOf_nil : blocksOf [] = [] := by
  rw [OutlineDraft.blocksOf_of_reads (.nil {} 0)]

/-- A part of a source is read item by item, up to what follows it. -/
inductive Passes (beyond : List Char) : List Char → List Block → Prop
  | nil : Passes beyond [] []
  | cons {part text : List Char} {item : Block.Item} {blocks : List Block} (nonempty : part ≠ [])
      (taken : Block.next? (part ++ (text ++ beyond)) = some (item, text ++ beyond))
      (later : Passes beyond text blocks) : Passes beyond (part ++ text) (item.blocks ++ blocks)

namespace Passes

variable {beyond text part rest : List Char} {blocks : List Block}

/-- One more item. -/
theorem concat (passes : Passes (part ++ rest) text blocks) (nonempty : part ≠ [])
    {item : Block.Item} (taken : Block.next? (part ++ rest) = some (item, rest)) :
    Passes rest (text ++ part) (blocks ++ item.blocks) := by
  induction passes with
  | nil =>
    have last : Passes rest (part ++ []) (item.blocks ++ []) := .cons nonempty taken .nil
    simpa using last
  | @cons first text item blocks some found _ later =>
    rw [List.append_assoc, List.append_assoc]
    refine .cons some ?_ later
    rwa [List.append_assoc]

/-- A part of a source adds its blocks to those of what follows it. -/
theorem blocksOf_append (passes : Passes beyond text blocks) :
    Outline.blocksOf (text ++ beyond) = blocks ++ Outline.blocksOf beyond := by
  induction passes with
  | nil => rfl
  | cons nonempty taken _ later =>
    rw [List.append_assoc, Outline.blocksOf_append nonempty taken, later, List.append_assoc]

/-- What is read up to the end of a source is read alone. -/
theorem blocksOf_eq (passes : Passes [] text blocks) : Outline.blocksOf text = blocks := by
  have whole := passes.blocksOf_append
  rwa [Outline.blocksOf_nil, List.append_nil, List.append_nil] at whole

end Passes

open OutlineDraft in
/-- The first block of a source stands after a part that makes no block. -/
theorem Outline.head?_blocksOf_iff {cs : List Char} {token : Block} (other : token ≠ .quoteStart) :
    (blocksOf cs).head? = some token ↔ ∃ passed left rest, cs = passed ++ left ∧
      Passes left passed [] ∧ Block.next? left = some (.block token, rest) := by
  constructor
  · intro first
    induction size : cs.length using Nat.strong_induction_on generalizing cs with
    | h size shorter =>
      subst size
      by_cases empty : cs = []
      · rw [empty, blocksOf_nil] at first
        contradiction
      · obtain ⟨⟨item, rest⟩, taken⟩ := Block.exists_next? empty
        have less := Block.length_lt_of_next? taken
        obtain ⟨part, nonempty, rfl, -⟩ := exists_part_of_next? taken
        rw [blocksOf_append nonempty taken] at first
        have passes (none : item.blocks = []) : ∃ passed left after,
            part ++ rest = passed ++ left ∧ Passes left passed [] ∧
            Block.next? left = some (.block token, after) := by
          rw [none, List.nil_append] at first
          obtain ⟨passed, left, after, rfl, passes, found⟩ := shorter _ less first rfl
          have more := Passes.cons nonempty taken passes
          rw [none] at more
          exact ⟨part ++ passed, left, after, (List.append_assoc ..).symm, more, found⟩
        cases item with
        | blank => exact passes rfl
        | linkTarget key target => exact passes rfl
        | block made =>
          obtain rfl : made = token := Option.some.inj first
          exact ⟨[], part ++ rest, rest, rfl, .nil, taken⟩
        | quote content => exact absurd (Option.some.inj first).symm other
  · rintro ⟨passed, left, rest, rfl, passes, taken⟩
    obtain ⟨part, nonempty, rfl, -⟩ := exists_part_of_next? taken
    rw [passes.blocksOf_append, blocksOf_append nonempty taken]
    rfl

/-- A text ends where a slide may end: it ends with a line break or before a heading, and no line
break follows. -/
structure Breaks (text beyond : List Char) : Prop where
  unbroken : beyond.head? ≠ some '\n'
  ends : text.getLast? = some '\n' ∨ ∃ tail, indent? beyond = some ('#' :: tail)

theorem Breaks.of_append {part text beyond : List Char} (breaks : Breaks (part ++ text) beyond)
    (nonempty : text ≠ []) : Breaks text beyond := by
  refine ⟨breaks.unbroken, breaks.ends.imp_left fun ends => ?_⟩
  rwa [List.getLast?_append_of_ne_nil _ nonempty] at ends

/-- A text ends before a heading. -/
theorem breaks_of_indent? {text beyond tail : List Char}
    (heading : indent? beyond = some ('#' :: tail)) : Breaks text beyond := by
  refine ⟨fun broken => ?_, .inr ⟨tail, heading⟩⟩
  obtain ⟨later, rfl⟩ := List.head?_eq_some_iff.1 broken
  cases heading

/-- The text alone is read up to its end as the definition of a link whose key goes on over the end
of a line. -/
def EndsAsDefinition (text : List Char) : Prop :=
  EndsInLine text ∧ ∃ tail key target, tail <:+ text ∧ '\n' ∈ tail ∧
    Block.linkTarget? tail = some ((key, target), [])

theorem EndsAsDefinition.getLast?_ne {text : List Char} (ends : EndsAsDefinition text) :
    text.getLast? ≠ some '\n' := by
  obtain ⟨⟨body, last, rfl, other⟩, -⟩ := ends
  rw [List.getLast?_concat]
  exact fun same => other (Option.some.inj same)

theorem EndsAsDefinition.of_suffix {text tail : List Char} (ends : EndsAsDefinition tail)
    (later : tail <:+ text) : EndsAsDefinition text := by
  obtain ⟨within, last, key, target, suffix, broken, read⟩ := ends
  exact ⟨within.of_suffix later, last, key, target, suffix.trans later, broken, read⟩

theorem getLast?_of_lineStart {part beyond : List Char}
    (start : Block.LineStart (part ++ beyond) beyond) (more : beyond ≠ []) :
    part.getLast? = some '\n' := by
  obtain ⟨before, whole⟩ := start.resolve_left more
  have same : part = before ++ ['\n'] := by
    refine List.append_cancel_right (whole.symm.trans ?_)
    rw [List.append_assoc]
    rfl
  rw [same, List.getLast?_concat]

theorem head?_of_indent? {cs tail : List Char} {c : Char} (indented : indent? cs = some (c :: tail))
    (ahead : ∀ d ∈ cs.head?, isGap d = false) : cs.head? = some c := by
  cases cs with
  | nil => exact absurd indented (by simp [indent?])
  | cons d cs =>
    have other : (d == ' ') = false := by
      have gap := ahead d rfl
      simp only [isGap, Bool.or_eq_false_iff] at gap
      exact gap.1
    simp only [indent?, List.takeWhile_cons, List.dropWhile_cons, other] at indented
    exact congrArg some (List.cons.inj (Option.some.inj indented)).1

namespace Passes

variable {beyond text part : List Char} {blocks : List Block}

/-- The last item of a part. -/
theorem exists_last (passes : Passes beyond text blocks) (nonempty : text ≠ []) :
    ∃ before part item, text = before ++ part ∧ part ≠ [] ∧
      Block.next? (part ++ beyond) = some (item, beyond) := by
  induction passes with
  | nil => contradiction
  | @cons part text item blocks some taken _ later =>
    by_cases last : text = []
    · subst last
      exact ⟨[], part, item, List.append_nil part, some, taken⟩
    · obtain ⟨before, part', item', rfl, some, taken⟩ := later last
      exact ⟨part ++ before, part', item', (List.append_assoc ..).symm, some, taken⟩

/-- An item that ends within a line leaves the rest of it to others. -/
theorem stopsOnLine_of_next? {item : Block.Item}
    (taken : Block.next? (part ++ beyond) = some (item, beyond)) (more : beyond ≠ [])
    (unbroken : part.getLast? ≠ some '\n') : Block.StopsOnLine (part ++ beyond) beyond := by
  have inside : ¬Block.LineStart (part ++ beyond) beyond := fun start =>
    unbroken (getLast?_of_lineStart start more)
  have ends := Block.endsIn_of_next? taken
  cases item with
  | blank => exact absurd ends inside
  | block token => exact ends.stops.resolve_left inside
  | quote content => exact absurd ends inside
  | linkTarget key target => exact absurd ends inside

/-- Where a slide may end, a text may be cut. -/
theorem seam (passes : Passes beyond text blocks) (nonempty : text ≠ []) (more : beyond ≠ [])
    (breaks : Breaks text beyond) : Seam text beyond := by
  by_cases ended : text.getLast? = some '\n'
  · obtain ⟨body, rfl⟩ := List.getLast?_eq_some_iff.1 ended
    exact ⟨more, breaks.unbroken, body, '\n', [], rfl, rfl, rfl, .inl ⟨rfl, rfl⟩⟩
  · obtain ⟨before, part, item, rfl, some, taken⟩ := passes.exists_last nonempty
    rw [List.getLast?_append_of_ne_nil _ some] at ended
    have stops := stopsOnLine_of_next? taken more ended
    obtain ⟨body, last, gap, whole, ends, other, gaps⟩ := stops.ends
    obtain ⟨tail, heading⟩ := (breaks.of_append some).ends.resolve_left ended
    have ahead : beyond.head? = Option.some '#' := head?_of_indent? heading stops.ahead
    obtain rfl : part = body ++ last :: gap := List.append_cancel_right whole
    exact Seam.append ⟨more, breaks.unbroken, body, last, gap, rfl, ends, gaps, .inr ⟨other, ahead⟩⟩
      before

/-- What an item begins with, given that the text before a seam is not a whole line. -/
theorem begun {item : Block.Item} {rest : List Char} (seam : Seam (part ++ rest) beyond)
    (taken : Block.next? (part ++ (rest ++ beyond)) = some (item, rest ++ beyond)) :
    Block.Begun (part ++ rest) := by
  by_cases broken : '\n' ∈ part ++ rest
  · exact .inl broken
  · have unbroken : part.getLast? ≠ some '\n' := fun ended =>
      broken (List.mem_append_left _ (List.mem_of_getLast? ended))
    have more : rest ++ beyond ≠ [] := fun empty =>
      seam.nonempty (List.append_eq_nil_iff.1 empty).2
    obtain ⟨c, tail, indented, known⟩ := (stopsOnLine_of_next? taken more unbroken).begins
    rw [← List.append_assoc, stays_indent?.same seam] at indented
    obtain ⟨start, alone, same⟩ := Option.map_eq_some_iff.1 indented
    have within : Seam start beyond := stays_indent?.left seam alone
    obtain ⟨d, start, rfl⟩ := List.exists_cons_of_ne_nil within.ne_nil
    obtain ⟨rfl, -⟩ := List.cons.inj same
    exact .inr ⟨d, start, alone, known⟩

/-- A part of a source has the same blocks when it is read alone, or it ends as the definition of a
link. Then only blocks at its end are missing. -/
theorem blocksOf_eq_or (passes : Passes beyond text blocks) (more : beyond ≠ [])
    (breaks : text ≠ [] → Breaks text beyond) : Outline.blocksOf text = blocks ∨
      (EndsAsDefinition text ∧ Outline.blocksOf text <+: blocks) := by
  induction passes with
  | nil => exact .inl Outline.blocksOf_nil
  | @cons part text item blocks nonempty taken passes later =>
    have some : part ++ text ≠ [] := fun empty => nonempty (List.append_eq_nil_iff.1 empty).1
    have breaks := breaks some
    have seam := (Passes.cons nonempty taken passes).seam some more breaks
    have begun := begun seam taken
    rcases Block.cut_next? seam begun with (same | ⟨found, beyond, shorter⟩) |
      ⟨within, key, target, all, read⟩
    -- The item is the same, so that the rest is read as it is in the source.
    · rw [List.append_assoc, taken] at same
      obtain ⟨⟨item', rest⟩, alone, agree⟩ := Option.map_eq_some_iff.1 same.symm
      obtain ⟨rfl, left⟩ := Prod.mk.inj agree
      obtain rfl : rest = text := List.append_cancel_right left
      rw [Outline.blocksOf_append nonempty alone]
      rcases later breaks.of_append with same | ⟨ends, missing⟩
      · exact .inl (by rw [same])
      · exact .inr ⟨ends.of_suffix (List.suffix_append part rest),
          (List.prefix_append_right_inj _).2 missing⟩
    -- No item of the part goes on beyond it.
    · rw [List.append_assoc, taken] at beyond
      cases beyond
      change (text ++ _).length < _ at shorter
      rw [List.length_append] at shorter
      omega
    -- All that is left is one definition, which has no blocks.
    · refine .inr ⟨⟨within, part ++ text, key, target, List.suffix_refl _, ?_, read⟩, ?_⟩
      · refine begun.resolve_right fun ⟨c, tail, indented, known⟩ => ?_
        obtain ⟨start, opened⟩ := Block.exists_indent?_of_linkTarget? read
        obtain ⟨rfl, -⟩ := List.cons.inj (Option.some.inj (opened.symm.trans indented))
        contradiction
      · have none : Outline.blocksOf (part ++ text) = [] := by
          have taken : Block.next? (part ++ text ++ []) =
              Option.some (.linkTarget key target, []) := by
            rwa [List.append_nil]
          have read := Outline.blocksOf_append some taken
          rwa [List.append_nil, Outline.blocksOf_nil] at read
        rw [none]
        exact List.nil_prefix

end Passes

end LectureDeck
