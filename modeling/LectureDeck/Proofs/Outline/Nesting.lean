import LectureDeck.Proofs.Outline.Lines
import LectureDeck.Proofs.Outline.Openings
import LectureDeck.Proofs.Outline.Passes

/-!
# Quotes in quotes

The content of a quote is put together from its lines, each with a line break, so that it may be as
long as they are. It is never longer, and it holds fewer quotation marks. Hence reading a source
ends, with calls in one another at most as often as it has characters and quotation marks, and its
quotes stand in one another at most as deep as it has quotation marks
(`LectureDeck.Outline.isNested`).
-/

namespace LectureDeck

open LectureDeck.Text

namespace Block

variable {cs content rest : List Char}

theorem length_lt_of_quoteMark? (read : quoteMark? cs = some content) :
    content.length < cs.length := by
  obtain ⟨inner, indented, read⟩ := Option.bind_eq_some_iff.1 read
  obtain ⟨after, marked, read⟩ := Option.bind_eq_some_iff.1 read
  cases read
  have mark := congrArg List.length (after?_eq_some_iff.1 marked)
  have one : ">".toList.length = 1 := rfl
  rw [List.length_append, one] at mark
  have spaced := (getD_literal?_suffix " " after).length_le
  have indent := (suffix_of_indent? indented).length_le
  omega

/-- Only the last line of a text may gain a line break. -/
theorem length_quotedLines_le (afterBlank : Bool) (cs : List Char) :
    (quotedLines afterBlank (lines cs)).1.length +
        (quotedLines afterBlank (lines cs)).2.flatten.length ≤ cs.length + 1 := by
  induction size : cs.length using Nat.strong_induction_on generalizing afterBlank cs with
  | h size shorter =>
    subst size
    by_cases broken : '\n' ∈ cs
    · obtain ⟨body, rest, unbroken, rfl⟩ := exists_line_of_mem broken
      have whole : (body ++ '\n' :: rest).length = body.length + 1 + rest.length := by simp; omega
      have later (afterBlank : Bool) := shorter rest.length (by omega) afterBlank rest rfl
      rw [lines_append_break unbroken, quotedLines, lineBody_concat_break,
        lineBody_of_not_mem unbroken, whole]
      dsimp only
      split
      · rename_i content marked
        have first := length_lt_of_quoteMark? marked
        have later := later (allBlank content)
        simp only [List.length_append, List.length_cons]
        omega
      · split
        · have later := later false
          simp only [List.length_append, List.length_cons]
          omega
        · rw [← lines_append_break unbroken, flatten_lines, whole]
          simp
    · by_cases empty : cs = []
      · simp [empty, lines, quotedLines]
      · rw [lines_of_not_mem broken empty, quotedLines, lineBody_of_not_mem broken]
        dsimp only
        split
        · rename_i content marked
          have first := length_lt_of_quoteMark? marked
          simp only [quotedLines, List.length_append, List.length_cons, List.length_nil,
            List.flatten_nil]
          omega
        · split <;> simp [quotedLines]

/-- The content of a quote is at most as long as the lines that it was read from. -/
theorem length_le_of_quote? (read : quote? cs = some (.quote content, rest)) :
    content.length + rest.length ≤ cs.length := by
  obtain ⟨first, marked, same⟩ := Option.map_eq_some_iff.1 read
  cases same
  have shorter := length_lt_of_quoteMark? marked
  rw [List.length_append, List.length_cons]
  by_cases broken : '\n' ∈ cs
  · have later := length_quotedLines_le (allBlank first) (afterLine cs)
    have whole := congrArg List.length (firstLine_append_afterLine broken)
    rw [List.length_append, List.length_cons] at whole
    omega
  · have last : afterLine cs = [] := by
      rw [afterLine, List.dropWhile_eq_nil_iff.2 (bne_of_not_mem_break broken), List.drop_nil]
    rw [firstLine_of_not_mem broken] at shorter
    simp only [last, lines, quotedLines, List.length_nil, List.flatten_nil]
    omega

/-- While a text is read, lines of it, or of a quote in it, are taken as a quote, and the content of
the quote is read in turn. -/
inductive ReadsInTurn : List Char → List Char → List Char → Prop
  | here {taken rest content : List Char}
      (quote : next? (taken ++ rest) = some (.quote content, rest)) :
      ReadsInTurn (taken ++ rest) taken content
  | later {part rest taken content : List Char} {item : Item}
      (before : next? (part ++ rest) = some (item, rest)) (later : ReadsInTurn rest taken content) :
      ReadsInTurn (part ++ rest) taken content
  | inside {part rest outer taken content : List Char}
      (quote : next? (part ++ rest) = some (.quote outer, rest))
      (inner : ReadsInTurn outer taken content) : ReadsInTurn (part ++ rest) taken content

section ReadsInTurn

variable {source taken : List Char}

/-- The content of a quote holds fewer quotation marks than the lines that it was read from. -/
theorem ReadsInTurn.count_lt (reads : ReadsInTurn source taken content) :
    content.count '>' < taken.count '>' := by
  induction reads with
  | here quote =>
    have fewer := count_lt_of_quote? (origin_of_next? quote)
    rw [List.count_append] at fewer
    omega
  | later _ _ fewer => exact fewer
  | inside _ _ fewer => exact fewer

theorem ReadsInTurn.length_le (reads : ReadsInTurn source taken content) :
    content.length ≤ taken.length := by
  induction reads with
  | here quote =>
    have shorter := length_le_of_quote? (origin_of_next? quote)
    rw [List.length_append] at shorter
    omega
  | later _ _ shorter => exact shorter
  | inside _ _ shorter => exact shorter

end ReadsInTurn

/-- Quotes begin and end in pairs, and stand in one another at most as deep as `depth`. -/
inductive NestWithin : Nat → List Block → Prop
  | nil {depth : Nat} : NestWithin depth []
  | block {depth : Nat} {token : Block} {blocks : List Block} (other : token.isQuoteEdge = false)
      (later : NestWithin depth blocks) : NestWithin depth (token :: blocks)
  | quote {depth : Nat} {quoted blocks : List Block} (inside : NestWithin depth quoted)
      (later : NestWithin (depth + 1) blocks) :
      NestWithin (depth + 1) (.quoteStart :: quoted ++ .quoteEnd :: blocks)

namespace NestWithin

variable {depth deeper : Nat} {first second : List Block}

theorem mono (nest : NestWithin depth first) (atMost : depth ≤ deeper) :
    NestWithin deeper first := by
  induction nest generalizing deeper with
  | nil => exact .nil
  | block other _ later => exact .block other (later atMost)
  | quote _ _ inside later =>
    cases deeper with
    | zero => contradiction
    | succ deeper => exact .quote (inside (Nat.le_of_succ_le_succ atMost)) (later atMost)

theorem append (nest : NestWithin depth first) (others : NestWithin depth second) :
    NestWithin depth (first ++ second) := by
  induction nest with
  | nil => exact others
  | block other _ later => exact .block other (later others)
  | quote inside _ _ later =>
    rw [List.append_assoc]
    exact .quote inside (later others)

end NestWithin

end Block

namespace OutlineDraft

open LectureDeck.Block

/-- Quotes stand in one another at most as deep as the text that is read has quotation marks. -/
theorem Reads.nestWithin {draft after : OutlineDraft} {offset : Nat} {cs : List Char}
    (reads : Reads draft offset cs after) :
    NestWithin (cs.count '>') (Outline.blocksOf cs) := by
  have fewer (part rest : List Char) : rest.count '>' ≤ (part ++ rest).count '>' :=
    (List.suffix_append part rest).sublist.count_le '>'
  induction reads with
  | nil =>
    rw [Outline.blocksOf_nil]
    exact .nil
  | @blank _ _ _ part rest nonempty taken _ later =>
    rw [Outline.blocksOf_append nonempty taken]
    exact later.mono (fewer part rest)
  | @block _ _ _ part rest _ nonempty taken _ later =>
    rw [Outline.blocksOf_append nonempty taken]
    exact .block (isQuoteEdge_of_isTaken (fitsIn_of_next? taken).2) (later.mono (fewer part rest))
  | @linkTarget _ _ _ part rest _ _ nonempty taken _ later =>
    rw [Outline.blocksOf_append nonempty taken]
    exact later.mono (fewer part rest)
  | @quote _ _ _ _ part rest content nonempty taken _ _ inner later =>
    rw [Outline.blocksOf_append nonempty taken]
    have marks : content.count '>' + 1 ≤ (part ++ rest).count '>' := count_lt_of_next? taken
    have quoted : NestWithin (content.count '>' + 1) (Item.quote content).blocks :=
      .quote inner .nil
    exact (quoted.mono marks).append (later.mono (fewer part rest))

/-- What follows an item is shorter than the text, and the content of a quote is no longer and holds
fewer quotation marks. So calls stand in one another as often as there are characters and marks at
most. -/
theorem exists_readWithin? (draft : OutlineDraft) (offset : Nat) {cs : List Char} {bound : Nat}
    (enough : cs.count '>' + cs.length ≤ bound) :
    ∃ after, draft.readWithin? offset cs bound = some after := by
  induction bound generalizing draft offset cs with
  | zero =>
    obtain rfl : cs = [] := List.length_eq_zero_iff.1 (by omega)
    exact ⟨draft, rfl⟩
  | succ bound inner =>
    rw [readWithin?]
    by_cases empty : cs = []
    · exact ⟨draft, by rw [empty]; rfl⟩
    · obtain ⟨⟨item, rest⟩, taken⟩ := exists_next? empty
      have fewer := (fitsIn_of_next? taken).1.sublist.count_le '>'
      have shorter := length_lt_of_next? taken
      dsimp only at fewer shorter
      have less : rest.count '>' + rest.length ≤ bound := by omega
      have later (draft : OutlineDraft) (offset : Nat) := inner draft offset less
      rw [if_neg (by simpa using empty), taken]
      cases item with
      | blank => exact later _ _
      | block token => exact later _ _
      | linkTarget key target => exact later _ _
      | quote content =>
        have marks := count_lt_of_next? taken
        have size := length_le_of_quote? (origin_of_next? taken)
        have less : content.count '>' + content.length ≤ bound := by omega
        obtain ⟨inside, read⟩ := inner (draft.openQuote offset) offset less
        dsimp only
        rw [read]
        exact later _ _

end OutlineDraft

namespace Outline

open LectureDeck.Block

/-- A source is read with calls in one another as often as it has characters and quotation marks at
most. The content of each quote holds fewer quotation marks than the lines that it was read from,
and quotes begin and end in pairs. -/
structure IsNested (source : List Char) : Prop where
  ends : ∃ outline, ofSourceWithin? source (source.count '>' + source.length) = some outline ∧
    ofSource source = .ok outline ∧ NestWithin (source.count '>') outline.blocks
  fewer : ∀ taken content, ReadsInTurn source taken content → content.count '>' < taken.count '>'
  noLonger : ∀ taken content, ReadsInTurn source taken content → content.length ≤ taken.length

/-- **Reading quotes in quotes ends.** This holds although the content of a quote may be as long as
the lines that it was read from. -/
theorem isNested : (∀ source, IsNested source) ∧ ∃ source taken content,
    ReadsInTurn source taken content ∧ content.length = taken.length := by
  have mark : next? (['>'] ++ []) = some (.quote ['\n'], []) := rfl
  refine ⟨fun source => ⟨?_, fun _ _ reads => reads.count_lt, fun _ _ reads => reads.length_le⟩,
    ['>'], ['>'], ['\n'], .here mark, rfl⟩
  obtain ⟨draft, within⟩ :=
    OutlineDraft.exists_readWithin? {} 0 (Nat.le_refl (source.count '>' + source.length))
  have found : ofSourceWithin? source (source.count '>' + source.length) =
      some (draft.endSlice (byteSize source)).toOutline := by
    rw [ofSourceWithin?, within]
    rfl
  have read := ofSource_of_within found
  obtain ⟨after, -, reads⟩ := OutlineDraft.exists_reads {} 0 source
  exact ⟨_, found, read, blocksOf_of_ofSource read ▸ reads.nestWithin⟩

end Outline

end LectureDeck
