import LectureDeck.Proofs.Outline.Openings
import LectureDeck.Proofs.Outline.Passes
import LectureDeck.Proofs.Outline.Reads

/-!
# Quoted texts

A text is quoted by a quotation mark and a space before each of its lines. What is quoted is read as
it is read outside quotes: it has the same blocks and defines the same links
(`LectureDeck.Outline.exists_ofSource_quoted`). It makes one slide, whatever it holds.
-/

namespace LectureDeck

open LectureDeck.Text

namespace Text

/-- A line after the mark of a quote. -/
def quotedLine (line : List Char) : List Char := '>' :: ' ' :: line

/-- A text with the mark of a quote before each of its lines. -/
def quoted (cs : List Char) : List Char := (lines cs).flatMap quotedLine

end Text

namespace Block

variable {body rest cs : List Char}

theorem quoteMark?_quotedLine (body : List Char) : quoteMark? (quotedLine body) = some body := by
  simp [quoteMark?, quotedLine, indent?, literal?, after?]

theorem isWholeLine_quotedLine {line : List Char} (whole : IsWholeLine line) :
    IsWholeLine (quotedLine line) := by
  obtain ⟨body, unbroken, rfl⟩ := whole
  exact ⟨quotedLine body, by simpa [quotedLine] using unbroken, rfl⟩

theorem lines_quoted (ends : EndsLine cs) : lines (quoted cs) = (lines cs).map quotedLine := by
  rw [quoted, List.flatMap_def]
  refine lines_flatten (List.forall_mem_map.2 fun line member => ?_)
  exact isWholeLine_quotedLine (isWholeLine_of_mem_lines ends line member)

/-- The content of quoted lines is made up of the lines. -/
theorem quotedLines_map (afterBlank : Bool) {each : List (List Char)}
    (whole : ∀ line ∈ each, IsWholeLine line) :
    quotedLines afterBlank (each.map quotedLine) = (each.flatten, []) := by
  induction each generalizing afterBlank with
  | nil => rfl
  | cons line each later =>
    obtain ⟨⟨body, unbroken, rfl⟩, others⟩ := List.forall_mem_cons.1 whole
    have clear : lineBody (quotedLine (body ++ ['\n'])) = quotedLine body := by
      have unbroken : '\n' ∉ quotedLine body := by simpa [quotedLine] using unbroken
      exact (lineBody_concat_break (quotedLine body)).trans (lineBody_of_not_mem unbroken)
    rw [List.map_cons, quotedLines, clear, quoteMark?_quotedLine]
    simp only [later _ others, List.flatten_cons, List.append_assoc, List.singleton_append]

theorem quoted_append_break (unbroken : '\n' ∉ body) (rest : List Char) :
    quoted (body ++ '\n' :: rest) = quotedLine body ++ '\n' :: quoted rest := by
  rw [quoted, lines_append_break unbroken, List.flatMap_cons]
  simp [quotedLine, quoted]

/-- A quoted text is taken as one quote, to its end. -/
theorem quote?_quoted (ends : cs.getLast? = some '\n') :
    quote? (quoted cs) = some (.quote cs, []) := by
  obtain ⟨body, rest, unbroken, rfl⟩ := exists_line_of_mem (List.mem_of_getLast? ends)
  have later : EndsLine rest := EndsLine.of_append_break (.inr ends)
  have clear : '\n' ∉ quotedLine body := by simpa [quotedLine] using unbroken
  rw [quoted_append_break unbroken, quote?, firstLine_append_break clear,
    afterLine_append_break clear, quoteMark?_quotedLine, lines_quoted later]
  simp only [Option.map_some, quotedLines_map _ (isWholeLine_of_mem_lines later), flatten_lines,
    List.flatten_nil]

/-- No rule before that for quotes takes anything of a quoted text. -/
theorem next?_quoted (ends : cs.getLast? = some '\n') :
    next? (quoted cs) = some (.quote cs, []) := by
  have taken := quote?_quoted ends
  obtain ⟨body, rest, unbroken, rfl⟩ := exists_line_of_mem (List.mem_of_getLast? ends)
  rw [quoted_append_break unbroken] at taken ⊢
  have indented : indent? (quotedLine body ++ '\n' :: quoted rest) =
      some (quotedLine body ++ '\n' :: quoted rest) := rfl
  have order : rules = (blank? :: firstRules.map asItem ++ [target?]) ++
      quote? :: lastRules.map asItem := by simp [rules]
  have some : quotedLine body ++ '\n' :: quoted rest ≠ [] := by simp
  refine next?_eq_of_first order (fun rule known => ?_) taken (List.length_pos_iff.2 some)
  simp only [List.cons_append, List.mem_cons, List.mem_append, List.mem_map, List.not_mem_nil,
    or_false] at known
  rcases known with rfl | ⟨rule, known, rfl⟩ | rfl
  · rw [blank?, emptyLines?_eq_none indented rfl (by decide)]
    rfl
  · have unindented := indentedCode?_eq_none indented (by decide)
    rw [asItem, eq_none_of_mem_firstRules (lacks_of_indent? indented (by decide)) unindented known]
    rfl
  · rw [target?, opensWith_linkTarget?.eq_none (lacks_of_indent? indented (by decide))]
    rfl

end Block

namespace OutlineDraft

variable {cs : List Char}

/-- A quoted text is read as a quote with the blocks and the link targets of the text. -/
theorem exists_reads_quoted (ends : cs.getLast? = some '\n') {after : OutlineDraft}
    (reads : Reads {} 0 cs after) : ∃ last, Reads {} 0 (quoted cs) last ∧
      last.blocks = .quoteStart :: after.blocks ++ [.quoteEnd] ∧ last.slices = [] ∧
      last.sliceStart = 0 ∧ last.linkTargets = after.linkTargets := by
  have taken := Block.next?_quoted ends
  have nonempty : quoted cs ≠ [] := by
    intro empty
    rw [empty] at taken
    exact absurd (Block.length_lt_of_next? taken) (Nat.lt_irrefl 0)
  have opened : (openQuote {} 0).linkTargets = ({} : OutlineDraft).linkTargets := rfl
  obtain ⟨inside, inner, agree⟩ := reads.exists_linkTargets opened 0
  have same := inner.sameCut (by simp)
  have whole : Block.next? (quoted cs ++ []) = some (.quote cs, []) := by rwa [List.append_nil]
  refine ⟨inside.closeQuote (0 + byteSize (quoted cs)),
    List.append_nil (quoted cs) ▸ .quote nonempty whole inner (.nil _ _), ?_, ?_, ?_, ?_⟩
  · rw [closeQuote_blocks, inner.blocks_eq, openQuote_blocks, blocksOf_of_reads reads]
    rfl
  · simpa using same.slices
  · simpa using same.sliceStart
  · rw [closeQuote, linkTargets_emit]
    exact agree

end OutlineDraft

namespace Outline

/-- **Quoting changes nothing that is read.** A text that ends with a line break has an outline, and
so has the text with the mark of a quote before each of its lines. That begins and ends a quote and
has the blocks of the text in between, defines the same links, and is one slide. -/
theorem exists_ofSource_quoted (cs : List Char) (ends : cs.getLast? = some '\n') :
    ∃ outline, ofSource cs = .ok outline ∧ ofSource (quoted cs) = .ok
      { blocks := .quoteStart :: outline.blocks ++ [.quoteEnd]
        slices := [⟨0, byteSize (quoted cs), outline.blocks.length + 2⟩]
        linkTargets := outline.linkTargets } := by
  obtain ⟨draft, read, reads⟩ := OutlineDraft.exists_reads {} 0 cs
  obtain ⟨last, quotes, blocks, slices, start, targets⟩ :=
    OutlineDraft.exists_reads_quoted ends reads
  refine ⟨(draft.endSlice (byteSize cs)).toOutline, by rw [ofSource, read]; rfl, ?_⟩
  rw [ofSource, quotes.read_eq]
  simp [OutlineDraft.endSlice, Except.map, blocks, slices, start, targets]

/-- A heading, a quote and a rule that ends a slide. -/
def ruleAfterQuote : List Char := "## A\n\n> b\n\n---\nc\n".toList

/-- Two slides are one when they are quoted. -/
theorem exists_ofSource_quoted_ruleAfterQuote : ruleAfterQuote.getLast? = some '\n' ∧
    ∃ outline, ofSource ruleAfterQuote = .ok outline ∧ outline.slices.length = 2 ∧
      outline.blocks.length = 6 ∧ ofSource (quoted ruleAfterQuote) = .ok
        { blocks := .quoteStart :: outline.blocks ++ [.quoteEnd]
          slices := [⟨0, byteSize (quoted ruleAfterQuote), outline.blocks.length + 2⟩]
          linkTargets := outline.linkTargets } := by
  have ends : ruleAfterQuote.getLast? = some '\n' := by decide
  have seen : (ofSourceWithin? ruleAfterQuote 8).any (fun outline =>
      outline.slices.length = 2 ∧ outline.blocks.length = 6) = true := by decide +kernel
  obtain ⟨outline, read, seen⟩ := exists_ofSource_of_any 8 seen
  obtain ⟨slides, blocks⟩ := of_decide_eq_true seen
  obtain ⟨again, same, quotes⟩ := exists_ofSource_quoted ruleAfterQuote ends
  obtain rfl : again = outline := Except.ok.inj (same.symm.trans read)
  exact ⟨ends, again, read, slides, blocks, quotes⟩

end Outline

end LectureDeck
