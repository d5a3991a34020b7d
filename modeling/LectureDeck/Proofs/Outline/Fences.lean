import LectureDeck.Proofs.Outline.Openings
import LectureDeck.Proofs.Outline.Reads
import LectureDeck.Proofs.Text.Edges

/-!
# Code between fences

What stands between two fences is code, whatever it looks like: no line of it is read in another way
or changed, unless it closes the fence (`LectureDeck.Outline.ofSource_fenced`).
-/

namespace LectureDeck

open LectureDeck.Text

/-- Code to be put between fences, with the marks that these are made of and the language of the
code. -/
structure FencedCode where
  mark : Char
  /-- The number of marks in each fence. -/
  size : Nat
  /-- Empty when no language is named. -/
  language : List Char
  code : List Char
deriving DecidableEq, Repr

namespace FencedCode

def fence (fenced : FencedCode) : List Char := List.replicate fenced.size fenced.mark

/-- The fence and the language on one line, the code, and the fence again. -/
def text (fenced : FencedCode) : List Char :=
  fenced.fence ++ (fenced.language ++ '\n' :: (fenced.code ++ '\n' :: (fenced.fence ++ ['\n'])))

/-- The language of the block. -/
def language? (fenced : FencedCode) : Option String :=
  if fenced.language = [] then none else some (String.ofList fenced.language)

/-- The language is one word, and nothing in the code closes the fence. -/
structure IsProper (fenced : FencedCode) : Prop where
  mark : fenced.mark = '\x60' ∨ fenced.mark = '~'
  size : 3 ≤ fenced.size
  word : ∀ c ∈ fenced.language, isBlank c = false ∧ c ≠ '\x60' ∧ c ≠ '~'
  /-- The code is not broken off by a line break of its own. -/
  unended : fenced.code.getLast? ≠ some '\n'
  unclosed : ∀ line ∈ lines fenced.code, Block.closesFence fenced.mark fenced.size line = false

variable {fenced : FencedCode}

@[simp]
theorem length_fence : fenced.fence.length = fenced.size := List.length_replicate

theorem closesFence_congr {mark : Char} {size : Nat} {first second : List Char}
    (same : lineBody first = lineBody second) :
    Block.closesFence mark size first = Block.closesFence mark size second := by
  rw [Block.closesFence, same, ← Block.closesFence]

theorem IsProper.isGap_mark (proper : fenced.IsProper) : isGap fenced.mark = false := by
  rcases proper.mark with same | same <;> rw [same] <;> rfl

theorem IsProper.not_mem_fence (proper : fenced.IsProper) : '\n' ∉ fenced.fence := by
  intro inside
  have same := (List.mem_replicate.1 inside).2
  rcases proper.mark with mark | mark <;> rw [mark] at same <;> contradiction

/-- A fence after which something else stands. -/
theorem span_fence {rest : List Char} (other : rest.head? ≠ some fenced.mark) :
    (fenced.fence ++ rest).takeWhile (· == fenced.mark) = fenced.fence ∧
      (fenced.fence ++ rest).dropWhile (· == fenced.mark) = rest := by
  refine span_append (fun c member => ?_) fun c first => ?_
  · exact beq_iff_eq.2 (List.mem_replicate.1 member).2
  · exact beq_eq_false_iff_ne.2 fun same => other (same ▸ first)

/-- A text that begins with a fence is not indented. -/
theorem IsProper.indent?_fence (proper : fenced.IsProper) (rest : List Char) :
    ∃ start, fenced.fence ++ rest = fenced.mark :: start ∧
      indent? (fenced.fence ++ rest) = some (fenced.mark :: start) := by
  obtain ⟨size, more⟩ := Nat.exists_eq_add_of_le' (Nat.le_trans (by decide : 1 ≤ 3) proper.size)
  have whole : fenced.fence ++ rest = fenced.mark :: (List.replicate size fenced.mark ++ rest) := by
    rw [fence, more]
    rfl
  have other : (fenced.mark :: (List.replicate size fenced.mark ++ rest)).head? ≠ some ' ' := by
    rcases proper.mark with mark | mark <;> rw [mark] <;> simp
  refine ⟨_, whole, ?_⟩
  rw [whole]
  exact Block.indent?_spaces (Nat.zero_le 3) other

theorem IsProper.closesFence_fence (proper : fenced.IsProper) :
    Block.closesFence fenced.mark fenced.size (fenced.fence ++ ['\n']) = true := by
  obtain ⟨start, whole, indented⟩ := proper.indent?_fence []
  have marks := span_fence (List.head?_nil.trans_ne (Option.some_ne_none fenced.mark).symm)
  rw [whole] at marks
  rw [List.append_nil] at indented
  rw [Block.closesFence, lineBody_concat_break, lineBody_of_not_mem proper.not_mem_fence, indented]
  simp [marks.1, marks.2, fence, allBlank]

/-- The code is taken line by line, up to the closing fence. -/
theorem IsProper.spanLines_code (proper : fenced.IsProper) :
    spanLines (fun line => !Block.closesFence fenced.mark fenced.size line)
      (fenced.code ++ '\n' :: (fenced.fence ++ ['\n'])) =
        (lines (fenced.code ++ ['\n']), fenced.fence ++ ['\n']) := by
  have parts : fenced.code ++ '\n' :: (fenced.fence ++ ['\n']) =
      (fenced.code ++ ['\n']) ++ (fenced.fence ++ ['\n']) := by simp
  have ends : EndsLine (fenced.code ++ ['\n']) := .inr (by simp)
  have last : lines (fenced.fence ++ ['\n']) = [fenced.fence ++ ['\n']] :=
    lines_append_break proper.not_mem_fence []
  have passed : ∀ line ∈ lines (fenced.code ++ ['\n']),
      (!Block.closesFence fenced.mark fenced.size line) = true := by
    intro line member
    rw [Bool.not_eq_true']
    rcases exists_lineBody_of_mem_lines member with empty | ⟨other, known, same⟩
    · have large := proper.size
      have same : lineBody line = lineBody [] := empty.trans rfl
      rw [closesFence_congr same]
      simp [Block.closesFence, lineBody, dropEndWhile, indent?]
      omega
    · rw [closesFence_congr same]
      exact proper.unclosed other known
  have stops : ¬(!Block.closesFence fenced.mark fenced.size (fenced.fence ++ ['\n'])) = true := by
    rw [proper.closesFence_fence]
    decide
  rw [spanLines_eq, parts, ends.lines_append, last, List.takeWhile_append_of_pos passed,
    List.dropWhile_append_of_pos passed,
    List.takeWhile_cons_of_neg
      (p := fun line => !Block.closesFence fenced.mark fenced.size line) stops,
    List.dropWhile_cons_of_neg
      (p := fun line => !Block.closesFence fenced.mark fenced.size line) stops]
  simp

/-- The language stands alone on the line of the first fence. -/
theorem IsProper.not_mem_language (proper : fenced.IsProper) : '\n' ∉ fenced.language :=
  fun inside => absurd (proper.word _ inside).1 (by decide)

theorem IsProper.trim_language (proper : fenced.IsProper) :
    trim fenced.language = fenced.language :=
  IsTrimmed.trim_eq
    ⟨fun c first => (proper.word c (List.mem_of_head? first)).1,
      fun c last => (proper.word c (List.mem_of_getLast? last)).1⟩

/-- What follows the first fence is not one of its marks. -/
theorem IsProper.head?_info (proper : fenced.IsProper) (rest : List Char) :
    (fenced.language ++ '\n' :: rest).head? ≠ some fenced.mark := by
  intro first
  have known : fenced.mark ∈ fenced.language ++ ['\n'] := by
    refine List.mem_of_head? ?_
    rw [← first]
    cases fenced.language <;> rfl
  rcases List.mem_append.1 known with inside | last
  · obtain ⟨-, backquote, tilde⟩ := proper.word _ inside
    exact proper.mark.elim backquote tilde
  · have other := proper.isGap_mark
    rcases proper.mark with mark | mark <;> rw [mark] at last <;> simp at last

/-- What stands between the fences is taken as it is. -/
theorem IsProper.fencedCode?_text (proper : fenced.IsProper) : Block.fencedCode? fenced.text =
    some (.code fenced.language? (String.ofList fenced.code), []) := by
  obtain ⟨start, whole, indented⟩ := proper.indent?_fence
    (fenced.language ++ '\n' :: (fenced.code ++ '\n' :: (fenced.fence ++ ['\n'])))
  have marks := span_fence (proper.head?_info (fenced.code ++ '\n' :: (fenced.fence ++ ['\n'])))
  have kind : (fenced.mark == '\x60' || fenced.mark == '~') = true := by
    simpa using proper.mark
  have info := firstLine_append_break proper.not_mem_language
    (fenced.code ++ '\n' :: (fenced.fence ++ ['\n']))
  have unquoted : fenced.language.contains '\x60' = false := by
    simpa using fun inside => (proper.word _ inside).2.1 rfl
  have last : afterLine (fenced.fence ++ ['\n']) = [] :=
    afterLine_append_break proper.not_mem_fence []
  have content : lineBody (lines (fenced.code ++ ['\n'])).flatten = fenced.code := by
    rw [flatten_lines, lineBody_concat_break, lineBody_of_getLast?_ne proper.unended]
  rw [firstLine] at info
  rw [Block.fencedCode?, text, indented]
  simp only [kind, if_true, ← whole, marks.1, marks.2, length_fence, info, unquoted,
    proper.trim_language, afterLine_append_break proper.not_mem_language, proper.spanLines_code,
    content, last]
  simp [proper.size, FencedCode.language?]

/-- No rule before that for fences takes anything. -/
theorem IsProper.next?_text (proper : fenced.IsProper) : Block.next? fenced.text =
    some (.block (.code fenced.language? (String.ofList fenced.code)), []) := by
  obtain ⟨start, whole, indented⟩ := proper.indent?_fence
    (fenced.language ++ '\n' :: (fenced.code ++ '\n' :: (fenced.fence ++ ['\n'])))
  have order : Block.rules = [Block.blank?] ++ Block.asItem Block.fencedCode? ::
      (Block.firstRules.tail.map Block.asItem ++ [Block.target?, Block.quote?] ++
        Block.lastRules.map Block.asItem) := rfl
  have taken : Block.asItem Block.fencedCode? fenced.text =
      some (.block (.code fenced.language? (String.ofList fenced.code)), []) := by
    rw [Block.asItem, proper.fencedCode?_text]
    rfl
  have some : fenced.text ≠ [] := by
    rw [text, whole]
    exact List.cons_ne_nil _ _
  refine Block.next?_eq_of_first order (fun rule known => ?_) taken (List.length_pos_iff.2 some)
  obtain rfl := List.mem_singleton.1 known
  have other : fenced.mark ≠ '\n' := by
    rcases proper.mark with mark | mark <;> rw [mark] <;> decide
  rw [Block.blank?, text, Block.emptyLines?_eq_none indented proper.isGap_mark other]
  rfl

end FencedCode

namespace Outline

/-- **Nothing between fences is read in another way.** What stands between two fences is one block
of code and one slide, as it is, if no line of it closes the fence. -/
theorem ofSource_fenced (fenced : FencedCode) (proper : fenced.IsProper) :
    ofSource fenced.text = .ok
      { blocks := [.code fenced.language? (String.ofList fenced.code)]
        slices := [⟨0, byteSize fenced.text, 1⟩]
        linkTargets := [] } := by
  have taken := proper.next?_text
  have some : fenced.text ≠ [] := by
    intro empty
    rw [empty] at taken
    exact absurd (Block.length_lt_of_next? taken) (Nat.lt_irrefl 0)
  rw [← List.append_nil fenced.text] at taken
  have reads : OutlineDraft.Reads {} 0 (fenced.text ++ []) _ := .block some taken (.nil _ _)
  rw [List.append_nil] at reads
  rw [ofSource, reads.read_eq]
  rfl

/-- Code that begins with an empty line and holds a rule, a heading, a definition of a link, shorter
fences and others. -/
def unlikelyCode : FencedCode where
  mark := '~'
  size := 4
  language := "md".toList
  code := "\n---\n# A\n[b]: c\n~~~\n\x60\x60\x60\x60\n    ~~~~\nd".toList

/-- What would make two slides and the target of a link is code. -/
theorem ofSource_fenced_unlikelyCode : unlikelyCode.IsProper ∧ ofSource unlikelyCode.text = .ok
    { blocks := [.code (some "md") "\n---\n# A\n[b]: c\n~~~\n\x60\x60\x60\x60\n    ~~~~\nd"]
      slices := [⟨0, 48, 1⟩]
      linkTargets := [] } := by
  have proper : unlikelyCode.IsProper :=
    ⟨.inr rfl, by decide, forall_mem_of_all (by decide), by decide, by decide⟩
  have size : byteSize unlikelyCode.text = 48 := by decide +kernel
  have read := ofSource_fenced unlikelyCode proper
  rw [size] at read
  exact ⟨proper, read⟩

end Outline

end LectureDeck
