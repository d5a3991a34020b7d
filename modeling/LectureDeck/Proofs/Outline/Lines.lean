import LectureDeck.Proofs.Outline.Readers
import LectureDeck.Proofs.Text.Edges

/-!
# Texts line by line

The lines of a text that ends with a line break are whole, and a text is told by them
(`LectureDeck.Text.lines_flatten`). What is taken line by line is a part of the lines of a text
(`LectureDeck.Text.spanLines_eq`).
-/

namespace LectureDeck.Text

/-- A line with the line break that ends it. -/
def IsWholeLine (line : List Char) : Prop := ∃ body, '\n' ∉ body ∧ line = body ++ ['\n']

/-- A text ends where a line begins: it is empty, or ends with a line break. -/
def EndsLine (cs : List Char) : Prop := cs = [] ∨ cs.getLast? = some '\n'

/-- A gap is made of spaces and tabs. -/
theorem isGap_iff {c : Char} : isGap c = true ↔ c = ' ' ∨ c = '\t' := by simp [isGap]

/-- A character of a gap is blank. -/
theorem isBlank_of_isGap {c : Char} (gap : isGap c = true) : isBlank c = true := by
  rcases isGap_iff.1 gap with rfl | rfl <;> rfl

/-- A run of characters that satisfy `p`, up to one that does not. -/
theorem span_append {p : Char → Bool} {part rest : List Char} (every : ∀ c ∈ part, p c = true)
    (stops : ∀ c ∈ rest.head?, p c = false) :
    (part ++ rest).takeWhile p = part ∧ (part ++ rest).dropWhile p = rest := by
  rw [List.takeWhile_append_of_pos every, List.dropWhile_append_of_pos every]
  cases rest with
  | nil => exact ⟨List.append_nil part, rfl⟩
  | cons c rest =>
    have stop : ¬p c = true := by simp [stops c rfl]
    rw [List.takeWhile_cons_of_neg stop, List.dropWhile_cons_of_neg stop, List.append_nil]
    exact ⟨rfl, rfl⟩

section Lines

variable {body rest cs more : List Char}

/-- The first line of a text goes up to its first break. -/
theorem firstLine_append_break (unbroken : '\n' ∉ body) (rest : List Char) :
    firstLine (body ++ '\n' :: rest) = body := by
  rw [firstLine_append_of_not_mem unbroken]
  exact List.append_nil body

/-- What comes after a line comes after its break. -/
theorem afterLine_append_break (unbroken : '\n' ∉ body) (rest : List Char) :
    afterLine (body ++ '\n' :: rest) = rest :=
  afterLine_append_of_not_mem unbroken _

/-- The first break ends the first line, and the others are the lines of the rest. -/
theorem lines_append_break (unbroken : '\n' ∉ body) (rest : List Char) :
    lines (body ++ '\n' :: rest) = (body ++ ['\n']) :: lines rest := by
  rw [lines_of_mem (by simp), firstLine_append_break unbroken, afterLine_append_break unbroken]

/-- The first line of a text that has a line break. -/
theorem exists_line_of_mem (broken : '\n' ∈ cs) :
    ∃ body rest, '\n' ∉ body ∧ cs = body ++ '\n' :: rest :=
  ⟨firstLine cs, afterLine cs, fun inside => absurd (List.mem_takeWhile_imp inside) (by decide),
    (firstLine_append_afterLine broken).symm⟩

/-- Whole lines are the lines of the text that they make up. -/
theorem lines_flatten {each : List (List Char)} (whole : ∀ line ∈ each, IsWholeLine line) :
    lines each.flatten = each := by
  induction each with
  | nil => rfl
  | cons line each later =>
    obtain ⟨⟨body, unbroken, rfl⟩, others⟩ := List.forall_mem_cons.1 whole
    rw [List.flatten_cons, List.append_assoc, List.singleton_append, lines_append_break unbroken,
      later others]

/-- A text that ends with a line does so at the end of its last part. -/
theorem EndsLine.of_append (ends : EndsLine (body ++ rest)) : EndsLine rest := by
  rcases List.eq_nil_or_concat rest with rfl | ⟨before, last, rfl⟩
  · exact .inl rfl
  · rcases ends with empty | ends
    · simp at empty
    · exact .inr (by simpa using ends)

/-- So does what follows a break. -/
theorem EndsLine.of_append_break (ends : EndsLine (body ++ '\n' :: rest)) : EndsLine rest := by
  have ends : EndsLine (body ++ ['\n'] ++ rest) := by simpa using ends
  exact ends.of_append

/-- Texts that end with lines do so together. -/
theorem EndsLine.append (first : EndsLine body) (second : EndsLine rest) :
    EndsLine (body ++ rest) := by
  rcases second with rfl | ends
  · rwa [List.append_nil]
  · exact .inr (by rw [List.getLast?_append, ends, Option.some_or])

/-- A text that ends with a line may have any line before it. -/
theorem EndsLine.of_append_line (ends : EndsLine rest) (body : List Char) :
    EndsLine (body ++ '\n' :: rest) := by
  have line : EndsLine (body ++ ['\n']) := .inr (by simp)
  simpa using line.append ends

/-- What holds of the empty text, and with a line before what it holds of, holds of all texts that
end with a line break. -/
@[elab_as_elim]
theorem EndsLine.induct {motive : (cs : List Char) → EndsLine cs → Prop}
    (nil : motive [] (.inl rfl))
    (line : ∀ body rest (_ : '\n' ∉ body) (ends : EndsLine rest), motive rest ends →
      motive (body ++ '\n' :: rest) (ends.of_append_line body))
    {cs : List Char} (ends : EndsLine cs) : motive cs ends := by
  induction size : cs.length using Nat.strong_induction_on generalizing cs with
  | h size shorter =>
    subst size
    by_cases broken : '\n' ∈ cs
    · obtain ⟨body, rest, unbroken, rfl⟩ := exists_line_of_mem broken
      have less : rest.length < (body ++ '\n' :: rest).length := by simp; omega
      exact line body rest unbroken _ (shorter _ less ends.of_append_break rfl)
    · rcases ends with rfl | ends
      · exact nil
      · exact absurd (List.mem_of_getLast? ends) broken

/-- The lines of a text that ends with a line break are whole. -/
theorem isWholeLine_of_mem_lines (ends : EndsLine cs) : ∀ line ∈ lines cs, IsWholeLine line := by
  induction ends using EndsLine.induct with
  | nil => exact fun line member => absurd member List.not_mem_nil
  | line body rest unbroken ends later =>
    rw [lines_append_break unbroken]
    exact List.forall_mem_cons.2 ⟨⟨body, unbroken, rfl⟩, later⟩

/-- The lines of two texts, of which the first ends with a line break. -/
theorem EndsLine.lines_append (ends : EndsLine cs) (more : List Char) :
    lines (cs ++ more) = lines cs ++ lines more := by
  induction ends using EndsLine.induct with
  | nil => rfl
  | line body rest unbroken ends later =>
    rw [List.append_assoc, List.cons_append, lines_append_break unbroken, later,
      lines_append_break unbroken, List.cons_append]

/-- A line with and without its break has the same body. -/
@[simp]
theorem lineBody_concat_break (cs : List Char) : lineBody (cs ++ ['\n']) = lineBody cs := by
  simp [lineBody, dropEndWhile]

/-- A text that ends within a line is left as it is. -/
theorem lineBody_of_getLast?_ne (unended : cs.getLast? ≠ some '\n') : lineBody cs = cs := by
  rcases List.eq_nil_or_concat cs with rfl | ⟨before, last, rfl⟩
  · rfl
  · have stops : ¬(last == '\n') = true := by simpa using unended
    simp [lineBody, dropEndWhile, stops]

/-- A line without a break is its own body. -/
theorem lineBody_of_not_mem (unbroken : '\n' ∉ body) : lineBody body = body :=
  lineBody_of_getLast?_ne fun ends => unbroken (List.mem_of_getLast? ends)

/-- The first line of a text, with its line break. -/
theorem exists_lines_of_ne_nil (nonempty : cs ≠ []) :
    ∃ first others, lines cs = first :: others ∧ lineBody first = firstLine cs := by
  by_cases broken : '\n' ∈ cs
  · refine ⟨_, _, lines_of_mem broken, ?_⟩
    rw [lineBody_concat_break]
    exact lineBody_of_not_mem fun inside => absurd (List.mem_takeWhile_imp inside) (by decide)
  · exact ⟨cs, [], lines_of_not_mem broken nonempty, by
      rw [lineBody_of_not_mem broken, firstLine_of_not_mem broken]⟩

/-- With a line break at its end, a text has the same lines but for their breaks, or one empty line
more. -/
theorem exists_lineBody_of_mem_lines {line : List Char} (member : line ∈ lines (cs ++ ['\n'])) :
    lineBody line = [] ∨ ∃ other ∈ lines cs, lineBody line = lineBody other := by
  induction size : cs.length using Nat.strong_induction_on generalizing cs with
  | h size shorter =>
    subst size
    by_cases broken : '\n' ∈ cs
    · obtain ⟨body, rest, unbroken, rfl⟩ := exists_line_of_mem broken
      have less : rest.length < (body ++ '\n' :: rest).length := by simp; omega
      rw [List.append_assoc, List.cons_append, lines_append_break unbroken] at member
      rw [lines_append_break unbroken]
      rcases List.mem_cons.1 member with rfl | later
      · exact .inr ⟨_, List.mem_cons_self, rfl⟩
      · refine (shorter _ less later rfl).imp_right fun ⟨other, known, same⟩ => ?_
        exact ⟨other, List.mem_cons_of_mem _ known, same⟩
    · rw [lines_append_break broken] at member
      obtain rfl := List.mem_singleton.1 member
      by_cases empty : cs = []
      · exact .inl (by rw [empty]; rfl)
      · refine .inr ⟨cs, ?_, lineBody_concat_break cs⟩
        rw [lines_of_not_mem broken empty]
        exact List.mem_singleton_self cs

/-- Lines are taken as long as they satisfy a condition. -/
theorem spanLinesFrom_eq (p : List Char → Bool) {line start : List Char} (unbroken : '\n' ∉ line)
    (passed : start = line.reverse ++ cs) : spanLinesFrom p line start cs =
      ((lines start).takeWhile p, ((lines start).dropWhile p).flatten) := by
  have clear : '\n' ∉ line.reverse := fun inside => unbroken (List.mem_reverse.1 inside)
  fun_induction spanLinesFrom p line start cs with
  | case1 line start empty =>
    rw [passed, List.isEmpty_iff.1 empty]
    rfl
  | case2 line start some accepted =>
    rw [passed, List.append_nil, lines_of_not_mem clear (by simpa using some)]
    simp [accepted]
  | case3 line start some refused =>
    rw [passed, List.append_nil, lines_of_not_mem clear (by simpa using some)]
    simp [refused]
  | case4 line start rest part accepted later =>
    have accepted : p (line.reverse ++ ['\n']) = true := by simpa using accepted
    have inner : part = ((lines rest).takeWhile p, ((lines rest).dropWhile p).flatten) :=
      later List.not_mem_nil rfl List.not_mem_nil
    rw [passed, lines_append_break clear, inner]
    simp [accepted]
  | case5 line start rest refused =>
    have refused : ¬p (line.reverse ++ ['\n']) = true := by simpa using refused
    rw [passed, lines_append_break clear, List.takeWhile_cons_of_neg refused,
      List.dropWhile_cons_of_neg refused, ← lines_append_break clear, flatten_lines]
  | case6 line start c rest other later =>
    have more : '\n' ∉ c :: line := by simpa [eq_comm] using And.intro other unbroken
    exact later more (by simp [passed]) fun inside => more (List.mem_reverse.1 inside)

/-- What is taken line by line are the first lines of a text. -/
theorem spanLines_eq (p : List Char → Bool) (cs : List Char) :
    spanLines p cs = ((lines cs).takeWhile p, ((lines cs).dropWhile p).flatten) :=
  spanLinesFrom_eq p List.not_mem_nil rfl

/-- If no line is taken then all of the text is left. -/
theorem spanLines_of_nil {p : List Char → Bool} (none : (spanLines p cs).1 = []) :
    spanLines p cs = ([], cs) := by
  have whole := flatten_spanLines p cs
  rw [none, List.flatten_nil, List.nil_append] at whole
  exact Prod.ext none whole

/-- Every line that is taken satisfies the condition. -/
theorem of_mem_spanLines {p : List Char → Bool} {line : List Char}
    (member : line ∈ (spanLines p cs).1) : p line = true := by
  rw [spanLines_eq] at member
  exact List.mem_takeWhile_imp member

/-- What is taken line by line of whole lines, when what follows them is not taken. -/
theorem EndsLine.spanLines_append {p : List Char → Bool} (ends : EndsLine cs)
    (stops : spanLines p more = ([], more)) :
    spanLines p (cs ++ more) = ((spanLines p cs).1, (spanLines p cs).2 ++ more) := by
  rw [spanLines_eq] at stops
  obtain ⟨none, whole⟩ := Prod.mk.inj stops
  rw [spanLines_eq, spanLines_eq, ends.lines_append]
  induction lines cs with
  | nil => simp [none, whole]
  | cons line others later =>
    by_cases accepted : p line = true
    · simpa [accepted] using later
    · simp [accepted, flatten_lines]

end Lines

end LectureDeck.Text
