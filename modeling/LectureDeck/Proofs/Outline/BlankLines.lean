import LectureDeck.Proofs.Outline.Openings
import LectureDeck.Proofs.Outline.Passes
import LectureDeck.Proofs.Outline.Reads
import LectureDeck.Proofs.Text.Lowercase

/-!
# Blank lines before a source

Empty lines, in which nothing but spaces and tabs stands, change nothing when they are put before a
source (`LectureDeck.Outline.exists_agrees`). All other blank lines are read as content
(`LectureDeck.exists_passes_of_allBlank`), which is a slide of its own before a heading
(`LectureDeck.Outline.exists_added`).
-/

namespace LectureDeck

open LectureDeck.Text

/-- Nothing but spaces and tabs stands on the lines of a text. -/
def AreEmptyLines (cs : List Char) : Prop := ∀ c ∈ cs, isGap c = true ∨ c = '\n'

instance (cs : List Char) : Decidable (AreEmptyLines cs) :=
  List.decidableBAll (fun c => isGap c = true ∨ c = '\n') cs

/-- Empty lines are blank. -/
theorem AreEmptyLines.allBlank {cs : List Char} (empty : AreEmptyLines cs) :
    allBlank cs = true := by
  refine List.all_eq_true.2 fun c member => ?_
  rcases empty c member with gap | rfl
  · exact isBlank_of_isGap gap
  · rfl

namespace Block

/-! ### Empty lines -/

section EmptyLines

variable {w s : List Char}

/-- What comes behind empty lines is found behind the last of them. -/
theorem afterEmptyLines?_append_break (empty : ∀ c ∈ w, isGap c = true ∨ c = '\n')
    (found : Option (List Char)) (s : List Char) :
    afterEmptyLines? found (w ++ '\n' :: s) = afterEmptyLines? (some s) s := by
  induction w generalizing found with
  | nil => rfl
  | cons c w later =>
    obtain ⟨first, others⟩ := List.forall_mem_cons.1 empty
    rw [List.cons_append, afterEmptyLines?]
    split
    · exact later others _
    · rename_i other
      rw [if_pos (first.resolve_right other)]
      exact later others found

/-- What was found before counts where no empty line follows. -/
theorem afterEmptyLines?_eq_or (found : Option (List Char)) (cs : List Char) :
    afterEmptyLines? found cs = (afterEmptyLines? none cs).or found := by
  induction cs generalizing found with
  | nil => rfl
  | cons c cs later =>
    unfold afterEmptyLines?
    split
    · rw [later (some cs), Option.or_assoc, Option.some_or]
    · split
      · exact later found
      · rfl

/-- Empty lines are taken whole, and perhaps more of them. -/
theorem emptyLines?_append (empty : AreEmptyLines w) (ends : w.getLast? = some '\n')
    (s : List Char) : emptyLines? (w ++ s) = some ((afterEmptyLines? none s).getD s) := by
  obtain ⟨body, rfl⟩ := List.getLast?_eq_some_iff.1 ends
  have inside : ∀ c ∈ body, isGap c = true ∨ c = '\n' := fun c member =>
    empty c (List.mem_append_left _ member)
  rw [emptyLines?, List.append_assoc, List.singleton_append, afterEmptyLines?_append_break inside,
    afterEmptyLines?_eq_or]
  cases afterEmptyLines? none s <;> rfl

/-- Empty lines are passed whole. -/
theorem exists_of_afterEmptyLines? {cs rest : List Char} {found : Option (List Char)}
    (read : afterEmptyLines? found cs = some rest) : found = some rest ∨
      ∃ part, cs = part ++ rest ∧ AreEmptyLines part ∧ part.getLast? = some '\n' := by
  induction cs generalizing found with
  | nil => exact .inl read
  | cons c cs later =>
    unfold afterEmptyLines? at read
    split at read
    · rename_i broken
      subst broken
      rcases later read with same | ⟨part, rfl, empty, ends⟩
      · cases same
        exact .inr ⟨['\n'], rfl, List.forall_mem_singleton.2 (.inr rfl), rfl⟩
      · exact .inr ⟨'\n' :: part, rfl, List.forall_mem_cons.2 ⟨.inr rfl, empty⟩, by
          simp [List.getLast?_cons, ends]⟩
    · split at read
      · rename_i gap
        rcases later read with same | ⟨part, rfl, empty, ends⟩
        · exact .inl same
        · exact .inr ⟨c :: part, rfl, List.forall_mem_cons.2 ⟨.inl gap, empty⟩, by
            simp [List.getLast?_cons, ends]⟩
      · exact .inl read

/-- A row of empty lines that something follows ends with a break. -/
theorem exists_of_emptyLines? {cs rest : List Char} (read : emptyLines? cs = some rest)
    (more : rest ≠ []) :
    ∃ part, cs = part ++ rest ∧ AreEmptyLines part ∧ part.getLast? = some '\n' := by
  unfold emptyLines? at read
  split at read
  · rename_i found
    cases read
    exact (exists_of_afterEmptyLines? found).resolve_left (by simp)
  · split at read
    · cases read
      contradiction
    · contradiction

/-- Empty lines are the next item where there are any, since their rule is tried first. -/
theorem next?_of_emptyLines? {cs rest : List Char} (read : emptyLines? cs = some rest)
    (shorter : rest.length < cs.length) : next? cs = some (.blank, rest) := by
  have order : rules = [] ++ blank? :: (firstRules.map asItem ++ [target?, quote?] ++
      lastRules.map asItem) := rfl
  refine next?_eq_of_first order (fun _ known => absurd known List.not_mem_nil) ?_ shorter
  rw [blank?, read]
  rfl

/-- With empty lines before it, a text goes on after the same empty lines as it does alone. -/
theorem exists_next?_append (empty : AreEmptyLines w) (ends : w.getLast? = some '\n')
    (s : List Char) : ∃ rest, next? (w ++ s) = some (.blank, rest) ∧
      (rest = s ∨ next? s = some (.blank, rest)) := by
  have read := emptyLines?_append empty ends s
  have nonempty : 0 < w.length := List.length_pos_iff.2 (by rintro rfl; contradiction)
  cases found : afterEmptyLines? none s with
  | none =>
    rw [found, Option.getD_none] at read
    exact ⟨s, next?_of_emptyLines? read (by simpa using nonempty), .inl rfl⟩
  | some rest =>
    rw [found, Option.getD_some] at read
    obtain ⟨part, rfl, -, last⟩ := (exists_of_afterEmptyLines? found).resolve_left (by simp)
    have some : 0 < part.length := List.length_pos_iff.2 (by rintro rfl; contradiction)
    have alone : emptyLines? (part ++ rest) = Option.some rest := by rw [emptyLines?, found]
    exact ⟨rest, next?_of_emptyLines? read (by simp; omega),
      .inr (next?_of_emptyLines? alone (by simpa using some))⟩

end EmptyLines

/-! ### Other blank lines -/

/-- What blank lines are read as that are not empty: a paragraph in which nothing stands, or
indented code. -/
def IsFiller (block : Block) : Prop := block = .text "" ∨ ∃ content, block = .code none content

/-- What a text begins with is no part of what blank lines before it begin. -/
structure Halts (s : List Char) : Prop where
  empty : ∀ found, afterEmptyLines? found s = found
  code : spanLines (fun line => (indentedLine? line).isSome) s = ([], s)
  paragraph : spanLines goesOn s = ([], s)

section BlankLines

variable {w s body : List Char}

/-- Two texts are blank together if and only if each of them is. -/
theorem allBlank_append {first second : List Char} :
    allBlank (first ++ second) = true ↔ allBlank first = true ∧ allBlank second = true := by
  simp [allBlank]

/-- After the indentation of a blank line there is a blank character, if any. -/
theorem isBlank_of_indent? {c : Char} {tail : List Char} (blank : allBlank body = true)
    (indented : indent? (body ++ '\n' :: s) = some (c :: tail)) : isBlank c = true := by
  obtain ⟨few, -, whole, -⟩ := exists_spaces_of_indent? indented
  rcases List.append_eq_append_iff.1 whole with ⟨more, spaces, same⟩ | ⟨more, same, last⟩
  · cases more with
    | nil =>
      obtain ⟨rfl, -⟩ := List.cons.inj same
      rfl
    | cons d more =>
      obtain ⟨rfl, -⟩ := List.cons.inj same
      have inside : '\n' ∈ List.replicate few ' ' := by simp [spaces]
      exact absurd (List.mem_replicate.1 inside).2 (by decide)
  · cases more with
    | nil =>
      obtain ⟨rfl, -⟩ := List.cons.inj last
      rfl
    | cons d more =>
      obtain ⟨rfl, -⟩ := List.cons.inj last
      exact List.all_eq_true.1 blank c (by simp [same])

/-- A blank line lacks all marks that are no blanks. -/
theorem lacks_of_allBlank {marks : List Char} (marked : ∀ c ∈ marks, isBlank c = false)
    (blank : allBlank body = true) (s : List Char) : Lacks marks (body ++ '\n' :: s) := by
  intro c tail indented member
  have other := marked c member
  rw [isBlank_of_indent? blank indented] at other
  contradiction

/-- Empty lines are passed up to a line that is not empty. -/
theorem exists_afterEmptyLines?_append (halts : Halts s) (ends : EndsLine w) :
    ∃ mid rest, w = mid ++ rest ∧ AreEmptyLines mid ∧ ∀ found,
      afterEmptyLines? found (w ++ s) = if mid = [] then found else some (rest ++ s) := by
  induction ends using EndsLine.induct with
  | nil =>
    exact ⟨[], [], rfl, by simp [AreEmptyLines], fun found => by simpa using halts.empty found⟩
  | line body rest unbroken ends later =>
    by_cases gap : ∀ c ∈ body, isGap c = true
    · obtain ⟨mid, rest, rfl, empty, every⟩ := later
      refine ⟨body ++ '\n' :: mid, rest, by simp, ?_, fun found => ?_⟩
      · refine List.forall_mem_append.2 ⟨fun c member => .inl (gap c member), ?_⟩
        exact List.forall_mem_cons.2 ⟨.inr rfl, empty⟩
      · have nonempty : body ++ '\n' :: mid ≠ [] := by simp
        rw [List.append_assoc, List.cons_append,
          afterEmptyLines?_append_break fun c member => .inl (gap c member), every, if_neg nonempty]
        split
        · rename_i none
          rw [none, List.nil_append]
        · rfl
    · refine ⟨[], _, rfl, by simp [AreEmptyLines], fun found => ?_⟩
      have stands : ∃ c ∈ body, isGap c = false := by simpa using gap
      rw [List.append_assoc, afterEmptyLines?_of_mem unbroken stands, if_pos rfl]

/-- Blank lines go on no paragraph. -/
theorem spanLines_goesOn_of_allBlank (blank : allBlank w = true) :
    spanLines goesOn w = ([], w) := by
  have refused : ∀ line ∈ lines w, goesOn line = false := by
    intro line member
    have known : ∀ c ∈ lineBody line, c ∈ w := fun c inside => by
      rw [← flatten_lines w]
      have part : lineBody line <+: line := dropEndWhile_prefix (· == '\n') line
      exact List.mem_flatten.2 ⟨line, member, part.subset inside⟩
    have inside : allBlank (lineBody line) = true :=
      List.all_eq_true.2 fun c member => List.all_eq_true.1 blank c (known c member)
    rw [goesOn, inside]
    rfl
  rw [spanLines_eq]
  cases same : lines w with
  | nil =>
    rw [← flatten_lines w, same]
    rfl
  | cons line others =>
    have stops : ¬goesOn line = true := by
      rw [refused line (same ▸ List.mem_cons_self)]
      decide
    rw [List.takeWhile_cons_of_neg stops, List.dropWhile_cons_of_neg stops, ← same, flatten_lines]

/-- No list item begins with a blank character. -/
theorem listMarker?_eq_none {c : Char} (blank : isBlank c = true) (cs : List Char) :
    listMarker? (c :: cs) = none := by
  have mark : (c == '*' || c == '+' || c == '-') = false :=
    eq_false_of_isBlank (p := fun c => c == '*' || c == '+' || c == '-') (by decide) blank
  have digit : isDecimalDigit c = false := eq_false_of_isBlank (by decide +kernel) blank
  simp [listMarker?, mark, run?, digit]

/-- A blank line is no item of a list. -/
theorem listItem?_of_allBlank (blank : allBlank body = true) (s : List Char) :
    listItem? (body ++ '\n' :: s) = none := by
  have marker : listStart? (body ++ '\n' :: s) = none := by
    rw [listStart?]
    cases indented : indent? (body ++ '\n' :: s) with
    | none => rfl
    | some start =>
      cases start with
      | nil => rfl
      | cons c tail => exact listMarker?_eq_none (isBlank_of_indent? blank indented) tail
  rw [listItem?, marker]
  rfl

/-- A blank line is no quote. -/
theorem quote?_of_allBlank (unbroken : '\n' ∉ body) (blank : allBlank body = true) (s : List Char) :
    quote? (body ++ '\n' :: s) = none := by
  have unmarked : quoteMark? body = none := by
    refine Option.eq_none_iff_forall_ne_some.2 fun content read => ?_
    obtain ⟨start, indented, read⟩ := Option.bind_eq_some_iff.1 read
    obtain ⟨rest, marked, -⟩ := Option.bind_eq_some_iff.1 read
    have first : '>' ∈ start := List.mem_of_head? (head?_of_literal? rfl marked)
    have known := List.all_eq_true.1 blank _ ((suffix_of_indent? indented).subset first)
    contradiction
  rw [quote?, firstLine_append_break unbroken, unmarked]
  rfl

/-- A blank line that is neither empty nor indented code is read as a paragraph of its own, in which
nothing stands. -/
theorem next?_of_paragraph (halts : Halts s) (unbroken : '\n' ∉ body)
    (blank : allBlank (body ++ '\n' :: w) = true) (ends : EndsLine w)
    (full : emptyLines? (body ++ '\n' :: (w ++ s)) = none)
    (unindented : indentedCode? (body ++ '\n' :: (w ++ s)) = none) :
    next? (body ++ '\n' :: (w ++ s)) = some (.block (.text ""), w ++ s) := by
  obtain ⟨blankBody, blankRest⟩ := allBlank_append.1 blank
  rw [← List.singleton_append] at blankRest
  have lacks : Lacks ('[' :: firstMarks) _ :=
    lacks_of_allBlank (forall_mem_of_all (by decide)) blankBody (w ++ s)
  have order : rules = (blank? :: firstRules.map asItem ++ [target?, quote?, asItem listItem?,
      asItem html?]) ++ asItem paragraph? :: [] := by simp [rules, lastRules]
  have stops := ends.spanLines_append halts.paragraph
  rw [spanLines_goesOn_of_allBlank (allBlank_append.1 blankRest).2] at stops
  have nothing : trim (body ++ ['\n']) = [] :=
    trim_of_allBlank (allBlank_append.2 ⟨blankBody, rfl⟩)
  have taken : asItem paragraph? (body ++ '\n' :: (w ++ s)) = some (.block (.text ""), w ++ s) := by
    simp [asItem, paragraph?, firstLine_append_break unbroken, afterLine_append_break unbroken,
      stops, nothing]
  refine next?_eq_of_first order (fun rule known => ?_) taken (by simp; omega)
  simp only [List.cons_append, List.mem_cons, List.mem_append, List.mem_map, List.not_mem_nil,
    or_false] at known
  rcases known with rfl | ⟨rule, known, rfl⟩ | rfl | rfl | rfl | rfl
  · rw [blank?, full]
    rfl
  · rw [asItem, eq_none_of_mem_firstRules (lacks.of_subset (by simp)) unindented known]
    rfl
  · rw [target?, opensWith_linkTarget?.eq_none (lacks.of_subset (by simp))]
    rfl
  · exact quote?_of_allBlank unbroken blankBody _
  · rw [asItem, listItem?_of_allBlank blankBody]
    rfl
  · rw [asItem, opensWith_html?.eq_none (lacks.of_subset (by simp [firstMarks]))]
    rfl

/-- Indented lines are not empty. -/
theorem flatten_indented_ne_nil
    (indented : (spanLines (fun line => (indentedLine? line).isSome) w).1 ≠ []) :
    (spanLines (fun line => (indentedLine? line).isSome) w).1.flatten ≠ [] := by
  obtain ⟨line, member⟩ := List.exists_mem_of_ne_nil _ indented
  have accepted := of_mem_spanLines member
  intro empty
  obtain rfl : line = [] := List.flatten_eq_nil_iff.1 empty line member
  contradiction

/-- The first of some blank lines that are indented are read as code. -/
theorem exists_next?_of_indented (halts : Halts s) (blank : allBlank w = true) (ends : EndsLine w)
    (broken : '\n' ∈ w) (full : emptyLines? (w ++ s) = none)
    (indented : (spanLines (fun line => (indentedLine? line).isSome) w).1 ≠ []) :
    ∃ part rest content, w = part ++ rest ∧ part ≠ [] ∧
      next? (part ++ (rest ++ s)) = some (.block (.code none content), rest ++ s) := by
  have span := ends.spanLines_append halts.code
  have whole := flatten_spanLines (fun line => (indentedLine? line).isSome) w
  have nonempty := flatten_indented_ne_nil indented
  obtain ⟨content, taken⟩ : ∃ content, asItem indentedCode? (w ++ s) = some
      (.block (.code none content),
        (spanLines (fun line => (indentedLine? line).isSome) w).2 ++ s) := by
    simp only [asItem, indentedCode?, span, List.isEmpty_iff, indented, if_false, Option.map_some]
    exact ⟨_, rfl⟩
  refine ⟨_, _, content, whole.symm, nonempty, ?_⟩
  rw [← List.append_assoc, whole]
  have order : rules = [blank?, asItem fencedCode?] ++ asItem indentedCode? ::
      (firstRules.tail.tail.map asItem ++ [target?, quote?] ++ lastRules.map asItem) := rfl
  refine next?_eq_of_first order (fun rule known => ?_) taken ?_
  · simp only [List.mem_cons, List.not_mem_nil, or_false] at known
    rcases known with rfl | rfl
    · rw [blank?, full]
      rfl
    · obtain ⟨body, rest, -, rfl⟩ := exists_line_of_mem broken
      have lacks : Lacks ['\x60', '~'] _ :=
        lacks_of_allBlank (forall_mem_of_all (by decide)) (allBlank_append.1 blank).1 (rest ++ s)
      rw [List.append_assoc, List.cons_append, asItem, opensWith_fencedCode?.eq_none lacks]
      rfl
  · have shorter := congrArg List.length whole
    have some := List.length_pos_iff.2 nonempty
    rw [List.length_append] at shorter ⊢
    rw [List.length_append]
    omega

/-- The first item of blank lines: some of them that are empty, or others as a block. -/
theorem exists_next?_of_allBlank (halts : Halts s) (blank : allBlank w = true) (ends : EndsLine w)
    (nonempty : w ≠ []) : ∃ part rest item, w = part ++ rest ∧ part ≠ [] ∧
      next? (part ++ (rest ++ s)) = some (item, rest ++ s) ∧
      (item = .blank ∧ AreEmptyLines part ∨ ∃ block, item = .block block ∧ IsFiller block) := by
  have broken : '\n' ∈ w := List.mem_of_getLast? (ends.resolve_left nonempty)
  obtain ⟨mid, rest, same, empty, every⟩ := exists_afterEmptyLines?_append halts ends
  by_cases none : mid = []
  · have full : emptyLines? (w ++ s) = Option.none := by
      have mixed : ¬(w ++ s).all isGap = true := fun gaps =>
        absurd (List.all_eq_true.1 gaps '\n' (List.mem_append_left s broken)) (by decide)
      rw [emptyLines?, every, if_pos none]
      simp [mixed]
    by_cases unindented : (spanLines (fun line => (indentedLine? line).isSome) w).1 = []
    · obtain ⟨body, rest, unbroken, rfl⟩ := exists_line_of_mem broken
      have span := ends.spanLines_append halts.code
      have code : indentedCode? (body ++ '\n' :: (rest ++ s)) = Option.none := by
        rw [List.append_assoc, List.cons_append] at span
        simp [indentedCode?, span, unindented]
      refine ⟨body ++ ['\n'], rest, .block (.text ""), by simp, by simp, ?_,
        .inr ⟨_, rfl, .inl rfl⟩⟩
      have taken := next?_of_paragraph halts unbroken blank ends.of_append_break
        (by simpa using full) code
      simpa using taken
    · obtain ⟨part, rest, content, same, some, taken⟩ :=
        exists_next?_of_indented halts blank ends broken full unindented
      exact ⟨part, rest, _, same, some, taken, .inr ⟨_, rfl, .inr ⟨content, rfl⟩⟩⟩
  · refine ⟨mid, rest, .blank, same, none, ?_, .inl ⟨rfl, empty⟩⟩
    have read : emptyLines? (w ++ s) = some (rest ++ s) := by rw [emptyLines?, every, if_neg none]
    have some : 0 < mid.length := List.length_pos_iff.2 none
    rw [← List.append_assoc, ← same]
    exact next?_of_emptyLines? read (by rw [same]; simp; omega)

end BlankLines

/-! ### Headings after blank lines -/

section Headings

variable {s : List Char} {found : Found}

/-- The first line of a text that begins within a line has that beginning. -/
theorem firstLine_append {body : List Char} (unbroken : '\n' ∉ body) (rest : List Char) :
    firstLine (body ++ rest) = body ++ firstLine rest := by
  rw [firstLine, List.takeWhile_append_of_pos (bne_of_not_mem_break unbroken)]
  rfl

/-- Up to six number signs with a gap behind them are the mark of a heading. -/
theorem isHeadingMark_of_marks {marks after : List Char} (every : ∀ c ∈ marks, c = '#')
    (some : marks ≠ []) (few : marks.length ≤ 6) (gap : ∀ c ∈ after.head?, isGap c = true) :
    isHeadingMark (marks ++ after) = true := by
  have stops : ∀ c ∈ after.head?, (c == '#') = false := by
    intro c first
    refine beq_eq_false_iff_ne.2 ?_
    rintro rfl
    exact absurd (gap _ first) (by decide)
  have span := span_append (fun c member => beq_iff_eq.2 (every c member)) stops
  have more := List.length_pos_iff.2 some
  rw [isHeadingMark, span.1, span.2]
  cases after with
  | nil => simpa using ⟨more, few⟩
  | cons c after => simpa [gap c rfl] using ⟨more, few⟩

/-- The number signs of a heading are at most six, and a gap or the end of the line follows them. -/
theorem exists_marks_of_heading? (read : heading? s = some found) : ∃ marks after,
    indent? s = some (marks ++ after) ∧ (∀ c ∈ marks, c = '#') ∧ marks ≠ [] ∧
      marks.length ≤ 6 ∧ ∀ c ∈ (firstLine after).head?, isGap c = true := by
  obtain ⟨start, indented, read⟩ := Option.bind_eq_some_iff.1 read
  obtain ⟨⟨marks, after⟩, marked, read⟩ := Option.bind_eq_some_iff.1 read
  obtain ⟨same, some⟩ := eq_of_run? marked
  obtain ⟨marksEq, afterEq⟩ := Prod.mk.inj same
  have every : ∀ c ∈ marks, c = '#' := by
    intro c member
    rw [marksEq] at member
    simpa using List.mem_takeWhile_imp member
  have whole : marks ++ after = start := by rw [marksEq, afterEq, List.takeWhile_append_dropWhile]
  simp only at read
  split at read
  · rename_i few
    refine ⟨marks, after, by rw [whole, indented], every, marksEq ▸ some, few, ?_⟩
    cases after with
    | nil => simp [firstLine]
    | cons d after =>
      by_cases ended : d = '\n'
      · simp [firstLine, ended]
      · have first : (firstLine (d :: after)).head? = Option.some d := by simp [firstLine, ended]
        rw [first]
        rintro c ⟨⟩
        by_contra other
        simp [gap?, other, lineEnd?, ended] at read
  · contradiction

/-- A heading ends the paragraph before it. -/
theorem interrupts_of_heading? (read : heading? s = some found) :
    interrupts (firstLine s) = true := by
  obtain ⟨marks, after, indented, every, some, few, gap⟩ := exists_marks_of_heading? read
  obtain ⟨count, atMost, rfl, other⟩ := exists_spaces_of_indent? indented
  have unbroken : '\n' ∉ List.replicate count ' ' := by simp
  have clear : '\n' ∉ marks := fun inside => absurd (every _ inside) (by decide)
  have line : indent? (firstLine (List.replicate count ' ' ++ (marks ++ after))) =
      Option.some (marks ++ firstLine after) := by
    rw [firstLine_append unbroken, firstLine_append clear]
    refine indent?_spaces atMost ?_
    rwa [List.head?_append_of_ne_nil _ some] at other ⊢
  rw [interrupts, line]
  simp [isHeadingMark_of_marks every some few gap]

/-- A heading is no part of a line before it. -/
theorem halts_of_heading? (read : heading? s = some found) : Halts s := by
  obtain ⟨c, tail, indented, mark⟩ := opensWith_heading? s found read
  obtain rfl := List.mem_singleton.1 mark
  have first := interrupts_of_heading? read
  refine ⟨fun found => ?_, spanLines_of_nil (spanLines_indented indented (by decide)), ?_⟩
  · obtain ⟨few, -, rfl, -⟩ := exists_spaces_of_indent? indented
    have unbroken : '\n' ∉ List.replicate few ' ' ++ ['#'] := by simp
    have passed := afterEmptyLines?_of_mem unbroken ⟨'#', by simp, rfl⟩ found tail
    simpa using passed
  · have nonempty : s ≠ [] := by
      rintro rfl
      contradiction
    obtain ⟨line, others, whole, same⟩ := exists_lines_of_ne_nil nonempty
    have stops : ¬goesOn line = true := by simp [goesOn, same, first]
    exact spanLines_of_nil (by rw [spanLines_eq, whole, List.takeWhile_cons_of_neg stops])

end Headings

end Block

/-- Empty lines make no block. -/
theorem passes_of_areEmptyLines {w s : List Char} (empty : AreEmptyLines w) (ends : EndsLine w)
    (stops : Block.afterEmptyLines? none s = none) : Passes s w [] := by
  rcases ends with rfl | ends
  · exact .nil
  · have nonempty : w ≠ [] := by
      rintro rfl
      contradiction
    have read := Block.emptyLines?_append empty ends s
    rw [stops] at read
    have some := List.length_pos_iff.2 nonempty
    have taken := Block.next?_of_emptyLines? read (by simpa using some)
    have passes : Passes s (w ++ []) _ := .cons nonempty taken .nil
    rwa [List.append_nil] at passes

/-- What makes no block is empty lines, unless the definition of a link is among it. -/
theorem Passes.areEmptyLines {w s : List Char} {blocks : List Block} (passes : Passes s w blocks)
    (none : blocks = []) (more : s ≠ []) (first : (trimStart (w ++ s)).head? ≠ some '[') :
    AreEmptyLines w ∧ EndsLine w := by
  induction passes with
  | nil => exact ⟨by simp [AreEmptyLines], .inl rfl⟩
  | @cons part text item blocks nonempty taken passes later =>
    obtain ⟨nothing, none⟩ := List.append_eq_nil_iff.1 none
    have origin := Block.origin_of_next? taken
    rw [List.append_assoc] at first
    cases item with
    | block token => exact absurd nothing (List.cons_ne_nil _ _)
    | quote content => exact absurd nothing (List.cons_ne_nil _ _)
    | linkTarget key target =>
      obtain ⟨start, indented⟩ := Block.exists_indent?_of_linkTarget? origin
      obtain ⟨few, -, whole, -⟩ := Block.exists_spaces_of_indent? indented
      have trimmed : trimStart (List.replicate few ' ' ++ '[' :: start) = '[' :: start :=
        (span_append (by simp [isBlank]) (by simp [isBlank])).2
      rw [whole, trimmed] at first
      exact absurd rfl first
    | blank =>
      obtain ⟨lines, whole, empty, ends⟩ := Block.exists_of_emptyLines? origin (by simp [more])
      obtain rfl := List.append_cancel_right whole
      have blank := List.all_eq_true.1 empty.allBlank
      rw [trimStart, List.dropWhile_append_of_pos blank] at first
      obtain ⟨rest, endsRest⟩ := later none first
      exact ⟨List.forall_mem_append.2 ⟨empty, rest⟩, .append (.inr ends) endsRest⟩

/-- Blank lines before what halts them are read as paragraphs in which nothing stands and indented
code, or not at all if they are empty. -/
theorem exists_passes_of_allBlank {w s : List Char} (halts : Block.Halts s)
    (blank : allBlank w = true) (ends : EndsLine w) : ∃ blocks, Passes s w blocks ∧
      (∀ block ∈ blocks, Block.IsFiller block) ∧ (blocks = [] → AreEmptyLines w) := by
  induction size : w.length using Nat.strong_induction_on generalizing w with
  | h size shorter =>
    subst size
    by_cases nonempty : w = []
    · subst nonempty
      exact ⟨[], .nil, by simp, by simp [AreEmptyLines]⟩
    · obtain ⟨part, rest, item, rfl, some, taken, kind⟩ :=
        Block.exists_next?_of_allBlank halts blank ends nonempty
      have less : rest.length < (part ++ rest).length := by
        have some := List.length_pos_iff.2 some
        simp
        omega
      obtain ⟨blocks, passes, fillers, none⟩ :=
        shorter _ less (Block.allBlank_append.1 blank).2 ends.of_append rfl
      refine ⟨_, .cons some taken passes, ?_⟩
      rcases kind with ⟨rfl, empty⟩ | ⟨block, rfl, filler⟩
      · exact ⟨fillers, fun same => List.forall_mem_append.2 ⟨empty, none same⟩⟩
      · exact ⟨List.forall_mem_cons.2 ⟨filler, fillers⟩, nofun⟩

/-! ### How many slides -/

namespace SlideWalk

variable {first second : SlideWalk}

/-- Two walks are at the same place of a slide. -/
structure Abreast (first second : SlideWalk) : Prop where
  depth : first.depth = second.depth
  hasContent : first.hasContent = second.hasContent

/-- Walks that are at the same place of a slide are at the same place after a block, and both end a
slide with it or neither does. -/
theorem Abreast.step (abreast : Abreast first second) (block : Block) (before now : Nat) :
    Abreast (first.step block before) (second.step block now) ∧
      (first.step block before).ends.length + second.ends.length =
        (second.step block now).ends.length + first.ends.length := by
  unfold SlideWalk.step
  rw [abreast.depth, abreast.hasContent]
  split
  · split
    · exact ⟨⟨abreast.depth, rfl⟩, by simp [endSlide]; omega⟩
    · split
      · refine ⟨⟨?_, rfl⟩, by simp [endSlide, pass]; omega⟩
        simp [endSlide, pass, abreast.depth]
      · refine ⟨⟨?_, ?_⟩, Nat.add_comm _ _⟩
        · simp [pass, abreast.depth]
        · simp [pass, abreast.hasContent]
  · exact ⟨⟨rfl, rfl⟩, Nat.add_comm _ _⟩

/-- From the same place of a slide, two walks over the same blocks end as many slides. -/
theorem Abreast.walks (abreast : Abreast first second) (blocks : List Block) (before now : Nat) :
    ((blocks.zipIdx before).foldl (fun walk place => walk.step place.1 place.2) first).ends.length +
        second.ends.length =
      ((blocks.zipIdx now).foldl (fun walk place => walk.step place.1 place.2) second).ends.length +
        first.ends.length := by
  induction blocks generalizing first second before now with
  | nil => exact Nat.add_comm _ _
  | cons block blocks later =>
    obtain ⟨again, count⟩ := abreast.step block before now
    have rest := later again (before + 1) (now + 1)
    simp only [List.zipIdx_cons, List.foldl_cons]
    omega

/-- What blank lines are read as is content of one slide. -/
theorem foldl_fillers {blocks : List Block} (fillers : ∀ block ∈ blocks, Block.IsFiller block)
    (outside : first.depth = 0) (before : Nat) :
    (blocks.zipIdx before).foldl (fun walk place => walk.step place.1 place.2) first =
      { first with hasContent := first.hasContent || !blocks.isEmpty } := by
  induction blocks generalizing first before with
  | nil => simp
  | cons block blocks later =>
    obtain ⟨filler, others⟩ := List.forall_mem_cons.1 fillers
    have stepped : first.step block before = { first with hasContent := true } := by
      rcases filler with rfl | ⟨content, rfl⟩ <;>
        simp [step, outside, Block.endsSlide, Block.startsSlide, pass, Block.turn, Block.isContent]
    have inside : ({ first with hasContent := true } : SlideWalk).depth = 0 := outside
    rw [List.zipIdx_cons, List.foldl_cons, stepped, later others inside]
    simp

/-- What begins a slide ends one that what blank lines are read as is content of. -/
theorem length_ends_fillers {blocks more : List Block} {block : Block} (nonempty : blocks ≠ [])
    (fillers : ∀ block ∈ blocks, Block.IsFiller block) (starts : block.startsSlide = true) :
    (ofBlocks (blocks ++ block :: more)).ends.length =
      (ofBlocks (block :: more)).ends.length + 1 := by
  have plain : block.isContent = true ∧ block.endsSlide = false ∧ block.turn 0 = 0 := by
    cases block <;> first | exact ⟨rfl, rfl, rfl⟩ | contradiction
  have some : blocks.isEmpty = false := by simpa using nonempty
  have ended : ({ hasContent := true } : SlideWalk).step block blocks.length =
      { hasContent := true, ends := [blocks.length] } := by
    simp [step, starts, plain, endSlide, pass]
  have begun : ({} : SlideWalk).step block 0 = { hasContent := true } := by
    simp [step, plain, pass]
  have abreast : Abreast { hasContent := true, ends := [blocks.length] } { hasContent := true } :=
    ⟨rfl, rfl⟩
  have count := abreast.walks more (blocks.length + 1) (0 + 1)
  rw [ofBlocks, ofBlocks, List.zipIdx_append, List.foldl_append, foldl_fillers fillers rfl, some]
  simp only [List.zipIdx_cons, List.foldl_cons, Bool.not_false, Bool.or_true, Nat.zero_add, ended,
    begun]
  simpa using count

end SlideWalk

namespace Outline

open OutlineDraft

/-- Two outlines have the same blocks, define the same links and have as many slides. -/
structure Agrees (first second : Outline) : Prop where
  blocks : first.blocks = second.blocks
  linkTargets : first.linkTargets = second.linkTargets
  slides : first.slices.length = second.slices.length

/-- Every source has an outline. -/
theorem exists_ofSource (source : List Char) : ∃ outline, ofSource source = .ok outline := by
  obtain ⟨draft, read, -⟩ := exists_reads {} 0 source
  exact ⟨_, by rw [ofSource, read]; rfl⟩

/-- There is one slice more than slides that end before the source does. -/
theorem length_slices {source : List Char} {outline : Outline}
    (read : ofSource source = .ok outline) :
    outline.slices.length = (SlideWalk.ofBlocks outline.blocks).ends.length + 1 := by
  have told := congrArg List.length (map_endBlock_of_ofSource read).1
  simpa using told

/-- Empty lines at the start of a source are passed. -/
theorem exists_reads_of_blank {cs rest : List Char}
    (passed : rest = cs ∨ Block.next? cs = some (.blank, rest)) :
    ∃ draft start, ofSource cs = .ok (draft.endSlice (byteSize cs)).toOutline ∧
      Reads {} start rest draft := by
  rcases passed with rfl | taken
  · obtain ⟨draft, read, reads⟩ := exists_reads {} 0 rest
    exact ⟨draft, 0, by rw [ofSource, read]; rfl, reads⟩
  · obtain ⟨part, nonempty, whole, -⟩ := exists_part_of_next? taken
    obtain rfl : cs = part ++ rest := whole
    obtain ⟨draft, -, reads⟩ := exists_reads {} (0 + byteSize part) rest
    have every : Reads {} 0 (part ++ rest) draft := .blank nonempty taken reads
    exact ⟨draft, _, by rw [ofSource, every.read_eq]; rfl, reads⟩

/-- Empty lines before a source change nothing. -/
theorem exists_agrees {w : List Char} (empty : AreEmptyLines w) (ends : w.getLast? = some '\n')
    (s : List Char) : ∃ outline after, ofSource s = .ok outline ∧ ofSource (w ++ s) = .ok after ∧
      after.Agrees outline := by
  obtain ⟨rest, taken, passed⟩ := Block.exists_next?_append empty ends s
  obtain ⟨alone, start, readAlone, readsAlone⟩ := exists_reads_of_blank passed
  obtain ⟨whole, begun, readWhole, readsWhole⟩ := exists_reads_of_blank (.inr taken)
  have blocks : whole.blocks = alone.blocks := readsWhole.blocks_eq.trans readsAlone.blocks_eq.symm
  have targets : whole.linkTargets = alone.linkTargets := readsAlone.linkTargets_eq readsWhole rfl
  refine ⟨_, _, readAlone, readWhole, blocks, targets, ?_⟩
  rw [length_slices readWhole, length_slices readAlone]
  exact congrArg (fun blocks => (SlideWalk.ofBlocks blocks).ends.length + 1) blocks

/-- Before what begins a slide, other blank lines are content of a slide of their own. -/
theorem exists_added {w s rest : List Char} {block : Block} (full : ¬AreEmptyLines w)
    (blank : allBlank w = true) (ends : EndsLine w)
    (taken : Block.next? s = some (.block block, rest)) (starts : block.startsSlide = true) :
    ∃ outline after, ofSource s = .ok outline ∧ ofSource (w ++ s) = .ok after ∧
      ∃ added, added ≠ [] ∧ (∀ block ∈ added, Block.IsFiller block) ∧
        after.blocks = added ++ outline.blocks ∧
        after.slices.length = outline.slices.length + 1 := by
  have marked : Block.heading? s = some (block, rest) := by
    cases block with
    | heading level content => exact Block.heading?_of_next? taken
    | _ => contradiction
  obtain ⟨added, passes, fillers, none⟩ :=
    exists_passes_of_allBlank (Block.halts_of_heading? marked) blank ends
  obtain ⟨part, nonempty, rfl, -⟩ := exists_part_of_next? taken
  obtain ⟨outline, read⟩ := exists_ofSource (part ++ rest)
  obtain ⟨after, readAfter⟩ := exists_ofSource (w ++ (part ++ rest))
  have blocks : outline.blocks = block :: blocksOf rest :=
    (blocksOf_of_ofSource read).symm.trans (blocksOf_append nonempty taken)
  have whole : after.blocks = added ++ outline.blocks := by
    rw [← blocksOf_of_ofSource readAfter, passes.blocksOf_append, blocksOf_of_ofSource read]
  have some : added ≠ [] := fun empty => full (none empty)
  refine ⟨outline, after, read, readAfter, added, some, fillers, whole, ?_⟩
  rw [length_slices read, length_slices readAfter, whole, blocks,
    SlideWalk.length_ends_fillers some fillers starts]

/-- **Which blank lines may stand before a source.** Whether blank lines stand before a source makes
no difference when they are empty. When other blank characters stand on them they are content, and
what begins a slide after them begins a further one. -/
theorem exists_ofSource_blankLines (w s : List Char) (blank : allBlank w = true)
    (ends : w.getLast? = some '\n') : ∃ outline after, ofSource s = .ok outline ∧
      ofSource (w ++ s) = .ok after ∧ (AreEmptyLines w → after.Agrees outline) ∧
      (¬AreEmptyLines w → (∃ block rest, Block.next? s = some (.block block, rest) ∧
          block.startsSlide = true) →
        ∃ added, added ≠ [] ∧ (∀ block ∈ added, Block.IsFiller block) ∧
          after.blocks = added ++ outline.blocks ∧
          after.slices.length = outline.slices.length + 1) := by
  by_cases empty : AreEmptyLines w
  · obtain ⟨outline, after, read, readAfter, agrees⟩ := exists_agrees empty ends s
    exact ⟨outline, after, read, readAfter, fun _ => agrees, fun full => absurd empty full⟩
  · obtain ⟨outline, read⟩ := exists_ofSource s
    obtain ⟨after, readAfter⟩ := exists_ofSource (w ++ s)
    refine ⟨outline, after, read, readAfter, fun known => absurd known empty, ?_⟩
    rintro full ⟨block, rest, taken, starts⟩
    obtain ⟨outline', after', again, againAfter, more⟩ :=
      exists_added full blank (.inr ends) taken starts
    obtain rfl := Except.ok.inj (again.symm.trans read)
    obtain rfl := Except.ok.inj (againAfter.symm.trans readAfter)
    exact more

/-- An empty line and one with a character that is blank but no space. -/
def oddBlankLines : List Char := "\t\n\u00a0\n".toList

def oneHeading : List Char := "# H\n".toList

/-- A heading that is one slide makes two with blank lines before it. -/
theorem exists_ofSource_oddBlankLines : allBlank oddBlankLines = true ∧
    oddBlankLines.getLast? = some '\n' ∧ ∃ outline after, ofSource oneHeading = .ok outline ∧
      ofSource (oddBlankLines ++ oneHeading) = .ok after ∧
      outline.slices.length = 1 ∧ after.slices.length = 2 ∧
      ∃ added, added ≠ [] ∧ (∀ block ∈ added, Block.IsFiller block) ∧
        after.blocks = added ++ outline.blocks := by
  have blank : allBlank oddBlankLines = true := by decide
  have ends : oddBlankLines.getLast? = some '\n' := by decide
  obtain ⟨outline, after, read, readAfter, -, more⟩ :=
    exists_ofSource_blankLines oddBlankLines oneHeading blank ends
  have seen :
      (ofSourceWithin? oneHeading 2).any (fun outline => outline.slices.length = 1) = true := by
    decide +kernel
  obtain ⟨alone, again, one⟩ := exists_ofSource_of_any 2 seen
  obtain rfl := Except.ok.inj (again.symm.trans read)
  have one := of_decide_eq_true one
  obtain ⟨added, some, fillers, blocks, slides⟩ := more (by decide)
    ⟨.heading 1 "H", [], rfl, rfl⟩
  exact ⟨blank, ends, alone, after, read, readAfter, one, by rw [slides, one], added, some, fillers,
    blocks⟩

/-- Not every blank line may stand before a source. -/
theorem not_forall_blankLines : ¬ ∀ w s outline after, allBlank w = true → w.getLast? = some '\n' →
    ofSource s = .ok outline → ofSource (w ++ s) = .ok after →
    after.blocks = outline.blocks ∧ after.slices.length = outline.slices.length := by
  intro every
  have one :
      (ofSourceWithin? oneHeading 2).any (fun outline => outline.slices.length = 1) = true := by
    decide +kernel
  have two : (ofSourceWithin? ("\u00a0\n".toList ++ oneHeading) 3).any
      (fun outline => outline.slices.length = 2) = true := by
    decide +kernel
  obtain ⟨outline, read, one⟩ := exists_ofSource_of_any 2 one
  obtain ⟨after, readAfter, two⟩ := exists_ofSource_of_any 3 two
  have same := (every _ _ outline after (by decide) (by decide) read readAfter).2
  rw [of_decide_eq_true one, of_decide_eq_true two] at same
  contradiction

end Outline

end LectureDeck
