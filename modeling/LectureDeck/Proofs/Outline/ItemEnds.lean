import LectureDeck.Proofs.Outline.Readers
import LectureDeck.Markup.Outline

/-!
# Where items end

Most items end where a line begins. Hints, notes, extra material and environments may leave the rest
of their line to other items (`LectureDeck.Block.StopsOnLine`).
-/

namespace LectureDeck.Block

open LectureDeck.Text

/-- What is left of a text begins a line, or nothing is left. -/
def LineStart (cs rest : List Char) : Prop := rest = [] ∨ '\n' :: rest <:+ cs

/-- What is left goes on the line on which an item ended. -/
structure StopsOnLine (cs rest : List Char) : Prop where
  begins : ∃ c tail, indent? cs = some (c :: tail) ∧ c ∈ ['H', 'N', 'E', '\\']
  ends : ∃ body last gap, cs = body ++ last :: gap ++ rest ∧ isItemEnd last = true ∧ last ≠ '\n' ∧
    gap.all isGap = true
  ahead : ∀ c ∈ rest.head?, isGap c = false

section Lines

variable {cs mid rest : List Char}

/-- What begins a line of an end of a text begins one of the text. -/
theorem LineStart.of_suffix (start : LineStart mid rest) (later : mid <:+ cs) : LineStart cs rest :=
  start.imp_right fun broken => broken.trans later

/-- Behind the end of a line another one begins, which is not empty. -/
theorem lineStart_of_lineEnd? (ended : lineEnd? cs = some rest) :
    LineStart cs rest ∧ rest.head? ≠ some '\n' := by
  unfold lineEnd? at ended
  split at ended
  · cases ended
    exact ⟨.inl rfl, by simp⟩
  · split at ended
    · rename_i c tail isBreak
      subst isBreak
      cases ended
      have breaks (tail : List Char) : '\n' :: tail.dropWhile (· == '\n') <:+ '\n' :: tail := by
        induction tail with
        | nil => exact List.suffix_refl _
        | cons c tail later =>
          rw [List.dropWhile_cons]
          split
          · rename_i same
            rw [beq_iff_eq.1 same]
            exact later.trans (List.suffix_cons _ _)
          · exact List.suffix_refl _
      refine ⟨.inr (breaks tail), fun same => ?_⟩
      have stops := List.head?_dropWhile_not (· == '\n') tail
      rw [same] at stops
      contradiction
    · contradiction

/-- Behind a gap and the end of a line another one begins. -/
theorem lineStart_of_gapLineEnd? (ended : gapLineEnd? cs = some rest) : LineStart cs rest :=
  (lineStart_of_lineEnd? ended).1.of_suffix (skipGap_suffix cs)

/-- What follows a line begins one, or nothing follows it. -/
theorem lineStart_afterLine (cs : List Char) : LineStart cs (afterLine cs) := by
  by_cases broken : '\n' ∈ cs
  · exact .inr ⟨firstLine cs, firstLine_append_afterLine broken⟩
  · have none : cs.dropWhile (· != '\n') = [] :=
      List.dropWhile_eq_nil_iff.2 (bne_of_not_mem_break broken)
    exact .inl (by rw [afterLine, none]; rfl)

/-- Lines that are taken leave what begins a line. If none is taken all of the text is left. -/
theorem lineStart_of_spanLinesFrom {p : List Char → Bool} {line start : List Char}
    (passed : start = line.reverse ++ cs) : spanLinesFrom p line start cs = ([], start) ∨
      LineStart start (spanLinesFrom p line start cs).2 := by
  fun_induction spanLinesFrom p line start cs with
  | case1 => exact .inr (.inl rfl)
  | case2 => exact .inr (.inl rfl)
  | case3 => exact .inl rfl
  | case4 line start rest part accepted later =>
    have broken : '\n' :: rest <:+ start := ⟨line.reverse, passed.symm⟩
    refine .inr ?_
    rcases later rfl with same | begins
    · exact .inr (by rw [show part.2 = rest from congrArg Prod.snd same]; exact broken)
    · exact begins.of_suffix ((List.suffix_cons _ _).trans broken)
  | case5 => exact .inl rfl
  | case6 line start c rest other later => exact later (by simp [passed])

/-- What is left after some lines begins a line. -/
theorem lineStart_spanLines (p : List Char → Bool) (cs : List Char) :
    (spanLines p cs).2 = cs ∨ LineStart cs (spanLines p cs).2 :=
  (lineStart_of_spanLinesFrom rfl).imp_left (congrArg Prod.snd)

/-- What lines that are taken leave begins a line, if they are taken from where one begins. -/
theorem LineStart.spanLines (start : LineStart cs mid) (p : List Char → Bool) :
    LineStart cs (spanLines p mid).2 := by
  rcases lineStart_spanLines p mid with same | begins
  · rwa [same]
  · rcases start with rfl | broken
    · exact .inl rfl
    · exact begins.of_suffix ((List.suffix_cons _ _).trans broken)

/-- What follows empty lines begins a line, unless it was found before them. -/
theorem lineStart_of_afterEmptyLines? {found : Option (List Char)}
    (read : afterEmptyLines? found cs = some rest) : found = some rest ∨ LineStart cs rest := by
  induction cs generalizing found with
  | nil => exact .inl read
  | cons c cs later =>
    unfold afterEmptyLines? at read
    split at read
    · rename_i isBreak
      subst isBreak
      rcases later read with same | begins
      · cases same
        exact .inr (.inr (List.suffix_refl _))
      · exact .inr (begins.of_suffix (List.suffix_cons _ _))
    · split at read
      · exact (later read).imp_right fun begins => begins.of_suffix (List.suffix_cons _ _)
      · exact .inl read

/-- A row of empty lines leaves what begins a line. -/
theorem lineStart_of_emptyLines? (read : emptyLines? cs = some rest) : LineStart cs rest := by
  unfold emptyLines? at read
  split at read
  · rename_i found
    cases read
    exact (lineStart_of_afterEmptyLines? found).resolve_left (by simp)
  · split at read
    · cases read
      exact .inl rfl
    · contradiction

/-- A search leaves what begins a line if what closes it does. -/
theorem lineStart_of_upTo? {stop : Char → Bool} {close : List Char → Option (List Char)}
    (closes : ∀ {cs rest}, close cs = some rest → LineStart cs rest)
    {part : List Char × List Char} (found : upTo? stop close cs = some part) :
    LineStart cs part.2 := by
  induction cs generalizing part with
  | nil =>
    obtain ⟨_, closed, same⟩ := Option.map_eq_some_iff.1 found
    cases same
    exact closes closed
  | cons c rest later =>
    unfold upTo? at found
    split at found
    · rename_i closed
      cases found
      exact closes closed
    · split at found
      · contradiction
      · obtain ⟨part, inner, rfl⟩ := Option.map_eq_some_iff.1 found
        exact (later inner).of_suffix (List.suffix_cons c rest)

/-- So does a search that takes something before it is closed. -/
theorem lineStart_of_someUpTo? {stop : Char → Bool} {close : List Char → Option (List Char)}
    (closes : ∀ {cs rest}, close cs = some rest → LineStart cs rest)
    {part : List Char × List Char} (found : someUpTo? stop close cs = some part) :
    LineStart cs part.2 := by
  cases cs with
  | nil => contradiction
  | cons c rest =>
    simp only [someUpTo?] at found
    split at found
    · contradiction
    · obtain ⟨part, inner, rfl⟩ := Option.map_eq_some_iff.1 found
      exact (lineStart_of_upTo? closes inner).of_suffix (List.suffix_cons c rest)

/-- Lines that are left of the lines of a text. -/
theorem lineStart_of_suffix_lines {others : List (List Char)} (later : others <:+ lines cs) :
    others = lines cs ∨ LineStart cs others.flatten := by
  induction size : cs.length using Nat.strong_induction_on generalizing cs with
  | h size shorter =>
    subst size
    by_cases broken : '\n' ∈ cs
    · rw [lines_of_mem broken, List.suffix_cons_iff] at later
      rcases later with same | later
      · exact .inl (by rw [same, lines_of_mem broken])
      · have begins := lineStart_afterLine cs
        rcases shorter _ (length_afterLine_lt (List.ne_nil_of_mem broken)) later rfl with
          same | inner
        · rw [same, flatten_lines]
          exact .inr begins
        · exact .inr (inner.of_suffix (afterLine_suffix cs))
    · by_cases empty : cs = []
      · subst empty
        exact .inl (List.suffix_nil.1 later)
      · rw [lines_of_not_mem broken empty] at later ⊢
        rcases List.suffix_cons_iff.1 later with same | none
        · exact .inl same
        · exact .inr (.inl (by rw [List.suffix_nil.1 none]; rfl))

end Lines

/-! ### Rules -/

/-- Where an item ends. After a rule a line begins that is not empty, and what begins a slide begins
with number signs. -/
structure EndsWell (cs : List Char) (found : Found) : Prop where
  stops : LineStart cs found.2 ∨ StopsOnLine cs found.2
  ended : found.1.endsSlide = true → LineStart cs found.2 ∧ found.2.head? ≠ some '\n'
  begun : found.1.startsSlide = true → ∃ tail, indent? cs = some ('#' :: tail)

/-- What a rule takes ends well, if it takes anything. -/
def Stops (rule : List Char → Option Found) : Prop :=
  ∀ {cs : List Char} {found : Found}, rule cs = some found → found.2.length < cs.length →
    EndsWell cs found

section Rules

variable {cs mid rest : List Char} {block : Block}

/-- An item that neither begins nor ends a slide. -/
theorem endsWell_of_plain (stops : LineStart cs rest ∨ StopsOnLine cs rest)
    (plain : (block.startsSlide || block.endsSlide) = false) : EndsWell cs (block, rest) := by
  rw [Bool.or_eq_false_iff] at plain
  refine ⟨stops, fun ends => ?_, fun starts => ?_⟩
  · rw [plain.2] at ends
    contradiction
  · rw [plain.1] at starts
    contradiction

/-- An item ends well if it leaves what begins a line, and has nothing to do with where slides
end. -/
theorem endsWell_of_lineStart (start : LineStart cs rest)
    (plain : (block.startsSlide || block.endsSlide) = false) : EndsWell cs (block, rest) :=
  endsWell_of_plain (.inl start) plain

/-- An item that begins with a mark of its own and ends with another, and a gap. -/
theorem stopsOnLine_skipGap {start tail : List Char} {first last : Char}
    (indented : indent? cs = some start) (opens : start.head? = some first)
    (known : first ∈ ['H', 'N', 'E', '\\']) (closes : last :: tail <:+ start)
    (ends : isItemEnd last = true) (other : last ≠ '\n') : StopsOnLine cs (skipGap tail) where
  begins := by
    obtain ⟨rest, rfl⟩ := List.head?_eq_some_iff.1 opens
    exact ⟨first, rest, indented, known⟩
  ends := by
    obtain ⟨body, whole⟩ := closes.trans (suffix_of_indent? indented)
    refine ⟨body, last, tail.takeWhile isGap, ?_, ends, other,
      List.all_eq_true.2 fun c member => List.mem_takeWhile_imp member⟩
    rw [List.append_assoc, List.cons_append, skipGap, List.takeWhile_append_dropWhile, whole]
  ahead := by
    intro c first
    have stops := List.head?_dropWhile_not isGap tail
    rw [skipGap, Option.mem_def] at first
    rwa [first] at stops

/-- Fenced code ends with its lines. -/
theorem stops_fencedCode? : Stops fencedCode? := by
  intro cs found read _
  unfold fencedCode? at read
  split at read
  · rename_i mark start indented
    split at read
    · simp only at read
      split at read
      · cases read
        refine endsWell_of_lineStart ?_ rfl
        have fence : (mark :: start).dropWhile (· == mark) <:+ cs :=
          (List.dropWhile_suffix _).trans (suffix_of_indent? indented)
        exact (lineStart_afterLine _).of_suffix
          ((spanLines_suffix _ _).trans ((afterLine_suffix _).trans fence))
      · contradiction
    · contradiction
  · contradiction

/-- Indented code ends with its lines. -/
theorem stops_indentedCode? : Stops indentedCode? := by
  intro cs found read less
  simp only [indentedCode?] at read
  split at read
  · contradiction
  · cases read
    refine endsWell_of_lineStart ((lineStart_spanLines _ cs).resolve_left fun same => ?_) rfl
    exact Nat.lt_irrefl _ (same ▸ less)

/-- Mathematics set apart ends with the line of its end. -/
theorem stops_displayMath? : Stops displayMath? := by
  intro cs found read _
  obtain ⟨start, indented, read⟩ := Option.bind_eq_some_iff.1 read
  obtain ⟨body, opened, read⟩ := Option.bind_eq_some_iff.1 read
  obtain ⟨part, closed, read⟩ := Option.bind_eq_some_iff.1 read
  cases read
  refine endsWell_of_lineStart ?_ rfl
  have inside : LineStart body part.2 := by
    refine lineStart_of_upTo? (fun ended => ?_) closed
    obtain ⟨after, marked, ended⟩ := Option.bind_eq_some_iff.1 ended
    exact (lineStart_of_gapLineEnd? ended).of_suffix (suffix_of_literal? marked)
  exact inside.of_suffix ((suffix_of_literal? opened).trans (suffix_of_indent? indented))

/-- An item with a gap and line breaks after it. -/
theorem endsWell_of_skipGap {start tail : List Char} {first last : Char}
    (indented : indent? cs = some start) (opens : start.head? = some first)
    (known : first ∈ ['H', 'N', 'E', '\\']) (closes : last :: tail <:+ start)
    (ends : isItemEnd last = true) (other : last ≠ '\n')
    (plain : (block.startsSlide || block.endsSlide) = false) :
    EndsWell cs (block, (skipGap tail).dropWhile (· == '\n')) := by
  have stops := stopsOnLine_skipGap indented opens known closes ends other
  have later : skipGap tail <:+ cs := (skipGap_suffix tail).trans ((List.suffix_cons _ _).trans
    (closes.trans (suffix_of_indent? indented)))
  refine endsWell_of_plain ?_ plain
  cases left : skipGap tail with
  | nil => exact .inl (.inl rfl)
  | cons c rest =>
    rw [left] at stops later
    rw [List.dropWhile_cons]
    split
    · rename_i isBreak
      rw [beq_iff_eq.1 isBreak] at later
      have broken : lineEnd? ('\n' :: rest) = some (rest.dropWhile (· == '\n')) := rfl
      exact .inl ((lineStart_of_lineEnd? broken).1.of_suffix later)
    · exact .inr stops

/-- An environment may leave the rest of the line on which it ends. -/
theorem stops_environment? : Stops environment? := by
  intro cs found read _
  obtain ⟨start, indented, read⟩ := Option.bind_eq_some_iff.1 read
  obtain ⟨begun, opened, read⟩ := Option.bind_eq_some_iff.1 read
  obtain ⟨name, named, read⟩ := Option.bind_eq_some_iff.1 read
  obtain ⟨body, closed, read⟩ := Option.bind_eq_some_iff.1 read
  obtain ⟨tail, ended, read⟩ := Option.bind_eq_some_iff.1 read
  cases read
  have begins := (suffix_of_literal? closed).trans
    ((suffix_of_environmentName? named).trans (suffix_of_literal? opened))
  have closes := (suffix_of_cutAt?_concat ended).trans begins
  refine endsWell_of_plain ?_ rfl
  cases empty : emptyLines? (skipGap tail.2) with
  | none => exact .inr (stopsOnLine_skipGap indented (head?_of_literal? rfl opened)
      (by decide) closes
      rfl (by decide))
  | some rest => exact .inl ((lineStart_of_emptyLines? empty).of_suffix ((skipGap_suffix _).trans
      ((List.suffix_cons _ _).trans (closes.trans (suffix_of_indent? indented)))))

/-- The definition of a plugin ends with a line. -/
theorem stops_pluginDefinition? : Stops pluginDefinition? := by
  intro cs found read _
  obtain ⟨name, content, part, later, ended, rfl⟩ := exists_content_of_pluginDefinition? read
  refine endsWell_of_lineStart (LineStart.of_suffix (lineStart_of_upTo? (fun read => ?_) ended)
    later) rfl
  obtain ⟨broken, line, opened, later, ended⟩ := exists_line_of_definitionEnd? read
  exact (lineStart_of_gapLineEnd? ended).of_suffix (later.trans (suffix_of_literal? opened))

/-- A comment with metadata ends with a line. -/
theorem stops_metadata? : Stops metadata? := by
  intro cs found read _
  obtain ⟨name, content, part, later, closed, -, rfl⟩ := exists_content_of_metadata? read
  refine endsWell_of_lineStart (LineStart.of_suffix (lineStart_of_upTo? (fun {cs _} ended => ?_)
    closed)
    later) rfl
  obtain ⟨after, marked, ended⟩ := Option.bind_eq_some_iff.1 ended
  exact (lineStart_of_gapLineEnd? ended).of_suffix
    ((suffix_of_literal? marked).trans (skipGap_suffix cs))

/-- A directive makes a block that neither begins nor ends a slide. -/
theorem stops_directive? {words : List String} {make : String → Block}
    (plain : ∀ content, ((make content).startsSlide || (make content).endsSlide) = false) :
    Stops fun cs => (directive? words cs).map fun part => (make part.1, part.2) := by
  intro cs found read _
  obtain ⟨part, line, rfl⟩ := Option.map_eq_some_iff.1 read
  obtain ⟨start, indented, line⟩ := Option.bind_eq_some_iff.1 line
  obtain ⟨rest, begun, line⟩ := Option.bind_eq_some_iff.1 line
  obtain ⟨after, ended, line⟩ := Option.bind_eq_some_iff.1 line
  cases line
  refine endsWell_of_lineStart ?_ (plain _)
  exact (lineStart_of_lineEnd? ended).1.of_suffix ((List.dropWhile_suffix _).trans
    ((suffix_of_oneOf? begun).trans (suffix_of_indent? indented)))

/-- A word that opens a part of a slide. -/
theorem stops_openingWord? {word : String} {first : Char} (begins : word.toList.head? = some first)
    (known : first ∈ ['H', 'N', 'E', '\\']) (final : word.toList.getLast? = some ':')
    (plain : (block.startsSlide || block.endsSlide) = false) :
    Stops fun cs => (openingWord? word cs).map fun rest => (block, rest) := by
  intro cs found read _
  obtain ⟨rest, word, rfl⟩ := Option.map_eq_some_iff.1 read
  obtain ⟨start, indented, word⟩ := Option.bind_eq_some_iff.1 word
  obtain ⟨tail, taken, word⟩ := Option.bind_eq_some_iff.1 word
  cases word
  exact endsWell_of_skipGap indented (head?_of_literal? begins taken) known
    (suffix_of_literal?_concat final taken) rfl (by decide) plain

/-- A hint may leave the rest of its line, behind the colon or the percent sign. -/
theorem stops_hint? : Stops hint? := by
  intro cs found read _
  obtain ⟨start, indented, read⟩ := Option.bind_eq_some_iff.1 read
  obtain ⟨tail, begun, read⟩ := Option.bind_eq_some_iff.1 read
  have opens : start.head? = some 'H' := head?_of_literal? rfl begun
  simp only at read
  split at read
  · rename_i digits rest penalty
    cases read
    obtain ⟨sign, after, later, marked, rfl⟩ := exists_sign_of_percentage? penalty
    have percent := (suffix_of_literal?_concat rfl marked).trans later
    exact endsWell_of_skipGap indented opens (by decide)
      (percent.trans ((skipGap_suffix _).trans (suffix_of_literal? begun))) rfl (by decide) rfl
  · cases read
    exact endsWell_of_skipGap indented opens (by decide) (suffix_of_literal?_concat rfl begun) rfl
      (by decide) rfl

/-- The embed of a plugin ends with a line. -/
theorem stops_pluginEmbed? : Stops pluginEmbed? := by
  intro cs found read _
  obtain ⟨start, indented, read⟩ := Option.bind_eq_some_iff.1 read
  obtain ⟨sign, equal, read⟩ := Option.bind_eq_some_iff.1 read
  obtain ⟨name, named, read⟩ := Option.bind_eq_some_iff.1 read
  obtain ⟨arguments, opened, read⟩ := Option.bind_eq_some_iff.1 read
  simp only at read
  split at read
  · obtain ⟨after, ended, read⟩ := Option.bind_eq_some_iff.1 read
    cases read
    refine endsWell_of_lineStart ?_ rfl
    have line := (lineStart_of_lineEnd? ended).1.of_suffix (List.dropWhile_suffix _)
    have name := (suffix_of_run? named).trans
      ((suffix_of_literal? equal).trans (suffix_of_indent? indented))
    exact line.of_suffix ((suffix_of_literal? opened).trans name)
  · contradiction

/-- Behind the end of a heading a line begins. -/
theorem lineStart_of_headingEnd? (read : headingEnd? cs = some rest) : LineStart cs rest := by
  obtain ⟨line, later, ended⟩ := exists_line_of_headingEnd? read
  exact (lineStart_of_gapLineEnd? ended).of_suffix later

/-- A run begins with a character of its class. -/
theorem head?_of_run? {p : Char → Bool} {part : List Char × List Char}
    (read : run? p cs = some part) :
    ∃ c tail, cs = c :: tail ∧ p c = true := by
  obtain ⟨-, some⟩ := eq_of_run? read
  cases cs with
  | nil => exact absurd rfl some
  | cons c tail =>
    refine ⟨c, tail, rfl, ?_⟩
    by_contra other
    exact some (List.takeWhile_cons_of_neg other)

/-- A heading ends with its line, and begins with number signs. -/
theorem stops_heading? : Stops heading? := by
  intro cs found read _
  obtain ⟨start, indented, read⟩ := Option.bind_eq_some_iff.1 read
  obtain ⟨⟨marks, after⟩, marked, read⟩ := Option.bind_eq_some_iff.1 read
  have begun : ∃ tail, indent? cs = some ('#' :: tail) := by
    obtain ⟨c, tail, rfl, mark⟩ := head?_of_run? marked
    exact ⟨tail, by rw [indented, beq_iff_eq.1 mark]⟩
  have marked : after <:+ cs := (suffix_of_run? marked).trans (suffix_of_indent? indented)
  have ends {content : String} {rest : List Char} (line : LineStart after rest) :
      EndsWell cs (heading marks.length content, rest) :=
    ⟨.inl (line.of_suffix marked), (fun ended => nomatch ended), fun _ => begun⟩
  simp only at read
  split at read
  · split at read
    · rename_i content spaced
      obtain ⟨part, ended, read⟩ := Option.bind_eq_some_iff.1 read
      cases read
      exact ends ((lineStart_of_upTo? lineStart_of_headingEnd? ended).of_suffix
        (suffix_of_gap? spaced))
    · obtain ⟨rest, ended, read⟩ := Option.bind_eq_some_iff.1 read
      cases read
      exact ends (lineStart_of_lineEnd? ended).1
  · contradiction

/-- A rule across the page ends with its line, and the next line is not empty. -/
theorem stops_rule? : Stops rule? := by
  intro cs found read _
  obtain ⟨start, indented, read⟩ := Option.bind_eq_some_iff.1 read
  obtain ⟨after, marked, read⟩ := Option.bind_eq_some_iff.1 read
  obtain ⟨rest, ended, read⟩ := Option.bind_eq_some_iff.1 read
  cases read
  have line := (lineStart_of_lineEnd? ended).1.of_suffix
    ((suffix_of_anyRuleMarks? marked).trans (suffix_of_indent? indented))
  exact ⟨.inl line, fun _ => ⟨line, (lineStart_of_lineEnd? ended).2⟩, fun starts => nomatch starts⟩

/-- A small rule ends with its line. -/
theorem stops_minirule? : Stops minirule? := by
  intro cs found read _
  obtain ⟨start, indented, read⟩ := Option.bind_eq_some_iff.1 read
  obtain ⟨after, marked, read⟩ := Option.bind_eq_some_iff.1 read
  obtain ⟨rest, ended, read⟩ := Option.bind_eq_some_iff.1 read
  cases read
  exact endsWell_of_lineStart ((lineStart_of_gapLineEnd? ended).of_suffix
    ((suffix_of_literal? marked).trans (suffix_of_indent? indented))) rfl

/-- A pause ends with its line. -/
theorem stops_pause? : Stops pause? := by
  intro cs found read _
  obtain ⟨start, indented, read⟩ := Option.bind_eq_some_iff.1 read
  obtain ⟨after, marked, read⟩ := Option.bind_eq_some_iff.1 read
  obtain ⟨rest, ended, read⟩ := Option.bind_eq_some_iff.1 read
  cases read
  exact endsWell_of_lineStart ((lineStart_of_gapLineEnd? ended).of_suffix
    ((suffix_of_oneOf? marked).trans (suffix_of_indent? indented))) rfl

/-- An item of a list ends with its lines. -/
theorem stops_listItem? : Stops listItem? := by
  intro cs found read _
  obtain ⟨start, marked, read⟩ := Option.bind_eq_some_iff.1 read
  cases read
  exact endsWell_of_lineStart (((lineStart_afterLine _).spanLines goesOn).of_suffix
    (suffix_of_listStart? marked)) rfl

/-- A block of HTML ends with its lines. -/
theorem stops_html? : Stops html? := by
  intro cs found read less
  unfold html? at read
  split at read
  · cases read
    refine endsWell_of_lineStart ((lineStart_spanLines _ cs).resolve_left fun same => ?_) rfl
    exact Nat.lt_irrefl _ (same ▸ less)
  · contradiction

/-- A paragraph ends with its lines. -/
theorem stops_paragraph? : Stops paragraph? := by
  intro cs found read _
  unfold paragraph? at read
  split at read
  · contradiction
  · cases read
    exact endsWell_of_lineStart ((lineStart_afterLine cs).spanLines goesOn) rfl

/-- A quote ends with its lines. -/
theorem lineStart_of_quote? {found : Item × List Char} (read : quote? cs = some found) :
    LineStart cs found.2 := by
  obtain ⟨first, marked, rfl⟩ := Option.map_eq_some_iff.1 read
  have begins := lineStart_afterLine cs
  have later := quotedLines_suffix (allBlank first) (lines (afterLine cs))
  rcases lineStart_of_suffix_lines later with same | inner
  · change LineStart cs (quotedLines _ _).2.flatten
    rwa [same, flatten_lines]
  · exact inner.of_suffix (afterLine_suffix cs)

/-- The title of a target ends with its line. -/
theorem lineStart_of_targetTitle? {part : List Char × List Char}
    (read : targetTitle? cs = some part) :
    LineStart cs part.2 := by
  obtain ⟨content, later, ended⟩ := exists_content_of_targetTitle? read
  refine (lineStart_of_someUpTo? (fun read => ?_) ended).of_suffix later
  obtain ⟨mark, line, rfl, ended⟩ := exists_line_of_targetTitleEnd? read
  exact (lineStart_of_gapLineEnd? ended).of_suffix (List.suffix_cons mark line)

/-- The target of a link ends with its line, whether it has a title or not. -/
theorem lineStart_of_linkTarget? {found : (String × LinkTarget) × List Char}
    (read : linkTarget? cs = some found) : LineStart cs found.2 := by
  obtain ⟨after, later, ⟨title, titled⟩ | ended⟩ := exists_address_of_linkTarget? read
  · exact (lineStart_of_targetTitle? titled).of_suffix later
  · exact (lineStart_of_gapLineEnd? ended).of_suffix later

/-! ### All rules -/

/-- Every rule that is tried before the targets of links takes what ends well. -/
theorem stops_of_mem_firstRules {rule : List Char → Option Found} (known : rule ∈ firstRules) :
    Stops rule := by
  simp only [firstRules, List.mem_cons, List.not_mem_nil, or_false] at known
  rcases known with rfl | rfl | rfl | rfl | rfl | rfl | rfl | rfl | rfl | rfl | rfl | rfl | rfl |
    rfl | rfl | rfl | rfl
  · exact stops_fencedCode?
  · exact stops_indentedCode?
  · exact stops_displayMath?
  · exact stops_environment?
  · exact stops_pluginDefinition?
  · exact stops_metadata?
  · exact stops_directive? fun _ => rfl
  · exact stops_directive? fun _ => rfl
  · exact stops_directive? fun _ => rfl
  · exact stops_hint?
  · exact stops_openingWord? rfl (show 'N' ∈ _ by decide) rfl rfl
  · exact stops_openingWord? rfl (show 'E' ∈ _ by decide) rfl rfl
  · exact stops_pluginEmbed?
  · exact stops_heading?
  · exact stops_rule?
  · exact stops_minirule?
  · exact stops_pause?

/-- Every rule that is tried after quotes takes what ends well. -/
theorem stops_of_mem_lastRules {rule : List Char → Option Found} (known : rule ∈ lastRules) :
    Stops rule := by
  simp only [lastRules, List.mem_cons, List.not_mem_nil, or_false] at known
  rcases known with rfl | rfl | rfl
  · exact stops_listItem?
  · exact stops_html?
  · exact stops_paragraph?

/-- How an item ends. Only a block may leave the rest of its line. -/
def Item.EndsIn (cs rest : List Char) : Item → Prop
  | .block token => EndsWell cs (token, rest)
  | .blank | .quote _ | .linkTarget .. => LineStart cs rest

/-- Every item that is taken ends well. -/
theorem endsIn_of_next? {found : Item × List Char} (taken : next? cs = some found) :
    found.1.EndsIn cs found.2 := by
  obtain ⟨rule, known, read⟩ := List.exists_of_findSome?_eq_some taken
  obtain ⟨read, less⟩ := Option.filter_eq_some_iff.1 read
  have less : found.2.length < cs.length := of_decide_eq_true less
  simp only [rules, List.mem_append, List.mem_cons, List.mem_map, List.not_mem_nil,
    or_false] at known
  rcases known with ((rfl | ⟨rule, known, rfl⟩) | rfl | rfl) | ⟨rule, known, rfl⟩
  · obtain ⟨rest, empty, rfl⟩ := Option.map_eq_some_iff.1 read
    exact lineStart_of_emptyLines? empty
  · obtain ⟨token, made, rfl⟩ := Option.map_eq_some_iff.1 read
    exact stops_of_mem_firstRules known made less
  · obtain ⟨target, given, rfl⟩ := Option.map_eq_some_iff.1 read
    exact lineStart_of_linkTarget? given
  · have begins := lineStart_of_quote? read
    obtain ⟨first, _, rfl⟩ := Option.map_eq_some_iff.1 read
    exact begins
  · obtain ⟨token, made, rfl⟩ := Option.map_eq_some_iff.1 read
    exact stops_of_mem_lastRules known made less

end Rules

end LectureDeck.Block
