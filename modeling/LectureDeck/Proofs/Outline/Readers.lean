import LectureDeck.Proofs.Outline.Seam

/-!
# Readers before a seam

What the readers for the parts of items make of a text that is cut at a seam. Those for what begins
an item come to no end of one (`LectureDeck.Text.Stays`); those that search, and those that take
whole lines, read the text alone as they read it with what follows, unless they take some of what
follows.
-/

namespace LectureDeck.Text

/-! ### Readers that stay before the end -/

section Readers

variable {α β : Type} [Reading α] [Reading β] {cs more : List Char}

/-- A reader takes what begins an item, and comes to no end of one. -/
structure Stays (read : List Char → Option α) : Prop where
  same : ∀ {cs more : List Char}, Seam cs more → read (cs ++ more) = (read cs).map (followedBy more)
  left : ∀ {cs more : List Char} {found : α}, Seam cs more → read cs = some found →
    Seam (rest found) more

/-- What is read on after what begins an item. -/
theorem Stays.cut {read : List Char → Option α} (stays : Stays read) (seam : Seam cs more)
    {next next' : α → Option β} (later : ∀ {found : α}, read cs = some found →
      Seam (rest found) more → Cut more (next found) (next' (followedBy more found))) :
    Cut more ((read cs).bind next) ((read (cs ++ more)).bind next') :=
  Cut.bind (stays.same seam) fun _ taken => later taken (stays.left seam taken)

/-- Two readers one after another. -/
theorem Stays.bind {read : List Char → Option α} (stays : Stays read) {next : α → Option β}
    (same : ∀ {found : α} {more : List Char}, Seam (rest found) more →
      next (followedBy more found) = (next found).map (followedBy more))
    (left : ∀ {found : α} {more : List Char} {last : β}, Seam (rest found) more →
      next found = some last → Seam (rest last) more) :
    Stays fun cs => (read cs).bind next where
  same seam := by
    rw [stays.same seam]
    cases taken : read _ with
    | none => rfl
    | some found => exact same (stays.left seam taken)
  left seam taken := by
    obtain ⟨found, begun, taken⟩ := Option.bind_eq_some_iff.1 taken
    exact left (stays.left seam begun) taken

/-- Readers that stay one after another stay together. -/
theorem Stays.seq {read : List Char → Option (List Char)} (stays : Stays read)
    {next : List Char → Option α} (later : Stays next) : Stays fun cs => (read cs).bind next :=
  stays.bind later.same later.left

/-- The first of many readers that reads something. -/
theorem findSome?_append {ι : Type} {readers : List ι} {read : ι → List Char → Option α}
    (each : ∀ reader ∈ readers, read reader (cs ++ more) = (read reader cs).map (followedBy more)) :
    (readers.findSome? fun reader => read reader (cs ++ more)) =
      (readers.findSome? fun reader => read reader cs).map (followedBy more) := by
  induction readers with
  | nil => rfl
  | cons reader readers later =>
    rw [List.findSome?_cons, List.findSome?_cons, each reader List.mem_cons_self]
    cases read reader cs with
    | none => exact later fun other member => each other (List.mem_cons_of_mem _ member)
    | some found => rfl

/-- The first of several readers that takes something stays if all of them do. -/
theorem Stays.findSome? {ι : Type} {readers : List ι} {read : ι → List Char → Option α}
    (each : ∀ reader ∈ readers, Stays (read reader)) :
    Stays fun cs => readers.findSome? fun reader => read reader cs where
  same seam := findSome?_append fun reader known => (each reader known).same seam
  left seam taken := by
    obtain ⟨reader, known, taken⟩ := List.exists_of_findSome?_eq_some taken
    exact (each reader known).left seam taken

/-- Some character stops a run, or the run goes up to the end. -/
theorem stopped_or_every (p : Char → Bool) (cs : List Char) :
    (∃ c ∈ cs, p c = false) ∨ ∀ c ∈ cs, p c = true := by
  by_cases stopped : ∃ c ∈ cs, p c = false
  · exact .inl stopped
  · exact .inr fun c member => Bool.not_eq_false _ ▸ fun stops => stopped ⟨c, member, stops⟩

/-- What is taken while a condition holds is the same with more text behind, if the condition fails
before. -/
theorem takeWhile_append_of_exists {p : Char → Bool} (stopped : ∃ c ∈ cs, p c = false)
    (more : List Char) : (cs ++ more).takeWhile p = cs.takeWhile p := by
  obtain ⟨c, member, stops⟩ := stopped
  rw [List.takeWhile_append, if_neg]
  intro all
  have every := List.takeWhile_eq_self_iff.1 ((List.takeWhile_prefix p).eq_of_length all)
  rw [every c member] at stops
  contradiction

/-- What is left then has the further text behind it. -/
theorem dropWhile_append_of_exists {p : Char → Bool} (stopped : ∃ c ∈ cs, p c = false)
    (more : List Char) : (cs ++ more).dropWhile p = cs.dropWhile p ++ more := by
  obtain ⟨c, member, stops⟩ := stopped
  rw [List.dropWhile_append, if_neg]
  intro isEmpty
  have every := List.dropWhile_eq_nil_iff.1 (List.isEmpty_iff.1 isEmpty)
  rw [every c member] at stops
  contradiction

/-- A class that has no ends of items is left at the latest where the text before the seam ends. -/
theorem Seam.exists_of_spares (seam : Seam cs more) {p : Char → Bool} (spares : Spares p) :
    ∃ c ∈ cs, p c = false := by
  obtain ⟨c, member, ends⟩ := seam.exists_isItemEnd
  exact ⟨c, member, spares c ends⟩

/-- Dropping characters of such a class leaves a text that ends at the same seam. -/
theorem Seam.dropWhile (seam : Seam cs more) {p : Char → Bool} (spares : Spares p) :
    Seam (cs.dropWhile p) more := by
  rw [← List.takeWhile_append_dropWhile (p := p) (l := cs)] at seam
  exact seam.of_append fun c member => spares.isItemEnd_eq (List.mem_takeWhile_imp member)

/-- A gap that is skipped leaves a text that ends at the same seam. -/
theorem Seam.skipGap (seam : Seam cs more) : Seam (skipGap cs) more := seam.dropWhile spares_isGap

/-- A gap before a seam is skipped in the same way with what follows. -/
theorem Seam.skipGap_append (seam : Seam cs more) :
    Text.skipGap (cs ++ more) = Text.skipGap cs ++ more :=
  dropWhile_append_of_exists (seam.exists_of_spares spares_isGap) more

/-- A text that holds a character which only the last of a literal may be does not end in the midst
of the literal. -/
theorem after?_append {start : List Char} (apart : ∃ c ∈ cs, c ∉ start.dropLast)
    (more : List Char) : after? start (cs ++ more) = (after? start cs).map (followedBy more) := by
  induction start generalizing cs with
  | nil => rfl
  | cons x start later =>
    obtain ⟨other, member, absent⟩ := apart
    cases cs with
    | nil => exact absurd member List.not_mem_nil
    | cons c cs =>
      by_cases equal : x = c
      · simp only [List.cons_append, after?, equal, if_true]
        cases start with
        | nil => rfl
        | cons y start =>
          rw [List.dropLast_cons_cons, List.mem_cons, not_or] at absent
          rcases List.mem_cons.1 member with rfl | inside
          · exact absurd equal.symm absent.1
          · exact later ⟨other, inside, absent.2⟩
      · simp only [List.cons_append, after?, equal, if_false]
        rfl

/-- Only the last character of a literal may end an item. -/
theorem Seam.literal?_append (seam : Seam cs more) {literal : String}
    (clear : literal.toList.dropLast.all (!isItemEnd ·) = true) :
    literal? literal (cs ++ more) = (literal? literal cs).map (followedBy more) := by
  obtain ⟨c, member, ends⟩ := seam.exists_isItemEnd
  refine after?_append ⟨c, member, fun inside => ?_⟩ more
  have within := List.all_eq_true.1 clear c inside
  rw [ends] at within
  contradiction

/-- A literal without ends of items stays. -/
theorem stays_literal? {literal : String} (clear : literal.toList.all (!isItemEnd ·) = true) :
    Stays (literal? literal) where
  same seam := by
    refine seam.literal?_append (List.all_eq_true.2 fun c member => ?_)
    exact List.all_eq_true.1 clear c (List.dropLast_subset _ member)
  left seam taken := by
    rw [after?_eq_some_iff.1 taken] at seam
    exact seam.of_append fun c member => by simpa using List.all_eq_true.1 clear c member

/-- What follows a literal that may be missing. -/
theorem Stays.getD {literal : String} (stays : Stays (literal? literal))
    (seam : Seam cs more) : (literal? literal (cs ++ more)).getD (cs ++ more) =
      (literal? literal cs).getD cs ++ more ∧ Seam ((literal? literal cs).getD cs) more := by
  rw [stays.same seam]
  cases taken : literal? literal cs with
  | none => exact ⟨rfl, seam⟩
  | some tail => exact ⟨rfl, stays.left seam taken⟩

/-- A literal ends with its last character. -/
theorem suffix_of_literal?_concat {literal : String} {tail : List Char} {last : Char}
    (final : literal.toList.getLast? = some last) (taken : literal? literal cs = some tail) :
    last :: tail <:+ cs := by
  obtain ⟨body, ended⟩ := List.getLast?_eq_some_iff.1 final
  exact ⟨body, by rw [after?_eq_some_iff.1 taken, ended, List.append_assoc]; rfl⟩

/-- A text that begins with a literal begins with its first character. -/
theorem head?_of_literal? {literal : String} {tail : List Char} {first : Char}
    (begins : literal.toList.head? = some first) (taken : literal? literal cs = some tail) :
    cs.head? = some first := by
  obtain ⟨rest, whole⟩ := List.head?_eq_some_iff.1 begins
  rw [after?_eq_some_iff.1 taken, whole]
  rfl

/-- What a literal leaves begins behind its last character. -/
theorem suffix_of_cutAt?_concat {literal before tail : List Char} {last : Char}
    (ended : cutAt? (literal ++ [last]) cs = some (before, tail)) : last :: tail <:+ cs :=
  ⟨before ++ literal, by rw [eq_of_cutAt?_eq_some ended]; simp⟩

/-- One of several literals is read alike with what follows, though its last character may end an
item. -/
theorem Seam.oneOf?_append (seam : Seam cs more) {literals : List String}
    (clear : ∀ literal ∈ literals, literal.toList.dropLast.all (!isItemEnd ·) = true) :
    oneOf? literals (cs ++ more) = (oneOf? literals cs).map (followedBy more) :=
  findSome?_append fun literal known => seam.literal?_append (clear literal known)

/-- One of several literals stays if no end of an item is in any of them. -/
theorem stays_oneOf? {literals : List String}
    (clear : ∀ literal ∈ literals, literal.toList.all (!isItemEnd ·) = true) :
    Stays (oneOf? literals) := .findSome? fun literal known => stays_literal? (clear literal known)

/-- A reader that stays does so behind characters that are dropped. -/
theorem Stays.dropWhile {read : List Char → Option α} (stays : Stays read) {p : Char → Bool}
    (spares : Spares p) : Stays fun cs => read (cs.dropWhile p) where
  same seam := by
    rw [dropWhile_append_of_exists (seam.exists_of_spares spares)]
    exact stays.same (seam.dropWhile spares)
  left seam taken := stays.left (seam.dropWhile spares) taken

/-- An indentation stays. -/
theorem stays_indent? : Stays indent? where
  same seam := by
    have spares : Spares (· == ' ') := spares_of_all rfl
    have stopped := seam.exists_of_spares spares
    simp only [indent?, takeWhile_append_of_exists stopped, dropWhile_append_of_exists stopped]
    split <;> rfl
  left seam taken := by
    unfold indent? at taken
    split at taken
    · cases taken
      exact seam.dropWhile (spares_of_all rfl)
    · contradiction

/-- A gap stays. -/
theorem stays_gap? : Stays gap? where
  same {cs more} seam := by
    cases cs with
    | nil => exact absurd rfl seam.ne_nil
    | cons c cs =>
      simp only [List.cons_append, gap?]
      split
      · rename_i isGap
        have later : Seam cs more := seam.of_cons (spares_isGap.isItemEnd_eq isGap)
        rw [later.skipGap_append]
        rfl
      · rfl
  left {cs more found} seam taken := by
    unfold gap? at taken
    split at taken
    · split at taken
      · rename_i c cs isGap
        cases taken
        have dropped := seam.skipGap
        rwa [skipGap, List.dropWhile_cons_of_pos isGap] at dropped
      · contradiction
    · contradiction

/-- A run that ends before the end of a text is the same with more text behind. -/
theorem run?_append_of_exists {p : Char → Bool} (stopped : ∃ c ∈ cs, p c = false)
    (more : List Char) : run? p (cs ++ more) = (run? p cs).map (followedBy more) := by
  simp only [run?, takeWhile_append_of_exists stopped, dropWhile_append_of_exists stopped]
  split <;> rfl

/-- A run of a class that has no ends of items stays. -/
theorem stays_run? {p : Char → Bool} (spares : Spares p) : Stays (run? p) where
  same seam := run?_append_of_exists (seam.exists_of_spares spares) _
  left seam taken := by
    obtain ⟨rfl, -⟩ := eq_of_run? taken
    exact seam.dropWhile spares

end Readers

/-! ### Readers that come to the end of a line -/

section Lines

variable {cs more : List Char}

/-- Empty lines are dropped alike, if what follows does not begin with one. -/
theorem dropWhile_break_append (unbroken : more.head? ≠ some '\n') (cs : List Char) :
    (cs ++ more).dropWhile (· == '\n') = cs.dropWhile (· == '\n') ++ more := by
  rw [List.dropWhile_append]
  split
  · rename_i all
    rw [List.isEmpty_iff.1 all]
    cases more with
    | nil => rfl
    | cons c more =>
      refine List.dropWhile_cons_of_neg fun same => unbroken ?_
      rw [List.head?_cons, beq_iff_eq.1 same]
  · rfl

/-- The end of a line is read alike with what follows the seam, which does not begin with an empty
line. -/
theorem Seam.lineEnd?_append (seam : Seam cs more) :
    lineEnd? (cs ++ more) = (lineEnd? cs).map (followedBy more) := by
  cases cs with
  | nil => exact absurd rfl seam.ne_nil
  | cons c cs =>
    simp only [List.cons_append, lineEnd?]
    split
    · exact congrArg some (dropWhile_break_append seam.unbroken cs)
    · rfl

/-- So is the end of a line behind a gap. -/
theorem Seam.gapLineEnd?_append (seam : Seam cs more) :
    gapLineEnd? (cs ++ more) = (gapLineEnd? cs).map (followedBy more) := by
  rw [gapLineEnd?, seam.skipGap_append, seam.skipGap.lineEnd?_append]
  rfl

/-- A text with a break has a character that is one. -/
theorem exists_break (broken : '\n' ∈ cs) : ∃ c ∈ cs, (c != '\n') = false := ⟨'\n', broken, rfl⟩

/-- A text with a break is its first line, the break, and what follows. -/
theorem firstLine_append_afterLine (broken : '\n' ∈ cs) :
    firstLine cs ++ '\n' :: afterLine cs = cs := by
  have parts := List.takeWhile_append_dropWhile (p := (· != '\n')) (l := cs)
  rw [firstLine, afterLine]
  cases left : cs.dropWhile (· != '\n') with
  | nil =>
    have every := List.dropWhile_eq_nil_iff.1 left '\n' broken
    contradiction
  | cons c tail =>
    have stops := List.head?_dropWhile_not (· != '\n') cs
    rw [left] at stops parts
    obtain rfl : c = '\n' := by simpa using stops
    exact parts

/-- Behind its first line a text ends at the same seam, if anything of it is left. -/
theorem Seam.afterLine (seam : Seam cs more) (broken : '\n' ∈ cs) :
    afterLine cs = [] ∨ Seam (afterLine cs) more := by
  rw [← firstLine_append_afterLine broken] at seam
  exact seam.of_break

/-- The first line of a text with a break is the same with more text behind. -/
theorem firstLine_append_of_mem (broken : '\n' ∈ cs) (more : List Char) :
    firstLine (cs ++ more) = firstLine cs := takeWhile_append_of_exists (exists_break broken) more

/-- What follows it then has the further text behind it. -/
theorem afterLine_append_of_mem (broken : '\n' ∈ cs) (more : List Char) :
    afterLine (cs ++ more) = afterLine cs ++ more := by
  have stopped := exists_break broken
  rw [afterLine, dropWhile_append_of_exists stopped, List.drop_append_of_le_length]
  · rfl
  · refine Nat.one_le_iff_ne_zero.2 fun zero => ?_
    have every := List.dropWhile_eq_nil_iff.1 (List.length_eq_zero_iff.1 zero)
    simpa using every '\n' broken

/-- No character of a text without breaks is one. -/
theorem bne_of_not_mem_break (unbroken : '\n' ∉ cs) : ∀ c ∈ cs, (c != '\n') = true :=
  fun _ member => bne_iff_ne.2 fun same => unbroken (same ▸ member)

/-- A text without breaks is its first line. -/
theorem firstLine_of_not_mem (unbroken : '\n' ∉ cs) : firstLine cs = cs :=
  List.takeWhile_eq_self_iff.2 (bne_of_not_mem_break unbroken)

/-- The first line goes on into what follows a text without breaks. -/
theorem firstLine_append_of_not_mem (unbroken : '\n' ∉ cs) (more : List Char) :
    firstLine (cs ++ more) = cs ++ firstLine more :=
  List.takeWhile_append_of_pos (bne_of_not_mem_break unbroken)

/-- A text without breaks is dropped with the first line of what follows it. -/
theorem dropWhile_append_of_not_mem (unbroken : '\n' ∉ cs) (more : List Char) :
    (cs ++ more).dropWhile (· != '\n') = more.dropWhile (· != '\n') :=
  List.dropWhile_append_of_pos (bne_of_not_mem_break unbroken)

/-- What comes after the first line is then behind the first line of what follows. -/
theorem afterLine_append_of_not_mem (unbroken : '\n' ∉ cs) (more : List Char) :
    afterLine (cs ++ more) = afterLine more := by
  rw [afterLine, dropWhile_append_of_not_mem unbroken, afterLine]

/-- The end of the line in which a text begins is the end of some line, whatever stands on it. -/
theorem exists_lineEnd? (cs : List Char) : ∃ after,
    lineEnd? (cs.dropWhile (· != '\n')) = some after ∧
    after <:+ afterLine cs := by
  unfold afterLine
  cases rest : cs.dropWhile (· != '\n') with
  | nil => exact ⟨[], rfl, List.nil_suffix⟩
  | cons c tail =>
    have stops := List.head?_dropWhile_not (· != '\n') cs
    rw [rest] at stops
    obtain rfl : c = '\n' := by simpa using stops
    exact ⟨_, rfl, List.dropWhile_suffix _⟩

/-- What stands on the line, and what follows the line. -/
theorem cut_line {β : Type} (nonempty : more ≠ []) (unbroken : more.head? ≠ some '\n')
    (make : List Char → β) :
    Cut more ((lineEnd? (cs.dropWhile (· != '\n'))).bind fun after =>
      some (make (firstLine cs), after))
      ((lineEnd? ((cs ++ more).dropWhile (· != '\n'))).bind fun after =>
        some (make (firstLine (cs ++ more)), after)) := by
  by_cases broken : '\n' ∈ cs
  · rw [firstLine_append_of_mem broken, dropWhile_append_of_exists (exists_break broken)]
    cases rest : cs.dropWhile (· != '\n') with
    | nil =>
      have every := List.dropWhile_eq_nil_iff.1 rest '\n' broken
      contradiction
    | cons c tail =>
      refine .inl ?_
      simp only [List.cons_append, lineEnd?]
      split
      · rw [dropWhile_break_append unbroken]
        rfl
      · rfl
  · rw [dropWhile_append_of_not_mem broken]
    obtain ⟨after, read, shorter⟩ := exists_lineEnd? more
    rw [read]
    exact .beyond (Nat.lt_of_le_of_lt shorter.length_le (length_afterLine_lt nonempty))

/-- The empty lines at the start of a text, after some have been passed. -/
theorem afterEmptyLines?_eq_some {cs start : List Char} (later : cs <:+ start) :
    ∃ after, Block.afterEmptyLines? (some start) cs = some after ∧
      (after = start ∨ after.length < start.length) := by
  induction cs generalizing start with
  | nil => exact ⟨start, rfl, .inl rfl⟩
  | cons c cs shorter =>
    have inside := (List.suffix_cons c cs).trans later
    have less : cs.length < start.length := Nat.lt_of_succ_le later.length_le
    unfold Block.afterEmptyLines?
    split
    · obtain ⟨after, read, kind⟩ := shorter (List.suffix_refl cs)
      refine ⟨after, read, .inr ?_⟩
      rcases kind with rfl | fewer
      · exact less
      · exact Nat.lt_trans fewer less
    · split
      · exact shorter inside
      · exact ⟨start, rfl, .inl rfl⟩

/-- Empty lines that go up to the seam are read alike, or reach into what follows. -/
theorem cut_afterEmptyLines? (seam : Seam cs more) (found : Option (List Char)) :
    Cut more (Block.afterEmptyLines? found cs)
      (Block.afterEmptyLines? (found.map (followedBy more)) (cs ++ more)) := by
  induction cs generalizing found with
  | nil => exact absurd rfl seam.ne_nil
  | cons c cs later =>
    simp only [List.cons_append, Block.afterEmptyLines?]
    split
    · rename_i isBreak
      subst isBreak
      rcases seam.of_cons_break with rfl | seam
      · obtain ⟨after, read, kind⟩ := afterEmptyLines?_eq_some (List.suffix_refl more)
        rw [List.nil_append, read]
        rcases kind with rfl | shorter
        · exact .within []
        · exact .beyond shorter
      · exact later seam (some cs)
    · split
      · rename_i isGap
        exact later (seam.of_cons (spares_isGap.isItemEnd_eq isGap)) found
      · exact .inl rfl

/-- A text that is no gap consists of none. -/
theorem Seam.all_isGap (seam : Seam cs more) (tail : List Char) :
    (cs ++ tail).all isGap = false := by
  obtain ⟨c, member, stops⟩ := seam.exists_of_spares spares_isGap
  exact List.all_eq_false.2 ⟨c, List.mem_append_left tail member, by simp [stops]⟩

/-- A row of empty lines is read alike, or reaches into what follows. -/
theorem cut_emptyLines? (seam : Seam cs more) :
    Cut more (Block.emptyLines? cs) (Block.emptyLines? (cs ++ more)) := by
  have gaps := seam.all_isGap []
  rw [List.append_nil] at gaps
  have eq_after (cs : List Char) (mixed : cs.all isGap = false) :
      Block.emptyLines? cs = Block.afterEmptyLines? none cs := by
    unfold Block.emptyLines?
    rw [mixed, Bool.and_false]
    cases Block.afterEmptyLines? none cs <;> rfl
  rw [eq_after cs gaps, eq_after (cs ++ more) (seam.all_isGap more)]
  exact cut_afterEmptyLines? seam none

/-- The lines of a text with a break are the first one with its break, and those that follow. -/
theorem lines_of_mem (broken : '\n' ∈ cs) :
    lines cs = (firstLine cs ++ ['\n']) :: lines (afterLine cs) := by
  induction cs with
  | nil => exact absurd broken List.not_mem_nil
  | cons c cs later =>
    by_cases isBreak : c = '\n'
    · subst isBreak
      rfl
    · have passed : (c != '\n') = true := bne_iff_ne.2 isBreak
      have inside := (List.mem_cons.1 broken).resolve_left (Ne.symm isBreak)
      rw [lines, if_neg isBreak, later inside, firstLine, afterLine, firstLine, afterLine,
        List.takeWhile_cons_of_pos (p := (· != '\n')) passed,
        List.dropWhile_cons_of_pos (p := (· != '\n')) passed]
      rfl

/-- A text without breaks that is not empty is one line. -/
theorem lines_of_not_mem (clear : '\n' ∉ cs) (nonempty : cs ≠ []) : lines cs = [cs] := by
  induction cs with
  | nil => contradiction
  | cons c cs later =>
    rw [List.mem_cons, not_or] at clear
    rw [lines, if_neg (Ne.symm clear.1)]
    cases cs with
    | nil => rfl
    | cons d cs => rw [later clear.2 (List.cons_ne_nil d cs)]

/-- The first line of a text that is not empty is not empty and stands at its beginning. -/
theorem exists_lines_cons (nonempty : cs ≠ []) :
    ∃ first others, first ≠ [] ∧ first <+: cs ∧ lines cs = first :: others := by
  by_cases broken : '\n' ∈ cs
  · refine ⟨_, _, by simp, ⟨afterLine cs, ?_⟩, lines_of_mem broken⟩
    rw [List.append_assoc]
    exact firstLine_append_afterLine broken
  · exact ⟨cs, [], nonempty, List.prefix_refl cs, lines_of_not_mem broken nonempty⟩

/-- The rest of a line that is begun. -/
theorem lines_append (clear : '\n' ∉ cs) {first : List Char} {others : List (List Char)}
    (begun : lines more = first :: others) : lines (cs ++ more) = (cs ++ first) :: others := by
  induction cs with
  | nil => exact begun
  | cons c cs later =>
    rw [List.mem_cons, not_or] at clear
    rw [List.cons_append, lines, if_neg (Ne.symm clear.1), later clear.2]
    rfl

end Lines

/-! ### Readers that search -/

section Search

variable {α : Type} [Reading α] {cs more : List Char} {stop : Char → Bool}
  {close : List Char → Option α}

/-- What closes a text leaves less of it. -/
def Shortens (close : List Char → Option α) : Prop :=
  ∀ {cs : List Char} {found : α}, close cs = some found → (rest found).length < cs.length

/-- A search leaves less of a text if what closes it does. -/
theorem Shortens.upTo? (shortens : Shortens close) : Shortens (upTo? stop close) := by
  intro cs found taken
  induction cs generalizing found with
  | nil =>
    obtain ⟨_, closed, _⟩ := Option.map_eq_some_iff.1 taken
    exact absurd (shortens closed) (Nat.not_lt_zero _)
  | cons c cs later =>
    unfold Text.upTo? at taken
    split at taken
    · rename_i closed
      cases taken
      exact shortens closed
    · split at taken
      · contradiction
      · obtain ⟨part, inner, rfl⟩ := Option.map_eq_some_iff.1 taken
        have shorter := later inner
        exact Nat.lt_succ_of_lt shorter

/-- A search that is cut wherever it may close, and that comes to the end of the text only in
vain. -/
theorem cut_upTo? (each : ∀ before c after, cs = before ++ c :: after →
      (∀ d ∈ before, stop d = false) → Cut more (close (c :: after)) (close (c :: after ++ more)))
    (ends : Shortens close ∨ ∃ c ∈ cs, stop c = true) :
    Cut more (upTo? stop close cs) (upTo? stop close (cs ++ more)) := by
  induction cs with
  | nil =>
    rcases ends with shortens | ⟨c, member, -⟩
    · have none : close [] = none := by
        cases closed : close [] with
        | none => rfl
        | some found => exact absurd (shortens closed) (Nat.not_lt_zero _)
      rw [upTo?, none]
      exact .of_none fun found taken => shortens.upTo? taken
    · exact absurd member List.not_mem_nil
  | cons c cs later =>
    have here := each [] c cs rfl fun d member => absurd member List.not_mem_nil
    rw [List.cons_append] at here ⊢
    unfold upTo?
    rcases here with same | ⟨found, taken, shorter⟩
    · rw [same]
      cases closed : close (c :: cs) with
      | some found => exact .within ([], found)
      | none =>
        dsimp only [Option.map_none]
        split
        · exact .none
        · rename_i passed
          have passed := Bool.eq_false_iff.2 passed
          have inner := later
            (fun before d after whole clear => each (c :: before) d after (by rw [whole]; rfl)
              fun e member => (List.mem_cons.1 member).elim (fun same => same ▸ passed) (clear e))
            (ends.imp_right fun ⟨d, member, stops⟩ => by
              rcases List.mem_cons.1 member with rfl | inside
              · rw [passed] at stops
                contradiction
              · exact ⟨d, inside, stops⟩)
          exact inner.map _ (fun _ => rfl) fun _ => rfl
    · rw [Option.mem_def.1 taken]
      exact .beyond shorter

/-- A search for a text of at least one character. -/
theorem cut_someUpTo? (each : ∀ before c after, cs = before ++ c :: after →
      Cut more (close (c :: after)) (close (c :: after ++ more)))
    (shortens : Shortens close) :
    Cut more (someUpTo? stop close cs) (someUpTo? stop close (cs ++ more)) := by
  cases cs with
  | nil =>
    refine .of_none fun found taken => ?_
    cases more with
    | nil => contradiction
    | cons c more =>
      simp only [List.nil_append, someUpTo?] at taken
      split at taken
      · contradiction
      · obtain ⟨part, inner, rfl⟩ := Option.map_eq_some_iff.1 taken
        have shorter := shortens.upTo? inner
        exact Nat.lt_succ_of_lt shorter
  | cons c cs =>
    simp only [List.cons_append, someUpTo?]
    split
    · exact .none
    · refine Cut.map (cut_upTo? ?_ (.inl shortens)) _ (fun _ => rfl) fun _ => rfl
      exact fun before d after whole _ => each (c :: before) d after (by rw [whole]; rfl)

/-- A literal that holds the last character of the text at its own end at most is found in the text,
or after it. -/
theorem cut_cutAt? {literal : List Char} (nonempty : literal ≠ [])
    (apart : ∀ last ∈ cs.getLast?, last ∉ literal.dropLast) :
    Cut more (cutAt? literal cs) (cutAt? literal (cs ++ more)) := by
  induction cs with
  | nil =>
    rw [cutAt?, if_neg nonempty]
    exact .of_none fun found taken =>
      length_lt_of_cutAt?_eq_some (List.length_pos_iff.2 nonempty) taken
  | cons c cs later =>
    obtain ⟨last, final⟩ : ∃ last, (c :: cs).getLast? = some last :=
      Option.isSome_iff_exists.1 (by simp)
    have read := after?_append ⟨last, List.mem_of_getLast? final, apart last final⟩ more
    rw [List.cons_append] at read ⊢
    unfold cutAt?
    rw [read]
    cases after? literal (c :: cs) with
    | some found => exact .within ([], found)
    | none =>
      refine Cut.map (later fun last final => apart last ?_) _ (fun _ => rfl) fun _ => rfl
      rw [Option.mem_def] at final ⊢
      rw [List.getLast?_cons, final, Option.getD_some]

end Search

/-! ### Readers of whole lines -/

section SpanLines

variable {p : List Char → Bool} {cs more : List Char}

/-- A seam depends on no more than the first character of what follows. -/
theorem Seam.of_prefix (seam : Seam cs more) {first : List Char} (nonempty : first ≠ [])
    (begins : first <+: more) : Seam cs first := by
  have same : first.head? = more.head? := by
    obtain ⟨later, rfl⟩ := begins
    obtain ⟨c, first, rfl⟩ := List.exists_cons_of_ne_nil nonempty
    rfl
  exact ⟨nonempty, same ▸ seam.unbroken, same ▸ seam.ends⟩

/-- What is asked of a line does not depend on what follows the end of an item on it. -/
def Settled (p : List Char → Bool) : Prop :=
  ∀ {line more : List Char}, '\n' ∉ line → Seam line more → p (line ++ more) = p line

/-- Either no line is taken, or some of the text is. -/
theorem spanLinesFrom_eq_or_shorter {p : List Char → Bool} {line start cs : List Char}
    (passed : start = line.reverse ++ cs) :
    spanLinesFrom p line start cs = ([], start) ∨
      (spanLinesFrom p line start cs).2.length < start.length := by
  fun_induction spanLinesFrom p line start cs with
  | case1 line start empty =>
    subst passed
    simp [List.isEmpty_iff.1 empty]
  | case2 line start some accepted =>
    subst passed
    exact .inr (by simpa [List.length_pos_iff] using some)
  | case3 => exact .inl rfl
  | case4 line start rest part accepted later =>
    have less : part.2.length ≤ rest.length := by
      rcases later rfl with same | shorter
      · exact Nat.le_of_eq (congrArg (fun part => part.2.length) same)
      · exact Nat.le_of_lt shorter
    subst passed
    refine .inr ?_
    simp only [List.length_append, List.length_cons]
    omega
  | case5 => exact .inl rfl
  | case6 line start c rest other later => exact later (by simp [passed])

/-- Lines are taken from the beginning of a text, or none are. -/
theorem spanLines_eq_or_shorter (p : List Char → Bool) (cs : List Char) :
    spanLines p cs = ([], cs) ∨ (spanLines p cs).2.length < cs.length :=
  spanLinesFrom_eq_or_shorter rfl

/-- The rest of a line that is begun, and whether the line is taken. -/
theorem exists_first_of_spanLinesFrom (p : List Char → Bool) (line start : List Char)
    (nonempty : cs ≠ []) : ∃ first, first ≠ [] ∧ first <+: cs ∧
      ((p (line.reverse ++ first) = false ∧ spanLinesFrom p line start cs = ([], start)) ∨
        (p (line.reverse ++ first) = true ∧
          (spanLinesFrom p line start cs).2.length < cs.length)) := by
  induction cs generalizing line with
  | nil => contradiction
  | cons c cs later =>
    have begun : [c] <+: c :: cs := ⟨cs, rfl⟩
    have ended : (c :: line).reverse = line.reverse ++ [c] := List.reverse_cons
    by_cases isBreak : c = '\n'
    · refine ⟨[c], List.cons_ne_nil _ _, begun, ?_⟩
      rw [spanLinesFrom, if_pos isBreak, ended]
      cases accepted : p (line.reverse ++ [c]) with
      | false => exact .inl ⟨rfl, rfl⟩
      | true => exact .inr ⟨rfl, Nat.lt_succ_of_le (spanLines_suffix p cs).length_le⟩
    · rw [spanLinesFrom, if_neg isBreak]
      cases cs with
      | nil =>
        refine ⟨[c], List.cons_ne_nil _ _, begun, ?_⟩
        rw [spanLinesFrom, ended, if_neg (by simp)]
        cases accepted : p (line.reverse ++ [c]) with
        | false => exact .inl ⟨rfl, rfl⟩
        | true => exact .inr ⟨rfl, Nat.one_pos⟩
      | cons d cs =>
        obtain ⟨first, -, begins, kind⟩ := later (c :: line) (List.cons_ne_nil _ _)
        rw [ended, List.append_assoc] at kind
        refine ⟨c :: first, List.cons_ne_nil _ _, List.cons_prefix_cons.2 ⟨rfl, begins⟩, ?_⟩
        exact kind.imp_right fun ⟨accepted, shorter⟩ => ⟨accepted, Nat.lt_succ_of_lt shorter⟩

/-- Lines that are taken while a condition holds are the same with what follows, if the condition
does not depend on that, or else the line at the seam is taken with some of it. -/
theorem cut_spanLinesFrom (settled : Settled p) {line start : List Char}
    (passed : start = line.reverse ++ cs) (clear : '\n' ∉ line)
    (meets : start = [] ∨ Seam start more) :
    Cut more (some (spanLinesFrom p line start cs))
      (some (spanLinesFrom p line (start ++ more) (cs ++ more))) := by
  induction cs generalizing line start with
  | nil =>
    rw [List.append_nil] at passed
    subst passed
    rcases meets with empty | seam
    · obtain rfl : line = [] := List.reverse_eq_nil_iff.1 empty
      rcases spanLines_eq_or_shorter p more with same | shorter
      · exact .inl (congrArg some same)
      · exact .beyond shorter
    · obtain ⟨first, nonempty, begins, kind⟩ :=
        exists_first_of_spanLinesFrom p line (line.reverse ++ more) seam.nonempty
      rw [settled (by simpa using clear) (seam.of_prefix nonempty begins)] at kind
      rw [List.nil_append, spanLinesFrom, if_neg (by simpa using seam.ne_nil)]
      rcases kind with ⟨refused, same⟩ | ⟨-, shorter⟩
      · rw [same, refused]
        exact .within ([], line.reverse)
      · exact .beyond shorter
  | cons c cs later =>
    have ended : (c :: line).reverse = line.reverse ++ [c] := List.reverse_cons
    simp only [List.cons_append, spanLinesFrom]
    split
    · rename_i isBreak
      subst isBreak
      split
      · have next : cs = [] ∨ Seam cs more := by
          rcases meets with empty | seam
          · rw [passed] at empty
            exact absurd empty (by simp)
          · exact (passed ▸ seam).of_break
        have inner : Cut more (some (spanLinesFrom p [] cs cs))
            (some (spanLinesFrom p [] (cs ++ more) (cs ++ more))) := later rfl List.not_mem_nil next
        exact inner.map (fun part => (('\n' :: line).reverse :: part.1, part.2))
          (fun _ => rfl) fun _ => rfl
      · exact .within ([], start)
    · rename_i other
      refine later (by rw [passed, ended, List.append_assoc]; rfl) ?_ meets
      simpa [eq_comm] using And.intro other clear

/-- The lines at the start of a text that are settled one by one. -/
theorem cut_spanLines (settled : Settled p) (meets : cs = [] ∨ Seam cs more) :
    Cut more (some (spanLines p cs)) (some (spanLines p (cs ++ more))) :=
  cut_spanLinesFrom settled rfl List.not_mem_nil meets

end SpanLines

end LectureDeck.Text
