import LectureDeck.Markup.Block.Remainder
import LectureDeck.Proofs.Outline.Readers
import Mathlib.Data.List.DropRight

/-!
# Readers for blocks before a seam

What begins a block, and which lines interrupt a paragraph, close a fence or are indented, is
decided by the part of a text that stands before a seam (`LectureDeck.Block.interrupts_append`,
`LectureDeck.Text.Settled`).
-/

namespace LectureDeck.Block

open LectureDeck.Text

section Ends

variable {cs tail more : List Char} {literal : String}

/-- A character at which dropping stops is not dropped. -/
theorem mem_dropWhile {c : Char} {p : Char → Bool} (member : c ∈ cs) (stops : p c = false) :
    c ∈ cs.dropWhile p := by
  rw [← List.takeWhile_append_dropWhile (p := p) (l := cs), List.mem_append] at member
  rcases member with taken | left
  · rw [List.mem_takeWhile_imp taken] at stops
    contradiction
  · exact left

/-- A gap that ends a line before a heading. -/
def Spent (cs more : List Char) : Prop := cs.all isGap = true ∧ more.head? = some '#'

/-- A gap that goes up to the seam is skipped as a whole. -/
theorem Spent.skipGap_eq (spent : Spent cs more) : skipGap cs = [] :=
  List.dropWhile_eq_nil_iff.2 (List.all_eq_true.1 spent.1)

/-- What follows the gap is then left, since it begins with a number sign. -/
theorem Spent.skipGap_append (spent : Spent cs more) : skipGap (cs ++ more) = more := by
  rw [skipGap, List.dropWhile_append_of_pos (List.all_eq_true.1 spent.1)]
  obtain ⟨later, rfl⟩ := List.head?_eq_some_iff.1 spent.2
  rfl

/-- What follows a character that is no line break. -/
theorem seam_or_spent {c : Char} (seam : Seam (c :: tail) more) (other : c ≠ '\n') :
    Seam tail more ∨ Spent tail more := by
  obtain ⟨body, last, gap, whole, ends, gaps, kind⟩ := seam.ends
  cases body with
  | nil =>
    obtain ⟨rfl, rfl⟩ := List.cons.inj whole
    rcases kind with ⟨isBreak, -⟩ | ⟨-, heading⟩
    · exact absurd isBreak other
    · exact .inr ⟨gaps, heading⟩
  | cons d body =>
    obtain ⟨rfl, rfl⟩ := List.cons.inj whole
    exact .inl ⟨seam.nonempty, seam.unbroken, body, last, gap, rfl, ends, gaps, kind⟩

/-- What follows a mark that is no line break. -/
theorem seam_or_spent_of_suffix {c : Char} (seam : Seam cs more) (later : c :: tail <:+ cs)
    (other : c ≠ '\n') (mark : isGap c = false) : Seam tail more ∨ Spent tail more := by
  rcases seam.suffix later with seam | ⟨gaps, -⟩
  · exact seam_or_spent seam other
  · rw [List.all_cons, mark] at gaps
    contradiction

/-- What follows a literal that does not end with a line break. -/
theorem seam_or_spent_of_literal? (seam : Seam cs more) (taken : literal? literal cs = some tail)
    {last : Char} (final : literal.toList.getLast? = some last) (other : last ≠ '\n')
    (mark : isGap last = false) : Seam tail more ∨ Spent tail more := by
  obtain ⟨body, ended⟩ := List.getLast?_eq_some_iff.1 final
  refine seam_or_spent_of_suffix seam ⟨body, ?_⟩ other mark
  rw [after?_eq_some_iff.1 taken, ended, List.append_assoc]
  rfl

/-- A gap is skipped alike with what follows, whether it goes up to the seam or not. -/
theorem skipGap_append (ends : Seam tail more ∨ Spent tail more) :
    skipGap (tail ++ more) = skipGap tail ++ more := by
  rcases ends with seam | spent
  · exact seam.skipGap_append
  · rw [spent.skipGap_append, spent.skipGap_eq, List.nil_append]

/-- A literal that begins otherwise than a text. -/
theorem literal?_cons_eq_none {first c : Char} (begins : literal.toList.head? = some first)
    (other : first ≠ c) (cs : List Char) : literal? literal (c :: cs) = none := by
  obtain ⟨rest, whole⟩ := List.head?_eq_some_iff.1 begins
  rw [literal?, whole, after?, if_neg other]

/-- No literal is at the end of a text. -/
theorem literal?_nil {first : Char} (begins : literal.toList.head? = some first) :
    literal? literal [] = none := by
  obtain ⟨rest, whole⟩ := List.head?_eq_some_iff.1 begins
  rw [literal?, whole]
  rfl

/-- A literal leaves less of a text. -/
theorem literal?_length_lt {first : Char} (begins : literal.toList.head? = some first)
    (taken : literal? literal cs = some tail) : tail.length < cs.length := by
  refine length_lt_of_after?_eq_some ?_ taken
  obtain ⟨rest, whole⟩ := List.head?_eq_some_iff.1 begins
  simp [whole]

/-- A gap begins with no mark. -/
theorem ne_of_isGap {first c : Char} (mark : isGap first = false) (gap : isGap c = true) :
    first ≠ c := by
  rintro rfl
  rw [mark] at gap
  contradiction

/-- A literal that begins with no gap is not in a gap. -/
theorem Spent.literal?_eq_none (spent : Spent cs more) {first : Char}
    (begins : literal.toList.head? = some first) (mark : isGap first = false) :
    literal? literal cs = none := by
  cases cs with
  | nil => exact literal?_nil begins
  | cons c cs =>
    have gap := List.all_eq_true.1 spent.1 c List.mem_cons_self
    exact literal?_cons_eq_none begins (ne_of_isGap mark gap) cs

/-- Nor is it where a gap goes up to the seam. -/
theorem literal?_cons_of_spent {c first : Char} (spent : Spent (c :: tail) more)
    (begins : literal.toList.head? = some first) (mark : isGap first = false) (cs : List Char) :
    literal? literal (c :: cs) = none :=
  literal?_cons_eq_none begins
    (ne_of_isGap mark (List.all_eq_true.1 spent.1 c List.mem_cons_self)) cs

/-- What closes a text may do so before the last gap of the text. -/
theorem cut_closing (close : List Char → Option (List Char)) (seam : Seam cs more)
    (here : ∀ {tail}, Seam tail more → Cut more (close tail) (close (tail ++ more)))
    (idle : ∀ {c tail}, Spent (c :: tail) more →
      close (c :: tail) = none ∧ close (c :: tail ++ more) = none)
    {c : Char} (later : c :: tail <:+ cs) :
    Cut more (close (c :: tail)) (close (c :: tail ++ more)) := by
  rcases seam.suffix later with seam | ⟨gaps, kind⟩
  · exact here seam
  · obtain ⟨alone, whole⟩ := idle ⟨gaps, kind.resolve_left (List.cons_ne_nil _ _)⟩
    rw [alone, whole]
    exact .none

end Ends

section Readers

/-- What follows the start of a line, up to a line break and further. -/
theorem seam_of_mem_break {cs tail more : List Char} (seam : Seam cs more) (later : tail <:+ cs)
    (broken : '\n' ∈ tail) : Seam tail more := by
  rcases seam.suffix later with seam | ⟨gaps, -⟩
  · exact seam
  · exact absurd (List.all_eq_true.1 gaps '\n' broken) (by decide)

/-- What is no space is behind an indentation. -/
theorem mem_of_indent? {cs start : List Char} (indented : indent? cs = some start) {c : Char}
    (member : c ∈ cs) (other : (c == ' ') = false) : c ∈ start := by
  unfold indent? at indented
  split at indented
  · cases indented
    exact mem_dropWhile member other
  · contradiction

/-- No character of words ends an item. -/
theorem spares_isWordChar : Spares isWordChar := spares_of_all (by decide +kernel)

/-- No digit ends an item. -/
theorem spares_isDecimalDigit : Spares isDecimalDigit := spares_of_all (by decide +kernel)

/-- No letter ends an item. -/
theorem spares_isAlpha : Spares Char.isAlpha := spares_of_all rfl

/-- The name of an environment stays before the seam. -/
theorem stays_environmentName? : Stays environmentName? := by
  refine (stays_run? spares_isAlpha).bind (fun {found more} seam => ?_)
    fun {found more last} seam taken => ?_
  · obtain ⟨letters, rest⟩ := found
    cases rest with
    | nil => exact absurd rfl seam.ne_nil
    | cons c rest =>
      by_cases star : c = '*'
      · subst star
        rfl
      · simp [followedBy, star]
  · obtain ⟨letters, rest⟩ := found
    dsimp only at taken
    split at taken
    · cases taken
      exact seam.of_cons rfl
    · cases taken
      exact seam

/-- The marks of a rule stay before the seam, if those of one kind and gaps have no ends of
items. -/
theorem stays_ruleMarks? {mark : Char} (spares : Spares fun c => c == mark || isGap c) :
    Stays (ruleMarks? mark) where
  same {cs more} seam := by
    have stopped := seam.exists_of_spares spares
    have head : (cs ++ more).head? = cs.head? := by
      obtain ⟨c, cs, rfl⟩ := List.exists_cons_of_ne_nil seam.ne_nil
      rfl
    simp only [ruleMarks?, head, takeWhile_append_of_exists stopped,
      dropWhile_append_of_exists stopped]
    split <;> rfl
  left seam taken := by
    simp only [ruleMarks?] at taken
    split at taken
    · cases taken
      exact seam.dropWhile spares
    · contradiction

/-- The marks of any rule stay before the seam. -/
theorem stays_anyRuleMarks? : Stays anyRuleMarks? := by
  have stays : ∀ mark ∈ ['-', '*', '_'], Stays (ruleMarks? mark) := by
    intro mark known
    simp only [List.mem_cons, List.not_mem_nil, or_false] at known
    rcases known with rfl | rfl | rfl <;> exact stays_ruleMarks? (spares_of_all rfl)
  exact .findSome? stays

/-- The marker of an item stays before the seam. -/
theorem stays_listMarker? : Stays listMarker? := by
  -- What follows the number of an ordered item.
  have dotted (c : Char) : Stays fun cs =>
      (oneOf? [".", ")"] cs).bind fun rest => (gap? rest).bind fun rest => some (c.isDigit, rest) :=
    (stays_oneOf? (by decide)).seq (stays_gap?.bind (fun _ => rfl) fun seam taken => by
      cases taken
      exact seam)
  have numbered (c : Char) : Stays fun cs => (run? isDecimalDigit cs).bind fun part =>
      if part.1.length ≤ 9 then
        (oneOf? [".", ")"] part.2).bind fun rest => (gap? rest).bind fun rest =>
          some (c.isDigit, rest)
      else none := by
    refine (stays_run? spares_isDecimalDigit).bind (fun {found more} seam => ?_)
      fun {found more last} seam taken => ?_
    · change (if found.1.length ≤ 9 then _ else none) = _
      split
      · exact (dotted c).same seam
      · rfl
    · split at taken
      · exact (dotted c).left seam taken
      · contradiction
  have clear {c : Char} (bullet : (c == '*' || c == '+' || c == '-') = true) :
      isItemEnd c = false := by
    simp only [Bool.or_eq_true, beq_iff_eq] at bullet
    rcases bullet with (rfl | rfl) | rfl <;> rfl
  constructor
  · intro cs more seam
    obtain ⟨c, cs, rfl⟩ := List.exists_cons_of_ne_nil seam.ne_nil
    by_cases bullet : (c == '*' || c == '+' || c == '-') = true
    · have seam : Seam cs more := seam.of_cons (clear bullet)
      rw [List.cons_append, listMarker?, listMarker?, if_pos bullet, if_pos bullet,
        stays_gap?.same seam]
      cases gap? cs <;> rfl
    · rw [List.cons_append, listMarker?, listMarker?, if_neg bullet, if_neg bullet]
      exact (numbered c).same seam
  · intro cs more found seam taken
    obtain ⟨c, cs, rfl⟩ := List.exists_cons_of_ne_nil seam.ne_nil
    by_cases bullet : (c == '*' || c == '+' || c == '-') = true
    · have seam : Seam cs more := seam.of_cons (clear bullet)
      rw [listMarker?, if_pos bullet] at taken
      obtain ⟨rest, spaced, rfl⟩ := Option.map_eq_some_iff.1 taken
      exact stays_gap?.left seam spaced
    · rw [listMarker?, if_neg bullet] at taken
      exact (numbered c).left seam taken

/-- So does the marker behind an indentation. -/
theorem stays_listStart? : Stays listStart? := stays_indent?.seq stays_listMarker?

/-- The mark of a quoted line stays before the seam. -/
theorem stays_quoteMark? : Stays quoteMark? := by
  have opens : Stays (literal? ">") := stays_literal? rfl
  have spaces : Stays (literal? " ") := stays_literal? rfl
  refine stays_indent?.seq (opens.bind (fun seam => congrArg some (spaces.getD seam).1)
    fun seam taken => ?_)
  cases taken
  exact (spaces.getD seam).2

/-- Digits before a percent sign. -/
theorem percentage?_append {cs more : List Char} (seam : Seam cs more) :
    percentage? (cs ++ more) = (percentage? cs).map (followedBy more) := by
  -- What follows the digits.
  have signed (digits : List Char) {cs : List Char} (seam : Seam cs more) :
      ((literal? "%" (skipGap (cs ++ more))).bind fun rest => some (digits, skipGap rest)) =
        ((literal? "%" (skipGap cs)).bind fun rest => some (digits, skipGap rest)).map
          (followedBy more) := by
    rw [seam.skipGap_append, seam.skipGap.literal?_append rfl]
    cases taken : literal? "%" (skipGap cs) with
    | none => rfl
    | some tail =>
      have ends := seam_or_spent_of_literal? seam.skipGap taken rfl (by decide) rfl
      change some (digits, skipGap (tail ++ more)) = _
      rw [skipGap_append ends]
      rfl
  have stays := stays_run? spares_isDecimalDigit
  change (run? isDecimalDigit (cs ++ more)).bind _ = ((run? isDecimalDigit cs).bind _).map _
  rw [stays.same seam]
  cases counted : run? isDecimalDigit cs with
  | none => rfl
  | some found =>
    obtain ⟨whole, tail⟩ := found
    have seam : Seam tail more := stays.left seam counted
    obtain ⟨c, tail, rfl⟩ := List.exists_cons_of_ne_nil seam.ne_nil
    by_cases point : c = '.'
    · subst point
      have seam := seam.of_cons rfl
      have stopped := seam.exists_of_spares spares_isDecimalDigit
      simp only [Option.map_some, Option.bind_some, followedBy, List.cons_append,
        takeWhile_append_of_exists stopped, dropWhile_append_of_exists stopped]
      exact signed _ (seam.dropWhile spares_isDecimalDigit)
    · simp only [Option.map_some, Option.bind_some, followedBy, List.cons_append]
      split
      · rename_i same
        exact absurd (List.cons.inj same).1 point
      · split
        · rename_i same
          exact absurd (List.cons.inj same).1 point
        · exact signed _ seam

end Readers

section Lines

variable {cs more line : List Char}

/-- Whether a text begins with the mark of a heading is told before the seam. -/
theorem isHeadingMark_append (seam : Seam cs more) :
    isHeadingMark (cs ++ more) = isHeadingMark cs := by
  have spares : Spares (· == '#') := spares_of_all rfl
  have stopped := seam.exists_of_spares spares
  obtain ⟨c, tail, dropped⟩ := List.exists_cons_of_ne_nil (seam.dropWhile spares).ne_nil
  simp only [isHeadingMark, takeWhile_append_of_exists stopped, dropWhile_append_of_exists stopped,
    dropped, List.cons_append]

/-- Whether a text begins an embed is told before the seam. -/
theorem isEmbedStart_append (seam : Seam cs more) :
    isEmbedStart (cs ++ more) = isEmbedStart cs := by
  have stays : Stays fun cs => (literal? "=" cs).bind fun rest =>
      (run? isWordChar rest).bind fun part => literal? "(" part.2 :=
    (stays_literal? rfl).seq ((stays_run? spares_isWordChar).bind
      (fun seam => (stays_literal? rfl).same seam) fun seam => (stays_literal? rfl).left seam)
  unfold isEmbedStart
  rw [stays.same seam, Option.isSome_map]

/-- What interrupts a paragraph does so by the start of its line. -/
theorem interrupts_append (seam : Seam cs more) : interrupts (cs ++ more) = interrupts cs := by
  unfold interrupts
  rw [stays_indent?.same seam]
  cases indented : indent? cs with
  | none => rfl
  | some cs =>
    have seam : Seam cs more := stays_indent?.left seam indented
    have marks : (anyRuleMarks? (cs ++ more) == some []) = (anyRuleMarks? cs == some []) := by
      rw [stays_anyRuleMarks?.same seam]
      cases marked : anyRuleMarks? cs with
      | none => rfl
      | some tail =>
        have seam : Seam tail more := stays_anyRuleMarks?.left seam marked
        obtain ⟨c, tail, rfl⟩ := List.exists_cons_of_ne_nil seam.ne_nil
        rfl
    have short : (literal? "--" (cs ++ more)).any (·.all isGap) =
        (literal? "--" cs).any (·.all isGap) := by
      have stays : Stays (literal? "--") := stays_literal? rfl
      rw [stays.same seam]
      cases dashed : literal? "--" cs with
      | none => rfl
      | some tail =>
        have seam : Seam tail more := stays.left seam dashed
        have mixed := seam.all_isGap []
        rw [List.append_nil] at mixed
        exact (seam.all_isGap more).trans mixed.symm
    change (isHeadingMark (cs ++ more) || anyRuleMarks? (cs ++ more) == some [] ||
      (literal? "--" (cs ++ more)).any (·.all isGap) || (oneOf? _ (cs ++ more)).isSome ||
      (oneOf? directives (cs ++ more)).isSome || (listMarker? (cs ++ more)).isSome ||
      isEmbedStart (cs ++ more)) = _
    rw [isHeadingMark_append seam, marks, short, isEmbedStart_append seam,
      stays_listMarker?.same seam, seam.oneOf?_append (by decide), seam.oneOf?_append (by decide),
      Option.isSome_map, Option.isSome_map, Option.isSome_map]

/-- A text that ends in the midst of a line is followed by a heading, and is not blank. -/
theorem head?_of_seam (seam : Seam cs more) (clear : '\n' ∉ cs) : more.head? = some '#' := by
  obtain ⟨body, last, gap, rfl, -, -, kind⟩ := seam.ends
  rcases kind with ⟨rfl, -⟩ | ⟨-, heading⟩
  · exact absurd (by simp) clear
  · exact heading

/-- A line that ends at a seam is not blank, for it has what ended an item. -/
theorem allBlank_of_seam (seam : Seam cs more) (clear : '\n' ∉ cs) (tail : List Char) :
    allBlank (cs ++ tail) = false := by
  obtain ⟨c, member, ends⟩ := seam.exists_isItemEnd
  refine List.all_eq_false.2 ⟨c, List.mem_append_left tail member, ?_⟩
  rcases eq_of_isItemEnd ends with rfl | rfl | rfl | rfl
  · exact absurd member clear
  all_goals decide

/-- What a line is without its line break, where a heading goes on it. -/
theorem lineBody_append (seam : Seam line more) (clear : '\n' ∉ line) :
    lineBody line = line ∧ ∃ body, lineBody (line ++ more) = line ++ body ∧ Seam line body := by
  constructor
  · refine List.rdropWhile_eq_self_iff.2 fun nonempty isBreak => clear ?_
    rw [← beq_iff_eq.1 isBreak]
    exact List.getLast_mem nonempty
  · obtain ⟨later, rfl⟩ := List.head?_eq_some_iff.1 (head?_of_seam seam clear)
    have nonempty : lineBody ('#' :: later) ≠ [] := fun empty =>
      absurd (List.rdropWhile_eq_nil_iff.1 empty '#' List.mem_cons_self) (by decide)
    refine ⟨lineBody ('#' :: later), ?_, seam.of_prefix nonempty (List.rdropWhile_prefix _ _)⟩
    have dropped : ((('#' :: later).reverse.dropWhile (· == '\n')).isEmpty) = false := by
      rw [← Bool.not_eq_true, List.isEmpty_iff]
      exact fun empty => nonempty (List.reverse_eq_nil_iff.2 empty)
    rw [lineBody, dropEndWhile, List.reverse_append, List.dropWhile_append, dropped,
      if_neg (by simp),
      List.reverse_append, List.reverse_reverse]
    rfl

/-- Whether a line goes on a paragraph is settled before the seam. -/
theorem settled_goesOn : Settled goesOn := by
  intro line more clear seam
  obtain ⟨alone, body, whole, seam⟩ := lineBody_append seam clear
  have blank := allBlank_of_seam seam clear []
  rw [List.append_nil] at blank
  rw [goesOn, goesOn, whole, alone, allBlank_of_seam seam clear, blank, interrupts_append seam]

/-- Whether a line is blank is settled before the seam. -/
theorem settled_notBlank : Settled fun line => !allBlank line := by
  intro line more clear seam
  have blank := allBlank_of_seam seam clear []
  rw [List.append_nil] at blank
  change (!allBlank (line ++ more)) = !allBlank line
  rw [allBlank_of_seam seam clear, blank]

/-- Whether a line closes a fence is settled before the seam. -/
theorem settled_closesFence {mark : Char} (fence : mark = '\x60' ∨ mark = '~') (size : Nat) :
    Settled fun line => !closesFence mark size line := by
  intro line more clear seam
  obtain ⟨alone, body, whole, seam⟩ := lineBody_append seam clear
  have spares : Spares (· == mark) := by
    rcases fence with rfl | rfl <;> exact spares_of_all rfl
  simp only [closesFence, whole, alone, stays_indent?.same seam]
  cases indented : indent? line with
  | none => rfl
  | some cs =>
    have within := stays_indent?.left seam indented
    have dropped : Seam (cs.dropWhile (· == mark)) body := within.dropWhile spares
    have clear : '\n' ∉ cs.dropWhile (· == mark) := fun member =>
      clear (((List.dropWhile_suffix _).trans (suffix_of_indent? indented)).subset member)
    have blank := allBlank_of_seam dropped clear []
    rw [List.append_nil] at blank
    have stopped : ∃ c ∈ cs, (c == mark) = false := within.exists_of_spares spares
    simp only [Option.map_some, followedBy, dropWhile_append_of_exists stopped,
      allBlank_of_seam dropped clear, blank, Bool.and_false]

/-- A line is indented for code by four spaces or a tab. -/
theorem isSome_indentedLine? (cs : List Char) : (indentedLine? cs).isSome =
    (decide (4 ≤ (cs.takeWhile (· == ' ')).length) || cs.head? == some '\t') := by
  unfold indentedLine?
  split
  · simp
  · simp
  · rename_i spaces tab
    have few : ¬4 ≤ (cs.takeWhile (· == ' ')).length := by
      intro many
      have blank : ∀ c ∈ cs.takeWhile (· == ' '), c = ' ' := fun c member => by
        simpa using List.mem_takeWhile_imp member
      obtain ⟨rest, whole⟩ := List.takeWhile_prefix (p := (· == ' ')) (l := cs)
      obtain ⟨size, more⟩ := Nat.exists_eq_add_of_le' many
      rw [List.eq_replicate_of_mem blank, more] at whole
      exact spaces _ whole.symm
    have other : cs.head? ≠ some '\t' := by
      intro same
      obtain ⟨rest, whole⟩ := List.head?_eq_some_iff.1 same
      exact tab rest whole
    simp [few, other]

/-- Whether a line is indented for code is settled before the seam. -/
theorem settled_indentedLine? : Settled fun line => (indentedLine? line).isSome := by
  intro line more _ seam
  have stopped := seam.exists_of_spares (p := (· == ' ')) (spares_of_all rfl)
  obtain ⟨c, line, rfl⟩ := List.exists_cons_of_ne_nil seam.ne_nil
  simp only [isSome_indentedLine?, takeWhile_append_of_exists stopped]
  rfl

end Lines

end LectureDeck.Block
