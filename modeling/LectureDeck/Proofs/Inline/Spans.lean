import LectureDeck.Markup.Inline.Scan
import LectureDeck.Text.Utf8
import Mathlib.Data.List.Infix

/-!
# Spans of running text

The tokens of a text are taken from parts that are not empty, that begin and end where characters
do, and that make up the text one after another. No plain text among them is empty, and no two stand
side by side. Strong and emphasised text stands between its marks, so that it is shorter than what
it stands in (`LectureDeck.Inline.isTiled_scan`).
-/

namespace LectureDeck.Inline

open LectureDeck.Text

/-- The token is plain text. -/
def isText : Inline → Bool
  | text _ => true
  | _ => false

section Remainders

variable {cs rest last : List Char}

/-- A text is an end of another, and not all of it. -/
def IsRemainder (rest cs : List Char) : Prop := rest <:+ cs ∧ rest.length < cs.length

/-- What is left of a remainder is a remainder of the whole. -/
theorem IsRemainder.of_suffix (later : last <:+ rest) (remains : IsRemainder rest cs) :
    IsRemainder last cs :=
  ⟨later.trans remains.1, Nat.lt_of_le_of_lt later.length_le remains.2⟩

/-- A remainder of an end of a text is one of the text. -/
theorem IsRemainder.suffix (remains : IsRemainder rest last) (whole : last <:+ cs) :
    IsRemainder rest cs :=
  ⟨remains.1.trans whole, Nat.lt_of_lt_of_le remains.2 whole.length_le⟩

/-- What is left behind a character is less than with it. -/
theorem isRemainder_cons (c : Char) (suffix : rest <:+ cs) : IsRemainder rest (c :: cs) :=
  ⟨suffix.trans (List.suffix_cons c cs), Nat.lt_succ_of_le suffix.length_le⟩

/-- What is left behind a part is less, if the part is not empty. -/
theorem isRemainder_of_append {part : List Char} (some : part ≠ []) :
    IsRemainder rest (part ++ rest) := by
  refine ⟨List.suffix_append part rest, ?_⟩
  have positive := List.length_pos_iff.2 some
  rw [List.length_append]
  omega

/-- An indentation that is followed by a character leaves what is behind that character. -/
theorem isRemainder_of_indent? {c : Char} (read : indent? cs = some (c :: rest)) :
    IsRemainder rest cs :=
  (isRemainder_cons c (List.suffix_refl rest)).suffix (suffix_of_indent? read)

/-- A literal that is not empty leaves less than it was read from. -/
theorem isRemainder_of_literal? {literal : String} (some : literal.toList ≠ [])
    (read : literal? literal cs = Option.some rest) : IsRemainder rest cs :=
  after?_eq_some_iff.1 read ▸ isRemainder_of_append some

end Remainders

section Readers

variable {cs rest : List Char}

/-- The end of a call leaves an end of its text. -/
theorem suffix_of_callEnd? (read : callEnd? cs = some rest) : rest <:+ cs := by
  obtain ⟨after, closed, read⟩ := Option.bind_eq_some_iff.1 read
  exact (suffix_of_oneOf? read).trans ((suffix_of_literal? closed).trans (skipGap_suffix cs))

/-- What stands in brackets leaves an end of its text. -/
theorem suffix_of_bracketed? {stop : Char → Bool} {inside : Bool} {part : List Char × List Char}
    (read : bracketed? stop inside cs = some part) : part.2 <:+ cs := by
  have step {c : Char} {rest : List Char} {inside : Bool} {part : List Char × List Char}
      (later : ∀ {part}, bracketed? stop inside rest = some part → part.2 <:+ rest)
      (read : (bracketed? stop inside rest).map (fun part => (c :: part.1, part.2)) = some part) :
      part.2 <:+ c :: rest := by
    obtain ⟨part, inner, rfl⟩ := Option.map_eq_some_iff.1 read
    exact (later inner).trans (List.suffix_cons c rest)
  fun_induction bracketed? stop inside cs generalizing part with
  | case1 => contradiction
  | case2 _ later => exact step later read
  | case3 => contradiction
  | case4 _ _ _ _ later => exact step later read
  | case5 =>
    cases read
    exact List.suffix_cons _ _
  | case6 _ _ later => exact step later read
  | case7 _ _ _ _ later => exact step later read

/-- The label of a link leaves less, since its bracket is taken. -/
theorem isRemainder_of_linkLabel? {label : Bool × List Char × List Char}
    (read : linkLabel? cs = some label) : IsRemainder label.2.2 cs := by
  unfold linkLabel? at read
  split at read
  rename_i image start same
  obtain ⟨inner, opened, read⟩ := Option.bind_eq_some_iff.1 read
  obtain ⟨part, closed, read⟩ := Option.bind_eq_some_iff.1 read
  cases read
  have within : start <:+ cs := by
    split at same
    · cases same
      exact List.suffix_cons _ _
    · cases same
      exact List.suffix_refl _
  have taken := (isRemainder_of_literal? (by decide) opened).of_suffix (suffix_of_bracketed? closed)
  exact taken.suffix within

/-- The end of a title leaves an end of its text. -/
theorem suffix_of_titleEnd? (read : titleEnd? cs = some rest) : rest <:+ cs := by
  unfold titleEnd? at read
  split at read
  · split at read
    · exact ((suffix_of_literal? read).trans (skipGap_suffix _)).trans (List.suffix_cons _ _)
    · contradiction
  · contradiction

/-- A title in quotes leaves an end of its text. -/
theorem suffix_of_quotedTitle? {title : List Char × List Char}
    (read : quotedTitle? cs = some title) : title.2 <:+ cs := by
  unfold quotedTitle? at read
  split at read
  · split at read
    · exact (suffix_of_upTo? suffix_of_titleEnd? read).trans (List.suffix_cons _ _)
    · contradiction
  · contradiction

/-- So does a title behind a gap. -/
theorem suffix_of_gappedTitle? {title : List Char × List Char}
    (read : (gap? cs).bind quotedTitle? = some title) : title.2 <:+ cs := by
  obtain ⟨start, gap, read⟩ := Option.bind_eq_some_iff.1 read
  exact (suffix_of_quotedTitle? read).trans (suffix_of_gap? gap)

/-- The end of a link, with a title or without, leaves an end of its text. -/
theorem suffix_of_linkEnd? {title : Option (List Char) × List Char}
    (read : linkEnd? cs = some title) : title.2 <:+ cs := by
  unfold linkEnd? at read
  split at read
  · rename_i found
    cases read
    exact suffix_of_gappedTitle? found
  · obtain ⟨after, closed, rfl⟩ := Option.map_eq_some_iff.1 read
    exact (suffix_of_literal? closed).trans (skipGap_suffix cs)

/-- The target of a link leaves an end of its text. -/
theorem suffix_of_linkTarget? {target : List Char × Option (List Char) × List Char}
    (read : linkTarget? cs = some target) : target.2.2 <:+ cs := by
  unfold linkTarget? at read
  dsimp only at read
  split at read
  · rename_i found
    cases read
    have bracket := getD_literal?_suffix "<" (skipGap cs)
    exact (suffix_of_linkEnd? found).trans ((getD_literal?_suffix ">" _).trans
      ((List.dropWhile_suffix _).trans (bracket.trans (skipGap_suffix cs))))
  · obtain ⟨title, found, rfl⟩ := Option.map_eq_some_iff.1 read
    exact suffix_of_gappedTitle? found

/-- What is read up to a run of backquotes leaves an end of its text. -/
theorem suffix_of_untilRun? {size : Nat} {part : List Char × List Char}
    (read : untilRun? size cs = some part) : part.2 <:+ cs := by
  have after (cs : List Char) : (cs.dropWhile (· != '\x60')).dropWhile (· == '\x60') <:+ cs :=
    (List.dropWhile_suffix _).trans (List.dropWhile_suffix _)
  fun_induction untilRun? size cs generalizing part with
  | case1 => contradiction
  | case2 =>
    cases read
    exact after _
  | case3 =>
    rename_i later
    obtain ⟨part, inner, rfl⟩ := Option.map_eq_some_iff.1 read
    exact (later inner).trans (after _)
  | case4 => contradiction

/-- A comment leaves less than it was read from. -/
theorem isRemainder_of_comment? (read : comment? cs = some rest) : IsRemainder rest cs := by
  obtain ⟨start, opened, read⟩ := Option.bind_eq_some_iff.1 read
  obtain ⟨part, closed, read⟩ := Option.bind_eq_some_iff.1 read
  cases read
  exact (isRemainder_of_literal? (by decide) opened).of_suffix
    (suffix_of_upTo? suffix_of_literal? closed)

/-- A tag of HTML leaves less than it was read from. -/
theorem isRemainder_of_tag? (read : tag? cs = some rest) : IsRemainder rest cs := by
  obtain ⟨start, opened, read⟩ := Option.bind_eq_some_iff.1 read
  refine (isRemainder_of_literal? (by decide) opened).of_suffix ?_
  have slash := getD_literal?_suffix "/" start
  split at read
  · rename_i letter name same
    split at read
    · dsimp only at read
      have within : name.dropWhile (fun c => isWordChar c || c == '-') <:+ start :=
        (List.dropWhile_suffix _).trans ((List.suffix_cons letter name).trans (same ▸ slash))
      split at read
      · split at read
        · exact (suffix_of_literal? read).trans ((List.dropWhile_suffix _).trans within)
        · exact (suffix_of_literal? read).trans ((getD_literal?_suffix "/" _).trans within)
      · contradiction
    · contradiction
  · contradiction

/-- The break of a line leaves less than it was read from. -/
theorem isRemainder_of_brokenLine? (read : brokenLine? cs = some rest) : IsRemainder rest cs := by
  unfold brokenLine? at read
  split at read
  · have inner := (suffix_of_literal? read).trans (List.dropWhile_suffix _)
    exact isRemainder_cons ' ' (inner.trans (List.suffix_cons ' ' _))
  · contradiction

/-- What is read up to a literal stands before it. -/
theorem eq_of_upTo?_literal? {literal : String} {content : List Char}
    (read : upTo? never (literal? literal) cs = some (content, rest)) :
    cs = content ++ literal.toList ++ rest := by
  induction cs generalizing content with
  | nil =>
    obtain ⟨after, closed, same⟩ := Option.map_eq_some_iff.1 read
    cases same
    exact after?_eq_some_iff.1 closed
  | cons c cs later =>
    unfold upTo? at read
    split at read
    · rename_i closed
      cases read
      exact after?_eq_some_iff.1 closed
    · obtain ⟨part, inner, same⟩ := Option.map_eq_some_iff.1 read
      cases same
      exact congrArg (c :: ·) (later inner)

/-- A text that is read up to a literal is its content, the literal, and what is left. -/
theorem eq_of_someUpTo?_literal? {literal : String} {content : List Char}
    (read : someUpTo? never (literal? literal) cs = some (content, rest)) :
    cs = content ++ literal.toList ++ rest := by
  cases cs with
  | nil => contradiction
  | cons c cs =>
    obtain ⟨part, inner, same⟩ := Option.map_eq_some_iff.1 read
    cases same
    exact congrArg (c :: ·) (eq_of_upTo?_literal? inner)

/-- A text between stars is its content, the star that closes it, and what is left. -/
theorem eq_of_starred? {content : List Char} (read : starred? cs = some (content, rest)) :
    cs = content ++ ['*'] ++ rest := by
  unfold starred? at read
  split at read
  · obtain ⟨part, inner, same⟩ := Option.map_eq_some_iff.1 read
    cases same
    exact congrArg (fun later => '*' :: '*' :: later) (eq_of_upTo?_literal? inner)
  · contradiction
  · rename_i c later _ _
    obtain ⟨part, inner, same⟩ := Option.map_eq_some_iff.1 read
    cases same
    exact congrArg (c :: ·) (eq_of_upTo?_literal? inner)
  · contradiction

/-- A text between underscores is its content, the underscore that closes it, and what is left. -/
theorem eq_of_underscored? {first : Bool} {content : List Char}
    (read : underscored? first cs = some (content, rest)) : cs = content ++ ['_'] ++ rest := by
  fun_induction underscored? first cs generalizing content with
  | case1 => contradiction
  | case2 =>
    cases read
    rfl
  | case3 first more _ later =>
    obtain ⟨part, inner, same⟩ := Option.map_eq_some_iff.1 read
    cases same
    exact congrArg (fun later => '_' :: '_' :: later) (later inner)
  | case4 => contradiction
  | case5 first c tail _ later =>
    obtain ⟨part, inner, same⟩ := Option.map_eq_some_iff.1 read
    cases same
    exact congrArg (c :: ·) (later inner)

end Readers

section Tokens

variable {cs rest : List Char} {token : Inline}

/-- A token is taken from the start of a text. What is left is less, plain text is not empty, and
what holds markup of its own stands between marks. -/
structure Takes (cs : List Char) (found : Found) : Prop where
  remains : IsRemainder found.2 cs
  filled : found.1 ≠ text ""
  marked : ∀ inner, found.1.nested? = some inner →
    ∃ mark, mark ≠ [] ∧ cs = mark ++ inner.toList ++ mark ++ found.2

/-- A token without markup of its own needs no marks. -/
theorem Takes.of_flat (remains : IsRemainder rest cs) (flat : token.nested? = none)
    (other : isText token = false) : Takes cs (token, rest) where
  remains := remains
  filled := by
    rintro rfl
    contradiction
  marked := fun inner holds => by rw [flat] at holds; contradiction

/-- What stands between two equal marks is taken with both. -/
theorem takes_between {inner : List Char} (mark : List Char) (some : mark ≠ [])
    (whole : cs = mark ++ (inner ++ mark ++ rest)) (isNested : token.nested? = String.ofList inner)
    (other : isText token = false) : Takes cs (token, rest) where
  remains := by
    subst whole
    have whole : mark ++ (inner ++ mark ++ rest) = (mark ++ inner ++ mark) ++ rest := by simp
    rw [whole]
    exact isRemainder_of_append (by simp [some])
  filled := by
    rintro rfl
    contradiction
  marked := fun found holds => by
    rw [isNested] at holds
    cases holds
    refine ⟨mark, some, ?_⟩
    rw [String.toList_ofList, whole]
    simp

/-- The rule for markers of choices takes a token. -/
theorem takes_choice? {found : Found} (read : choice? cs = some found) : Takes cs found := by
  unfold choice? at read
  split at read
  · rename_i letter start indented
    have letter := isRemainder_of_indent? indented
    split at read
    · dsimp only at read
      obtain ⟨afterDots, dots, read⟩ := Option.bind_eq_some_iff.1 read
      obtain ⟨afterGap, gap, read⟩ := Option.bind_eq_some_iff.1 read
      cases read
      have star := (suffix_of_gap? gap).trans (suffix_of_literal? dots)
      refine .of_flat (letter.of_suffix (star.trans ?_)) rfl rfl
      split
      · exact List.suffix_cons _ _
      · exact List.suffix_refl _
    · contradiction
  · contradiction

/-- The rule for mathematics set apart takes a token. -/
theorem takes_displayMath? {found : Found} (read : displayMath? cs = some found) :
    Takes cs found := by
  obtain ⟨start, opened, read⟩ := Option.bind_eq_some_iff.1 read
  obtain ⟨part, closed, read⟩ := Option.bind_eq_some_iff.1 read
  cases read
  exact .of_flat ((isRemainder_of_literal? (by decide) opened).of_suffix
    (suffix_of_someUpTo? suffix_of_literal? closed)) rfl rfl

/-- The rule for mathematics within a line takes a token. -/
theorem takes_inlineMath? {found : Found} (read : inlineMath? cs = some found) :
    Takes cs found := by
  obtain ⟨start, opened, read⟩ := Option.bind_eq_some_iff.1 read
  obtain ⟨part, closed, read⟩ := Option.bind_eq_some_iff.1 read
  cases read
  exact .of_flat ((isRemainder_of_literal? (by decide) opened).of_suffix
    (suffix_of_someUpTo? suffix_of_literal? closed)) rfl rfl

/-- The rule for calls of plugins takes a token. -/
theorem takes_call? {found : Found} (read : call? cs = some found) : Takes cs found := by
  obtain ⟨start, opened, read⟩ := Option.bind_eq_some_iff.1 read
  obtain ⟨plugin, named, read⟩ := Option.bind_eq_some_iff.1 read
  obtain ⟨dot, dotted, read⟩ := Option.bind_eq_some_iff.1 read
  obtain ⟨action, acted, read⟩ := Option.bind_eq_some_iff.1 read
  obtain ⟨bracket, bracketed, read⟩ := Option.bind_eq_some_iff.1 read
  obtain ⟨argument, closed, read⟩ := Option.bind_eq_some_iff.1 read
  cases read
  have inside := (suffix_of_upTo? suffix_of_callEnd? closed).trans (skipGap_suffix bracket)
  have action := (suffix_of_literal? bracketed).trans (suffix_of_run? acted)
  have plugin := (suffix_of_literal? dotted).trans (suffix_of_run? named)
  exact .of_flat ((isRemainder_of_literal? (by decide) opened).of_suffix
    (inside.trans (action.trans plugin))) rfl rfl

/-- The rule for definitions takes a token, behind the label that it defines. -/
theorem takes_definition? {found : Found} (read : definition? cs = some found) :
    Takes cs found := by
  obtain ⟨start, opened, read⟩ := Option.bind_eq_some_iff.1 read
  obtain ⟨label, labelled, read⟩ := Option.bind_eq_some_iff.1 read
  obtain ⟨brace, braced, read⟩ := Option.bind_eq_some_iff.1 read
  obtain ⟨key, keyed, read⟩ := Option.bind_eq_some_iff.1 read
  obtain ⟨after, closed, read⟩ := Option.bind_eq_some_iff.1 read
  cases read
  have inside := (suffix_of_literal? closed).trans (List.dropWhile_suffix _)
  have key := (suffix_of_literal? keyed).trans (skipGap_suffix brace)
  have brace := (suffix_of_literal? braced).trans (skipGap_suffix label.2)
  exact .of_flat ((isRemainder_of_literal? (by decide) opened).of_suffix
    (inside.trans (key.trans (brace.trans (suffix_of_bracketed? labelled))))) rfl rfl

/-- The rule for links takes a token, from the bracket of the label to the end of the target. -/
theorem takes_link? {found : Found} (read : link? cs = some found) : Takes cs found := by
  obtain ⟨label, labelled, read⟩ := Option.bind_eq_some_iff.1 read
  obtain ⟨start, opened, read⟩ := Option.bind_eq_some_iff.1 read
  obtain ⟨target, closed, read⟩ := Option.bind_eq_some_iff.1 read
  cases read
  exact .of_flat ((isRemainder_of_linkLabel? labelled).of_suffix
    ((suffix_of_linkTarget? closed).trans (suffix_of_literal? opened))) rfl rfl

/-- The rule for links by key takes a token, with the key or without one. -/
theorem takes_keyedLink? {found : Found} (read : keyedLink? cs = some found) :
    Takes cs found := by
  obtain ⟨label, labelled, read⟩ := Option.bind_eq_some_iff.1 read
  obtain ⟨start, opened, read⟩ := Option.bind_eq_some_iff.1 read
  obtain ⟨after, closed, read⟩ := Option.bind_eq_some_iff.1 read
  cases read
  have key := (suffix_of_literal? closed).trans (List.dropWhile_suffix _)
  have start := (suffix_of_literal? opened).trans (skipGap_suffix label.2.2)
  exact .of_flat ((isRemainder_of_linkLabel? labelled).of_suffix (key.trans start)) rfl rfl

/-- The rule for addresses that are links themselves takes a token. -/
theorem takes_autolink? {found : Found} (read : autolink? cs = some found) : Takes cs found := by
  obtain ⟨start, opened, read⟩ := Option.bind_eq_some_iff.1 read
  obtain ⟨scheme, named, read⟩ := Option.bind_eq_some_iff.1 read
  obtain ⟨path, run, read⟩ := Option.bind_eq_some_iff.1 read
  obtain ⟨after, closed, read⟩ := Option.bind_eq_some_iff.1 read
  cases read
  exact .of_flat ((isRemainder_of_literal? (by decide) opened).of_suffix
    ((suffix_of_literal? closed).trans ((suffix_of_run? run).trans
      (suffix_of_oneOf? named)))) rfl rfl

/-- The rule for code takes a token. What stands in it is no markup. -/
theorem takes_code? {found : Found} (read : code? cs = some found) : Takes cs found := by
  obtain ⟨opening, opened, read⟩ := Option.bind_eq_some_iff.1 read
  obtain ⟨content, closed, read⟩ := Option.bind_eq_some_iff.1 read
  cases read
  obtain ⟨rfl, some⟩ := eq_of_run? opened
  have fence : IsRemainder (cs.dropWhile (· == '\x60')) _ := isRemainder_of_append some
  rw [List.takeWhile_append_dropWhile] at fence
  exact .of_flat (fence.of_suffix (suffix_of_untilRun? closed)) rfl rfl

/-- The rule for escapes takes a token, a backslash and the character behind it. -/
theorem takes_escape? {found : Found} (read : escape? cs = some found) : Takes cs found := by
  unfold escape? at read
  split at read
  · split at read
    · cases read
      exact .of_flat (isRemainder_cons _ (List.suffix_cons _ _)) rfl rfl
    · contradiction
  · contradiction

/-- The rule for strong text takes a token between two marks of two characters. -/
theorem takes_strong? {found : Found} (read : strong? cs = some found) : Takes cs found := by
  unfold strong? at read
  split at read
  · obtain ⟨⟨inner, after⟩, closed, same⟩ := Option.map_eq_some_iff.1 read
    cases same
    exact takes_between ['*', '*'] (by decide)
      (congrArg (fun later => '*' :: '*' :: later) (eq_of_someUpTo?_literal? closed)) rfl rfl
  · obtain ⟨⟨inner, after⟩, closed, same⟩ := Option.map_eq_some_iff.1 read
    cases same
    exact takes_between ['_', '_'] (by decide)
      (congrArg (fun later => '_' :: '_' :: later) (eq_of_someUpTo?_literal? closed)) rfl rfl
  · contradiction

/-- The rule for emphasis takes a token between two marks of one character, which is a star or an
underscore. -/
theorem takes_emphasis? {found : Found} (read : emphasis? cs = some found) : Takes cs found := by
  unfold emphasis? at read
  split at read
  · obtain ⟨⟨inner, after⟩, closed, same⟩ := Option.map_eq_some_iff.1 read
    cases same
    exact takes_between ['*'] (by decide) (congrArg ('*' :: ·) (eq_of_starred? closed)) rfl rfl
  · obtain ⟨⟨inner, after⟩, closed, same⟩ := Option.map_eq_some_iff.1 read
    cases same
    exact takes_between ['_'] (by decide) (congrArg ('_' :: ·) (eq_of_underscored? closed)) rfl rfl
  · contradiction

/-- The rule for HTML takes a token, a comment or a tag. -/
theorem takes_html? {found : Found} (read : html? cs = some found) : Takes cs found := by
  obtain ⟨after, found, read⟩ := Option.bind_eq_some_iff.1 read
  cases read
  refine .of_flat ?_ rfl rfl
  rw [Option.orElse_eq_orElse, Option.orElse_eq_or, Option.or_eq_some_iff] at found
  rcases found with comment | ⟨-, tag⟩
  · exact isRemainder_of_comment? comment
  · exact isRemainder_of_tag? tag

/-- The rule for the breaks of lines takes a token. -/
theorem takes_lineBreak? {found : Found} (read : lineBreak? cs = some found) : Takes cs found := by
  obtain ⟨after, broken, rfl⟩ := Option.map_eq_some_iff.1 read
  exact .of_flat (isRemainder_of_brokenLine? broken) rfl rfl

/-- Where plain text may go on no further, an end of the text is left. -/
theorem textTail_suffix (cs : List Char) : (textTail cs).2 <:+ cs := by
  fun_induction textTail cs with
  | case1 => exact List.suffix_refl _
  | case2 => exact List.suffix_cons _ _
  | case3 c rest _ _ part later => exact later.trans (List.suffix_cons c rest)
  | case4 => exact List.suffix_refl _

/-- Plain text takes one character at least. -/
theorem takes_plain (some : cs ≠ []) : Takes cs (plain cs) := by
  cases cs with
  | nil => contradiction
  | cons c rest =>
    by_cases isBreak : c = '\n'
    · rw [plain, if_pos isBreak]
      exact ⟨isRemainder_cons c (List.suffix_refl _),
        fun same => absurd (Inline.text.inj same) (by decide), nofun⟩
    · rw [plain, if_neg isBreak]
      refine ⟨isRemainder_cons c (textTail_suffix rest), fun same => ?_, nofun⟩
      have none := congrArg String.toList (Inline.text.inj same)
      rw [String.toList_ofList] at none
      contradiction

/-- Every text that is not empty begins with a token. -/
theorem takes_next (atLineStart : Bool) (some : cs ≠ []) : Takes cs (next atLineStart cs) := by
  unfold next
  split
  · rename_i found read
    split at read
    · exact takes_choice? read
    · contradiction
  · cases found : rules.findSome? fun rule => rule cs with
    | none => exact takes_plain some
    | some token =>
      obtain ⟨rule, known, read⟩ := List.exists_of_findSome?_eq_some found
      simp only [rules, List.mem_cons, List.not_mem_nil, or_false] at known
      rcases known with rfl | rfl | rfl | rfl | rfl | rfl | rfl | rfl | rfl | rfl | rfl | rfl | rfl
      · exact takes_displayMath? read
      · exact takes_inlineMath? read
      · exact takes_call? read
      · exact takes_definition? read
      · exact takes_link? read
      · exact takes_keyedLink? read
      · exact takes_autolink? read
      · exact takes_code? read
      · exact takes_escape? read
      · exact takes_strong? read
      · exact takes_emphasis? read
      · exact takes_html? read
      · exact takes_lineBreak? read

end Tokens

section Tiling

variable {cs : List Char} {atLineStart : Bool} {each : List Span}

/-- A text is read in spans. Each token is what the rules take where its span begins, and the span
is what they take it from. -/
inductive Scans : Bool → List Char → List Span → Prop
  | nil (atLineStart : Bool) : Scans atLineStart [] []
  | cons {atLineStart : Bool} {token : Inline} {part rest : List Char} {later : List Span}
      (nonempty : part ≠ []) (taken : next atLineStart (part ++ rest) = (token, rest))
      (scans : Scans (part.getLast? == some '\n') rest later) :
      Scans atLineStart (part ++ rest) (⟨part, token⟩ :: later)

/-- Reading comes to the end of every text. -/
theorem scans_spansFrom (atLineStart : Bool) (cs : List Char) :
    Scans atLineStart cs (spansFrom atLineStart cs) := by
  fun_induction spansFrom atLineStart cs with
  | case1 atLineStart cs isEmpty =>
    rw [List.isEmpty_iff.1 isEmpty]
    exact .nil atLineStart
  | case2 atLineStart cs filled found size source later =>
    have some : cs ≠ [] := fun isEmpty => filled (List.isEmpty_iff.2 isEmpty)
    obtain ⟨⟨part, whole⟩, shorter⟩ := (takes_next atLineStart some).remains
    have whole : part ++ found.2 = cs := whole
    have shorter : found.2.length < cs.length := shorter
    have length : size = part.length := by
      have total := congrArg List.length whole
      rw [List.length_append] at total
      omega
    have isPart : source = part := by
      rw [show source = cs.take size from rfl, length, ← whole, List.take_left]
    have isRest : cs.drop size = found.2 := by rw [length, ← whole, List.drop_left]
    have some : part ≠ [] := by
      rintro rfl
      rw [← whole] at shorter
      exact Nat.lt_irrefl _ shorter
    rw [isRest, isPart] at later ⊢
    have taken : next atLineStart (part ++ found.2) = (found.1, found.2) := by rw [whole]
    exact whole ▸ Scans.cons some taken later

/-- The spans that a text is scanned in make up the text. -/
theorem Scans.flatMap_source (scans : Scans atLineStart cs each) :
    each.flatMap Span.source = cs := by
  induction scans with
  | nil => rfl
  | cons _ _ _ later => rw [List.flatMap_cons, later]

/-- There are no more spans than characters, as none is empty. -/
theorem Scans.length_le (scans : Scans atLineStart cs each) : each.length ≤ cs.length := by
  induction scans with
  | nil => exact Nat.le_refl _
  | cons nonempty _ _ later =>
    have positive := List.length_pos_iff.2 nonempty
    rw [List.length_cons, List.length_append]
    omega

/-- What each span of a text is. -/
theorem Scans.takes (scans : Scans atLineStart cs each) : ∀ span ∈ each,
    span.source ≠ [] ∧ span.token ≠ text "" ∧ ∀ inner, span.token.nested? = some inner →
      ∃ mark, mark ≠ [] ∧ span.source = mark ++ inner.toList ++ mark := by
  induction scans with
  | nil => exact fun _ member => absurd member List.not_mem_nil
  | @cons atLineStart token part rest spans nonempty taken _ later =>
    refine List.forall_mem_cons.2 ⟨?_, later⟩
    have takes := takes_next atLineStart (List.append_ne_nil_of_left_ne_nil nonempty rest)
    rw [taken] at takes
    refine ⟨nonempty, takes.filled, fun inner holds => ?_⟩
    obtain ⟨mark, some, whole⟩ := takes.marked inner holds
    exact ⟨mark, some, List.append_cancel_right whole⟩

/-- A span stands at an offset in bytes of a text. It is not empty, and begins and ends where
characters of the text do. -/
structure Span.StandsAt (span : Span) (cs : List Char) (start : Nat) : Prop where
  nonempty : span.source ≠ []
  begins : IsBoundary cs start
  ends : IsBoundary cs (start + byteSize span.source)
  source : byteRange start (start + byteSize span.source) cs = span.source

/-- Each span stands behind the bytes of those before it. -/
theorem Scans.standsAt (scans : Scans atLineStart cs each) {before after : List Span} {span : Span}
    (divided : each = before ++ span :: after) :
    span.StandsAt cs (byteSize (before.flatMap Span.source)) := by
  have whole : cs = before.flatMap Span.source ++ span.source ++ after.flatMap Span.source := by
    rw [← scans.flatMap_source, divided]
    simp
  have filled : span.source ≠ [] := (scans.takes span (by simp [divided])).1
  refine ⟨filled, ⟨_, _, whole.trans (List.append_assoc _ _ _), rfl⟩, ⟨_, _, whole, ?_⟩, ?_⟩
  · exact byteSize_append _ _
  · rw [whole]
    exact byteRange_append _ _ _

end Tiling

section Joining

/-- Of two tokens side by side one at most is plain text. -/
def AreApart (first second : Inline) : Prop := isText first = false ∨ isText second = false

/-- A token joined to tokens that are apart leaves them apart: plain text is put together with plain
text that follows it. -/
theorem isChain_consJoined (token : Inline) {others : List Inline}
    (apart : others.IsChain AreApart) : (consJoined token others).IsChain AreApart := by
  unfold consJoined
  split
  · rename_i first second rest
    cases rest with
    | nil => exact .singleton _
    | cons next rest =>
      obtain ⟨side, apart⟩ := List.isChain_cons_cons.1 apart
      exact List.isChain_cons_cons.2 ⟨side, apart⟩
  · rename_i single
    cases others with
    | nil => exact .singleton _
    | cons next rest =>
      refine List.isChain_cons_cons.2 ⟨?_, apart⟩
      by_contra both
      obtain ⟨isFirst, isNext⟩ := not_or.1 both
      cases token with
      | text first =>
        cases next with
        | text second => exact single first second rest rfl rfl
        | _ => exact isNext rfl
      | _ => exact isFirst rfl

/-- After joining no two plain texts stand side by side. -/
theorem isChain_joinTexts (tokens : List Inline) : (joinTexts tokens).IsChain AreApart := by
  induction tokens with
  | nil => exact .nil
  | cons token rest later => exact isChain_consJoined token later

/-- Joining makes no plain text empty. -/
theorem not_mem_joinTexts {tokens : List Inline} (filled : text "" ∉ tokens) :
    text "" ∉ joinTexts tokens := by
  induction tokens with
  | nil => exact List.not_mem_nil
  | cons token rest later =>
    obtain ⟨first, filled⟩ := not_or.1 (List.mem_cons.not.1 filled)
    have later := later filled
    change text "" ∉ consJoined token (joinTexts rest)
    unfold consJoined
    split
    · rename_i start second others same
      rw [same] at later
      obtain ⟨-, others⟩ := not_or.1 (List.mem_cons.not.1 later)
      refine List.mem_cons.not.2 (not_or.2 ⟨fun isEmpty => first ?_, others⟩)
      have none := congrArg String.toList (Inline.text.inj isEmpty)
      rw [String.toList_append, String.toList_empty, eq_comm, List.append_eq_nil_iff] at none
      rw [String.toList_eq_nil_iff.1 none.1]
    · exact List.mem_cons.not.2 (not_or.2 ⟨first, later⟩)

/-- A token with markup of its own is joined to nothing. -/
theorem exists_mem_of_mem_joinTexts {tokens : List Inline} {token : Inline}
    (member : token ∈ joinTexts tokens) (holds : token.nested? ≠ none) : token ∈ tokens := by
  induction tokens with
  | nil => exact absurd member List.not_mem_nil
  | cons first rest later =>
    change token ∈ consJoined first (joinTexts rest) at member
    unfold consJoined at member
    split at member
    · rename_i start second others same
      rcases List.mem_cons.1 member with rfl | member
      · exact absurd rfl holds
      · exact List.mem_cons_of_mem _ (later (same ▸ List.mem_cons_of_mem _ member))
    · rcases List.mem_cons.1 member with rfl | member
      · exact List.mem_cons_self
      · exact List.mem_cons_of_mem _ (later member)

/-- A text is the markup that a token of another text holds. -/
def Nests (inner content : String) : Prop := ∃ token ∈ scan content, token.nested? = some inner

/-- Markup stands in a text with marks on both of its sides. -/
theorem Nests.exists_marks {inner content : String} (nests : Nests inner content) :
    ∃ before after, before ≠ [] ∧ after ≠ [] ∧
      content.toList = before ++ inner.toList ++ after := by
  obtain ⟨token, member, holds⟩ := nests
  have known := exists_mem_of_mem_joinTexts member (by simp [holds])
  obtain ⟨span, isSpan, rfl⟩ := List.mem_map.1 known
  have scans := scans_spansFrom true content.toList
  obtain ⟨mark, some, marked⟩ := (scans.takes span isSpan).2.2 inner holds
  obtain ⟨earlier, later, divided⟩ := List.append_of_mem isSpan
  refine ⟨earlier.flatMap Span.source ++ mark, mark ++ later.flatMap Span.source, by simp [some],
    by simp [some], ?_⟩
  have divided : spansFrom true content.toList = earlier ++ span :: later := divided
  rw [← scans.flatMap_source, divided]
  simp [marked]

/-- Markup is shorter than the text that it stands in, in characters and in bytes. -/
theorem Nests.shorter {inner content : String} (nests : Nests inner content) :
    inner.length < content.length ∧ byteSize inner.toList < byteSize content.toList := by
  obtain ⟨before, after, some, -, whole⟩ := nests.exists_marks
  have length := List.length_pos_iff.2 some
  have size := byteSize_pos some
  rw [← String.length_toList, ← String.length_toList, whole]
  simp only [List.length_append, byteSize_append]
  omega

/-- Markup in markup comes to an end, because what stands in a text is shorter. -/
theorem wellFounded_nests : WellFounded Nests :=
  Subrelation.wf (fun nests => nests.shorter.1) (measure String.length).wf

end Joining

/-- The tokens of a text, and the spans that they were read from. -/
structure IsTiled (content : String) (each : List Span) : Prop where
  /-- Each token is what the rules take at the start of its span, up to the end of the text. -/
  scans : Scans true content.toList each
  whole : each.flatMap Span.source = content.toList
  steps : each.length ≤ content.length
  standsAt : ∀ before span after, each = before ++ span :: after →
    span.StandsAt content.toList (byteSize (before.flatMap Span.source))
  joined : scan content = joinTexts (each.map Span.token)
  filled : text "" ∉ scan content
  apart : (scan content).IsChain AreApart
  shorter : ∀ inner, Nests inner content →
    inner.length < content.length ∧ byteSize inner.toList < byteSize content.toList

/-- **The tokens of a text tile it.** Every text is read to its end in spans that are not empty and
that begin and end where characters do. Side by side no two tokens are plain text, and none is
empty. Markup inside a token is shorter than the text, so that markup does not nest without end. -/
theorem isTiled_scan (content : String) :
    IsTiled content (spans content.toList) ∧ WellFounded Nests := by
  have scans := scans_spansFrom true content.toList
  refine ⟨⟨scans, scans.flatMap_source, scans.length_le, fun _ _ _ divided =>
    scans.standsAt divided, rfl, ?_, isChain_joinTexts _, fun _ nests => nests.shorter⟩,
    wellFounded_nests⟩
  refine not_mem_joinTexts fun member => ?_
  obtain ⟨span, isSpan, isEmpty⟩ := List.mem_map.1 member
  exact (scans.takes span isSpan).2.1 isEmpty

end LectureDeck.Inline
