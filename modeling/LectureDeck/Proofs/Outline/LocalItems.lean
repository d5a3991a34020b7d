import LectureDeck.Proofs.Outline.LocalRules

/-!
# Items before a seam

The item at the start of a text is the one that is taken where more text follows a seam, unless some
of that is taken (`LectureDeck.Block.cut_next?`). There is one exception: the key of a link may go
on over the ends of lines, so that a text that goes up to the seam may be the definition of a link
alone and none with what follows on its last line.
-/

namespace LectureDeck.Block

open LectureDeck.Text

section Items

variable {cs more : List Char}

/-! ### Quotes -/

/-- Either no line is quoted, or some of the text is. -/
theorem quotedLines_eq_or_shorter (afterBlank : Bool) (cs : List Char) :
    quotedLines afterBlank (lines cs) = ([], lines cs) ∨
      (quotedLines afterBlank (lines cs)).2.flatten.length < cs.length := by
  by_cases empty : cs = []
  · exact .inl (by rw [empty]; rfl)
  · obtain ⟨first, others, some, -, begun⟩ := exists_lines_cons empty
    have whole := congrArg List.length (flatten_lines cs)
    rw [begun, List.flatten_cons, List.length_append] at whole
    have positive := List.length_pos_iff.2 some
    have fewer (afterBlank : Bool) :
        (quotedLines afterBlank others).2.flatten.length < cs.length := by
      have shorter := (flatten_suffix (quotedLines_suffix afterBlank others)).length_le
      omega
    rw [begun, quotedLines]
    dsimp only
    split
    · exact .inr (fewer _)
    · split
      · exact .inr (fewer _)
      · exact .inl rfl

/-- The content of quoted lines, and the text that follows them. -/
def quotedPart (afterBlank : Bool) (cs : List Char) : List Char × List Char :=
  ((quotedLines afterBlank (lines cs)).1, (quotedLines afterBlank (lines cs)).2.flatten)

/-- Without a line break, a text is cut in the midst of a line. -/
theorem cut_quotedPart_of_not_mem (afterBlank : Bool) (seam : Seam cs more) (broken : '\n' ∉ cs) :
    Cut more (some (quotedPart afterBlank cs)) (some (quotedPart afterBlank (cs ++ more))) := by
  obtain ⟨first, others, some, begins, begun⟩ := exists_lines_cons seam.nonempty
  have ended : more = first ++ others.flatten := by
    rw [← List.flatten_cons, ← begun, flatten_lines]
  obtain ⟨alone, body, whole, within⟩ := lineBody_append (seam.of_prefix some begins) broken
  have blank := allBlank_of_seam seam broken []
  rw [List.append_nil] at blank
  simp only [quotedPart, lines_of_not_mem broken seam.ne_nil, lines_append broken begun,
    quotedLines, alone, whole, stays_quoteMark?.same within, interrupts_append within,
    allBlank_of_seam within broken, blank]
  have left (afterBlank : Bool) :
      (quotedLines afterBlank others).2.flatten.length < more.length := by
    have shorter := (flatten_suffix (quotedLines_suffix afterBlank others)).length_le
    rw [ended, List.length_append]
    exact Nat.lt_of_le_of_lt shorter (Nat.lt_add_of_pos_left (List.length_pos_iff.2 some))
  cases quoteMark? cs with
  | some content => exact .beyond (left _)
  | none =>
    dsimp only [Option.map_none]
    split
    · exact .beyond (left _)
    · refine .inl (congrArg Option.some (Prod.ext rfl ?_))
      rw [ended]
      simp [followedBy]

/-- The lines of a quote are read alike up to a seam, or some of those that follow belong to it. -/
theorem cut_quotedPart (afterBlank : Bool) (meets : cs = [] ∨ Seam cs more) :
    Cut more (some (quotedPart afterBlank cs)) (some (quotedPart afterBlank (cs ++ more))) := by
  induction size : cs.length using Nat.strong_induction_on generalizing cs afterBlank with
  | h size later =>
    subst size
    rcases meets with rfl | seam
    · rcases quotedLines_eq_or_shorter afterBlank more with same | shorter
      · refine .inl (congrArg some ?_)
        simp only [quotedPart, List.nil_append, same, flatten_lines]
        rfl
      · exact .beyond shorter
    · by_cases broken : '\n' ∈ cs
      · have inner (afterBlank : Bool) := later _ (length_afterLine_lt seam.ne_nil) afterBlank
          (seam.afterLine broken) rfl
        have whole := lines_of_mem (List.mem_append_left more broken)
        rw [firstLine_append_of_mem broken, afterLine_append_of_mem broken] at whole
        simp only [quotedPart, lines_of_mem broken, whole, quotedLines]
        split
        · rename_i content _
          exact (inner _).map (fun part => (content ++ '\n' :: part.1, part.2)) (fun _ => rfl)
            fun _ => rfl
        · split
          · exact (inner _).map
              (fun part => (lineBody (firstLine cs ++ ['\n']) ++ '\n' :: part.1, part.2))
              (fun _ => rfl) fun _ => rfl
          · refine .inl (congrArg some (Prod.ext rfl ?_))
            simp only [List.flatten_cons, flatten_lines, followedBy, List.append_assoc]
      · exact cut_quotedPart_of_not_mem afterBlank seam broken

/-- The rule for quotes is local. -/
theorem cut_quote? (seam : Seam cs more) : Cut more (quote? cs) (quote? (cs ++ more)) := by
  unfold quote?
  by_cases broken : '\n' ∈ cs
  · rw [firstLine_append_of_mem broken, afterLine_append_of_mem broken]
    cases quoteMark? (firstLine cs) with
    | none => exact .none
    | some content =>
      have inner := cut_quotedPart (allBlank content) (seam.afterLine broken)
      exact inner.map (fun part => (Item.quote (content ++ '\n' :: part.1), part.2))
        (fun _ => rfl) fun _ => rfl
  · have line := firstLine_of_not_mem broken
    have whole := firstLine_append_of_not_mem broken more
    have some : firstLine more ≠ [] := by
      obtain ⟨later, rfl⟩ := List.head?_eq_some_iff.1 (head?_of_seam seam broken)
      exact List.cons_ne_nil _ _
    have within := seam.of_prefix some (List.takeWhile_prefix _)
    rw [afterLine_append_of_not_mem broken, whole, line, stays_quoteMark?.same within]
    cases quoteMark? cs with
    | none => exact .none
    | some content =>
      refine .beyond (Nat.lt_of_le_of_lt ?_ (length_afterLine_lt seam.nonempty))
      have later := flatten_suffix (quotedLines_suffix (allBlank (content ++ firstLine more))
        (lines (afterLine more)))
      rw [flatten_lines] at later
      exact later.length_le

/-! ### Link targets -/

/-- The end of a title takes something. -/
theorem shortens_targetTitleEnd? : Shortens targetTitleEnd? := by
  intro cs found read
  obtain ⟨mark, line, rfl, ended⟩ := exists_line_of_targetTitleEnd? read
  exact Nat.lt_succ_of_le (suffix_of_gapLineEnd? ended).length_le

/-- The title of a target is read alike before a seam, or reaches beyond it. -/
theorem cut_targetTitle? (seam : Seam cs more) :
    Cut more (targetTitle? cs) (targetTitle? (cs ++ more)) := by
  refine stays_gap?.cut seam fun {start} _ seam => ?_
  change Seam start more at seam
  obtain ⟨c, start, rfl⟩ := List.exists_cons_of_ne_nil seam.ne_nil
  change Cut more (if _ then _ else none) (if _ then _ else none)
  split
  · rename_i opens
    have seam : Seam start more := by
      simp only [Bool.or_eq_true, beq_iff_eq] at opens
      rcases opens with (rfl | rfl) | rfl <;> exact seam.of_cons rfl
    refine cut_someUpTo? (fun before d after whole => ?_) shortens_targetTitleEnd?
    simp only [List.cons_append, targetTitleEnd?]
    split
    · rename_i closes
      have clear : isItemEnd d = false ∧ isGap d = false := by
        simp only [Bool.or_eq_true, beq_iff_eq] at closes
        rcases closes with (rfl | rfl) | rfl <;> exact ⟨rfl, rfl⟩
      have later : d :: after <:+ start := ⟨before, whole.symm⟩
      rcases seam.suffix later with seam | ⟨gaps, -⟩
      · exact .inl (seam.of_cons clear.1).gapLineEnd?_append
      · rw [List.all_cons, clear.2] at gaps
        contradiction
    · exact .none
  · exact .none

/-- An address that is not in angle brackets goes up to a blank. -/
theorem urlPart_cons {c : Char} (other : c ≠ '<') (tail : List Char) : urlPart (c :: tail) =
    ((c :: tail).takeWhile (fun c => !isBlank c && c != '>'),
      (c :: tail).dropWhile fun c => !isBlank c && c != '>') := by
  simp only [urlPart]
  split
  · rename_i same
    exact absurd (List.cons.inj same).1 other
  · rfl

/-- There is no title in a gap. -/
theorem Spent.targetTitle?_eq_none (spent : Spent cs more) : targetTitle? cs = none := by
  cases cs with
  | nil => rfl
  | cons c tail =>
    have inner : Spent tail more := by
      have gaps := spent.1
      rw [List.all_cons, Bool.and_eq_true] at gaps
      exact ⟨gaps.2, spent.2⟩
    have spaced : gap? (c :: tail) = some [] := by
      rw [gap?, if_pos (List.all_eq_true.1 spent.1 c List.mem_cons_self), inner.skipGap_eq]
    rw [targetTitle?, spaced]
    rfl

/-- The address of a link ends before the end of the text, or with it. -/
theorem urlPart_append (seam : Seam cs more) :
    (urlPart (cs ++ more) = ((urlPart cs).1, (urlPart cs).2 ++ more) ∧ (urlPart cs).2 ≠ []) ∨
      ((urlPart cs).1 ≠ [] ∧ (urlPart cs).2 = [] ∧ EndsInLine cs) := by
  -- What stands in the address, given that it begins here.
  have part {cs : List Char} (some : cs ≠ []) :
      (∃ c ∈ cs, (!isBlank c && c != '>') = false) ∨
        (cs.takeWhile (fun c => !isBlank c && c != '>') = cs ∧
          cs.dropWhile (fun c => !isBlank c && c != '>') = [] ∧ EndsInLine cs) := by
    refine (stopped_or_every _ cs).imp_right fun every => ?_
    exact ⟨List.takeWhile_eq_self_iff.2 every, List.dropWhile_eq_nil_iff.2 every,
      endsInLine_of_all (List.all_eq_true.2 every) some rfl⟩
  have left {cs : List Char} (stopped : ∃ c ∈ cs, (!isBlank c && c != '>') = false) :
      cs.dropWhile (fun c => !isBlank c && c != '>') ≠ [] := by
    obtain ⟨c, member, stops⟩ := stopped
    exact List.ne_nil_of_mem (mem_dropWhile member stops)
  obtain ⟨c, tail, rfl⟩ := List.exists_cons_of_ne_nil seam.ne_nil
  by_cases bracket : c = '<'
  · subst bracket
    have seam := seam.of_cons rfl
    simp only [List.cons_append, urlPart]
    rcases part seam.ne_nil with stopped | ⟨all, none, within⟩
    · rw [takeWhile_append_of_exists stopped, dropWhile_append_of_exists stopped]
      split
      · exact .inl ⟨rfl, seam.ne_nil⟩
      · exact .inl ⟨rfl, left stopped⟩
    · have filled : ¬tail.isEmpty = true := by simpa using seam.ne_nil
      rw [all, none, if_neg filled]
      exact .inr ⟨seam.ne_nil, rfl, within.of_suffix (List.suffix_cons _ _)⟩
  · rw [List.cons_append, urlPart_cons bracket, urlPart_cons bracket, ← List.cons_append]
    rcases part (List.cons_ne_nil c tail) with stopped | ⟨all, none, within⟩
    · exact .inl ⟨by rw [takeWhile_append_of_exists stopped, dropWhile_append_of_exists stopped],
        left stopped⟩
    · exact .inr ⟨by rw [all]; exact List.cons_ne_nil c tail, none, within⟩

/-- The address and the title of a link, up to the end of the line. -/
def addressLine? (cs : List Char) : Option ((List Char × Option (List Char)) × List Char) := do
  let (url, rest) ← targetUrl? (skipGap cs)
  match targetTitle? rest with
  | some (title, rest) => some ((url, some title), rest)
  | none => (gapLineEnd? rest).map fun rest => ((url, none), rest)

/-- The target that an address gives to a key. -/
def targetOf? (key address : List Char) : Option ((String × LinkTarget) × List Char) :=
  (addressLine? address).map fun found => ((Reference.key (String.ofList key),
    ⟨String.ofList found.1.1, found.1.2.map String.ofList⟩), found.2)

/-- The target of a link is read as its key, which may go over several lines, and what it is
given. -/
theorem linkTarget?_eq (cs : List Char) : linkTarget? cs =
    (indent? cs).bind fun rest => (literal? "[" rest).bind fun rest =>
      (run? (fun c => c != '^' && c != ']') rest).bind fun part =>
        (literal? "]:" part.2).bind (targetOf? part.1) := by
  refine Option.bind_congr fun rest _ => Option.bind_congr fun rest _ =>
    Option.bind_congr fun part _ =>
    Option.bind_congr fun rest _ => ?_
  change (targetUrl? (skipGap rest)).bind _ = ((targetUrl? (skipGap rest)).bind _).map _
  cases targetUrl? (skipGap rest) with
  | none => rfl
  | some url =>
    dsimp only [Option.bind_some]
    cases targetTitle? url.2 with
    | some title => rfl
    | none =>
      dsimp only
      cases gapLineEnd? url.2 <;> rfl

/-- A definition of a link begins with a bracket. -/
theorem exists_indent?_of_linkTarget? {found : (String × LinkTarget) × List Char}
    (read : linkTarget? cs = some found) : ∃ start, indent? cs = some ('[' :: start) := by
  obtain ⟨rest, indented, read⟩ := Option.bind_eq_some_iff.1 read
  obtain ⟨inner, opened, -⟩ := Option.bind_eq_some_iff.1 read
  obtain ⟨start, rfl⟩ := List.head?_eq_some_iff.1 (head?_of_literal? rfl opened)
  exact ⟨start, indented⟩

/-- What is left behind a target stands behind its address. -/
theorem suffix_of_addressLine? {found : (List Char × Option (List Char)) × List Char}
    (read : addressLine? cs = some found) :
    ∃ part, targetUrl? (skipGap cs) = some part ∧ found.2 <:+ part.2 := by
  obtain ⟨part, addressed, read⟩ := Option.bind_eq_some_iff.1 read
  refine ⟨part, addressed, ?_⟩
  dsimp only at read
  split at read
  · rename_i titled
    cases read
    exact suffix_of_targetTitle? titled
  · obtain ⟨rest, ended, rfl⟩ := Option.map_eq_some_iff.1 read
    exact suffix_of_gapLineEnd? ended

/-- What follows an address: perhaps a title, and the end of the line. -/
theorem cut_title (seam : Seam cs more) (url : List Char) :
    Cut more
      (match targetTitle? cs with
        | some (title, rest) => some ((url, some title), rest)
        | none => (gapLineEnd? cs).map fun rest => ((url, none), rest))
      (match targetTitle? (cs ++ more) with
        | some (title, rest) => some ((url, some title), rest)
        | none => (gapLineEnd? (cs ++ more)).map fun rest => ((url, none), rest)) := by
  rcases cut_targetTitle? seam with same | ⟨found, taken, shorter⟩
  · rw [same]
    cases targetTitle? cs with
    | some found => exact .within ((url, some found.1), found.2)
    | none =>
      exact Cut.map (.inl seam.gapLineEnd?_append) (fun rest => ((url, none), rest)) (fun _ => rfl)
        fun _ => rfl
  · rw [Option.mem_def.1 taken]
    exact .beyond shorter

/-- An address before a gap at the end of the text. -/
theorem addressLine?_of_gaps (filled : (urlPart (skipGap cs)).1 ≠ [])
    (gaps : (urlPart (skipGap cs)).2.all isGap = true) :
    addressLine? cs = some (((urlPart (skipGap cs)).1, none), []) := by
  have spent : Spent (urlPart (skipGap cs)).2 ['#'] := ⟨gaps, rfl⟩
  have some : ¬(urlPart (skipGap cs)).1.isEmpty = true := by simpa using filled
  rw [addressLine?, targetUrl?]
  dsimp only
  rw [if_neg some, Option.bind_eq_bind, Option.bind_some, spent.literal?_eq_none rfl rfl,
    Option.getD_none]
  simp only [spent.targetTitle?_eq_none, gapLineEnd?, spent.skipGap_eq]
  rfl

/-- Nothing is left for an address, and a heading is longer than its first mark. -/
theorem Spent.cut_addressLine? (spent : Spent cs more) :
    Cut more (addressLine? cs) (addressLine? (cs ++ more)) := by
  have none : addressLine? cs = none := by
    rw [addressLine?, spent.skipGap_eq]
    rfl
  rw [none]
  refine .of_none fun found read => ?_
  obtain ⟨part, addressed, shorter⟩ := suffix_of_addressLine? read
  rw [spent.skipGap_append] at addressed
  obtain ⟨later, rfl⟩ := List.head?_eq_some_iff.1 spent.2
  refine Nat.lt_succ_of_le (shorter.trans ?_).length_le
  simp only [targetUrl?] at addressed
  split at addressed
  · contradiction
  · cases addressed
    have address : (urlPart ('#' :: later)).2 <:+ later := by
      rw [urlPart_cons (by decide), List.dropWhile_cons_of_pos rfl]
      exact List.dropWhile_suffix _
    exact (getD_literal?_suffix ">" _).trans address

/-- The address of a target is read alike before a seam, or reaches beyond it, or ends where the
text alone ends within its line. -/
theorem cutOrEnds_addressLine? (seam : Seam cs more) :
    CutOrEnds cs more (addressLine? cs) (addressLine? (cs ++ more)) := by
  rcases urlPart_append seam.skipGap with ⟨same, some⟩ | ⟨filled, ended, within⟩
  · have closes : Stays (literal? ">") := stays_literal? rfl
    rcases seam.skipGap.suffix (urlPart_suffix _) with left | ⟨gaps, -⟩
    · have marked := closes.getD left
      refine .bind ?_ fun found addressed => ?_
      · rw [seam.skipGap_append, targetUrl?, targetUrl?, same]
        dsimp only
        rw [marked.1]
        split <;> rfl
      · have within : Seam found.2 more := by
          simp only [targetUrl?] at addressed
          split at addressed
          · contradiction
          · cases addressed
            exact marked.2
        exact .inl (cut_title within found.1)
    · by_cases empty : (urlPart (skipGap cs)).1 = []
      · refine .inl ?_
        simp only [addressLine?, targetUrl?, seam.skipGap_append, same, empty, List.isEmpty_nil]
        exact .none
      · have within := (endsInLine_of_all gaps some rfl).of_suffix (urlPart_suffix (skipGap cs))
        exact .inr ⟨within.of_suffix (skipGap_suffix cs), _, addressLine?_of_gaps empty gaps, rfl⟩
  · have gaps : (urlPart (skipGap cs)).2.all isGap = true := by rw [ended, List.all_nil]
    exact .inr ⟨within.of_suffix (skipGap_suffix cs), _, addressLine?_of_gaps filled gaps, rfl⟩

/-- What is given to a key leaves an end of the text. -/
theorem suffix_of_targetOf? {key : List Char} {found : (String × LinkTarget) × List Char}
    (read : targetOf? key cs = some found) : found.2 <:+ cs := by
  obtain ⟨line, ended, rfl⟩ := Option.map_eq_some_iff.1 read
  obtain ⟨url, addressed, later⟩ := suffix_of_addressLine? ended
  exact later.trans ((suffix_of_targetUrl? addressed).trans (skipGap_suffix cs))

/-- So is what is given to a key, whatever the key. -/
theorem cutOrEnds_targetOf? (ends : Seam cs more ∨ Spent cs more) (key : List Char) :
    CutOrEnds cs more (targetOf? key cs) (targetOf? key (cs ++ more)) := by
  have addressed : CutOrEnds cs more (addressLine? cs) (addressLine? (cs ++ more)) := by
    rcases ends with seam | spent
    · exact cutOrEnds_addressLine? seam
    · exact .inl spent.cut_addressLine?
  exact addressed.map (fun found => ((Reference.key (String.ofList key),
    (⟨String.ofList found.1.1, found.1.2.map String.ofList⟩ : LinkTarget)), found.2)) (fun _ => rfl)
    fun _ => rfl

/-- A key that goes on in the text that follows. -/
theorem cut_key_of_forall (every : ∀ c ∈ cs, (c != '^' && c != ']') = true) :
    Cut more
      ((run? (fun c => c != '^' && c != ']') cs).bind fun part =>
        (literal? "]:" part.2).bind (targetOf? part.1))
      ((run? (fun c => c != '^' && c != ']') (cs ++ more)).bind fun part =>
        (literal? "]:" part.2).bind (targetOf? part.1)) := by
  have none : ((run? (fun c => c != '^' && c != ']') cs).bind fun part =>
      (literal? "]:" part.2).bind (targetOf? part.1)) = none := by
    rw [run?, List.dropWhile_eq_nil_iff.2 every]
    split <;> rfl
  rw [none]
  refine .of_none fun found read => ?_
  obtain ⟨part, taken, read⟩ := Option.bind_eq_some_iff.1 read
  obtain ⟨address, marked, read⟩ := Option.bind_eq_some_iff.1 read
  obtain ⟨rfl, -⟩ := eq_of_run? taken
  rw [List.dropWhile_append_of_pos every] at marked
  calc found.2.length
      ≤ address.length := (suffix_of_targetOf? read).length_le
    _ < (more.dropWhile fun c => c != '^' && c != ']').length := literal?_length_lt rfl marked
    _ ≤ more.length := (List.dropWhile_suffix _).length_le

/-- A definition of a link is read alone as it is read with what follows, or it goes up to the end
of the text. -/
theorem cutOrEnds_linkTarget? (seam : Seam cs more) :
    CutOrEnds cs more (linkTarget? cs) (linkTarget? (cs ++ more)) := by
  have opens : Stays (literal? "[") := stays_literal? rfl
  rw [linkTarget?_eq, linkTarget?_eq]
  refine .bind (stays_indent?.same seam) fun start indented => ?_
  have seam : Seam start more := stays_indent?.left seam indented
  refine .bind (opens.same seam) fun cs opened => ?_
  have seam : Seam cs more := opens.left seam opened
  rcases stopped_or_every (fun c => c != '^' && c != ']') cs with stopped | every
  · have after : Seam (cs.dropWhile fun c => c != '^' && c != ']') more := by
      obtain ⟨c, member, stops⟩ := stopped
      rcases seam.suffix (List.dropWhile_suffix fun c => c != '^' && c != ']') with seam | ⟨gaps, -⟩
      · exact seam
      · have gap := List.all_eq_true.1 gaps c (mem_dropWhile member stops)
        simp only [isGap, Bool.or_eq_true, beq_iff_eq] at gap
        rcases gap with rfl | rfl <;> contradiction
    refine .bind (run?_append_of_exists stopped more) fun part keyed => ?_
    have within : Seam part.2 more := by
      obtain ⟨rfl, -⟩ := eq_of_run? keyed
      exact after
    refine .bind (within.literal?_append rfl) fun address marked => ?_
    have ends := seam_or_spent_of_literal? within marked rfl (by decide) rfl
    exact (cutOrEnds_targetOf? ends part.1).of_suffix ((suffix_of_literal? marked).trans
      ((suffix_of_run? keyed).trans ((suffix_of_literal? opened).trans
        (suffix_of_indent? indented))))
  · exact .inl (cut_key_of_forall every)

/-! ### All rules -/

/-- Every rule that is tried before the targets of links is local. -/
theorem isLocal_of_mem_firstRules {rule : List Char → Option Found} (known : rule ∈ firstRules) :
    IsLocal rule := by
  simp only [firstRules, List.mem_cons, List.not_mem_nil, or_false] at known
  rcases known with rfl | rfl | rfl | rfl | rfl | rfl | rfl | rfl | rfl | rfl | rfl | rfl | rfl |
    rfl | rfl | rfl | rfl
  · exact isLocal_fencedCode?
  · exact isLocal_indentedCode?
  · exact isLocal_displayMath?
  · exact isLocal_environment?
  · exact isLocal_pluginDefinition?
  · exact isLocal_metadata?
  · exact isLocal_directive? (by decide)
  · exact isLocal_directive? (by decide)
  · exact isLocal_directive? (by decide)
  · exact isLocal_hint?
  · exact isLocal_openingWord? (by decide) rfl (by decide) rfl
  · exact isLocal_openingWord? (by decide) rfl (by decide) rfl
  · exact isLocal_pluginEmbed?
  · exact isLocal_heading?
  · exact isLocal_rule?
  · exact isLocal_minirule?
  · exact isLocal_pause?

/-- Every rule that is tried after quotes is local. -/
theorem isLocal_of_mem_lastRules {rule : List Char → Option Found} (known : rule ∈ lastRules) :
    IsLocal rule := by
  simp only [lastRules, List.mem_cons, List.not_mem_nil, or_false] at known
  rcases known with rfl | rfl | rfl
  · exact isLocal_listItem?
  · exact isLocal_html?
  · exact isLocal_paragraph?

/-- The items that some rules find, of which the first counts. -/
def firstOf (rules : List (List Char → Option (Item × List Char))) (cs : List Char) :
    Option (Item × List Char) :=
  rules.findSome? fun rule => (rule cs).filter fun found => found.2.length < cs.length

/-- The next item is the first that the rules before targets take, or a target, or the first that
the later rules take. -/
theorem next?_eq (cs : List Char) : next? cs =
    (firstOf (blank? :: firstRules.map asItem) cs).or
      ((firstOf [target?] cs).or (firstOf (quote? :: lastRules.map asItem) cs)) := by
  rw [firstOf, firstOf, firstOf, ← List.findSome?_append, ← List.findSome?_append]
  rfl

/-- That a rule must take something is asked alike of the text alone and of the text with what
follows. -/
theorem cut_filter {alone whole : Option (Item × List Char)} (cut : Cut more alone whole) :
    Cut more (alone.filter fun found => found.2.length < cs.length)
      (whole.filter fun found => found.2.length < (cs ++ more).length) := by
  rcases cut with rfl | ⟨found, taken, shorter⟩
  · cases alone with
    | none => exact .none
    | some found =>
      refine .inl ?_
      simp only [Option.map_some, followedBy, Option.filter_some, List.length_append,
        Nat.add_lt_add_iff_right]
      split <;> rfl
  · have less : found.2.length < (cs ++ more).length := by
      rw [List.length_append]
      exact Nat.lt_of_lt_of_le shorter (Nat.le_add_left _ _)
    rw [Option.mem_def.1 taken, Option.filter_some, if_pos (decide_eq_true less)]
    exact .beyond shorter

/-- The first of several local rules is local. -/
theorem cut_firstOf {rules : List (List Char → Option (Item × List Char))}
    (each : ∀ rule ∈ rules, Cut more (rule cs) (rule (cs ++ more))) :
    Cut more (firstOf rules cs) (firstOf rules (cs ++ more)) :=
  Cut.findSome? fun rule known => cut_filter (each rule known)

/-- A local rule is local as one that takes items. -/
theorem cut_asItem {rule : List Char → Option Found} (known : IsLocal rule) (seam : Seam cs more)
    (begun : Begun cs) : Cut more (asItem rule cs) (asItem rule (cs ++ more)) :=
  (known seam begun).map (fun found => (Item.block found.1, found.2)) (fun _ => rfl) fun _ => rfl

/-- What is taken from the start of a text is taken where more text follows too, unless some of that
is taken, or the text alone is the definition of a link. -/
theorem cut_next? (seam : Seam cs more) (begun : Begun cs) :
    Cut more (next? cs) (next? (cs ++ more)) ∨ (EndsInLine cs ∧ ∃ key target,
      next? cs = some (.linkTarget key target, []) ∧
        linkTarget? cs = some ((key, target), [])) := by
  have first : Cut more (firstOf (blank? :: firstRules.map asItem) cs)
      (firstOf (blank? :: firstRules.map asItem) (cs ++ more)) := by
    refine cut_firstOf fun rule known => ?_
    simp only [List.mem_cons, List.mem_map] at known
    rcases known with rfl | ⟨rule, known, rfl⟩
    · exact cut_blank? seam
    · exact cut_asItem (isLocal_of_mem_firstRules known) seam begun
  have last : Cut more (firstOf (quote? :: lastRules.map asItem) cs)
      (firstOf (quote? :: lastRules.map asItem) (cs ++ more)) := by
    refine cut_firstOf fun rule known => ?_
    simp only [List.mem_cons, List.mem_map] at known
    rcases known with rfl | ⟨rule, known, rfl⟩
    · exact cut_quote? seam
    · exact cut_asItem (isLocal_of_mem_lastRules known) seam begun
  rw [next?_eq, next?_eq]
  rcases cutOrEnds_linkTarget? seam with cut | ⟨within, ⟨⟨key, target⟩, tail⟩, taken, ended⟩
  · refine .inl (first.or (Cut.or (cut_firstOf fun rule known => ?_) last))
    rw [List.mem_singleton.1 known]
    exact cut.map (fun found => (Item.linkTarget found.1.1 found.1.2, found.2)) (fun _ => rfl)
      fun _ => rfl
  · obtain rfl : tail = [] := ended
    cases earlier : firstOf (blank? :: firstRules.map asItem) cs with
    | some found =>
      rw [earlier] at first
      exact .inl (first.or_of_some _ _)
    | none =>
      refine .inr ⟨within, key, target, ?_, taken⟩
      have found : firstOf [target?] cs = some (.linkTarget key target, []) := by
        have positive : 0 < cs.length := List.length_pos_iff.2 seam.ne_nil
        simp [firstOf, target?, Option.mem_def.1 taken, positive]
      rw [found]
      rfl

end Items

end LectureDeck.Block
