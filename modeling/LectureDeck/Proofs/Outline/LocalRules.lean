import LectureDeck.Proofs.Outline.BlockReaders

/-!
# Rules before a seam

A rule takes from a text what it takes where more text follows a seam, unless it takes some of that
(`LectureDeck.Block.IsLocal`). The rules for quotes and for the targets of links are left to
`LectureDeck.Proofs.Outline.LocalItems`.
-/

namespace LectureDeck.Block

open LectureDeck.Text

/-- An item that begins a text of one line leaves the rest of its line to others. -/
def Begun (cs : List Char) : Prop :=
  '\n' ∈ cs ∨ ∃ c tail, indent? cs = some (c :: tail) ∧ c ∈ ['H', 'N', 'E', '\\']

/-- A rule takes from a text alone what it takes where more text follows, unless it takes some of
that. -/
def IsLocal {α : Type} [Reading α] (rule : List Char → Option α) : Prop :=
  ∀ {cs more : List Char}, Seam cs more → Begun cs → Cut more (rule cs) (rule (cs ++ more))

section Rules

variable {cs more : List Char}

/-- A text of one line whose first item leaves the rest of the line is read by no rule that begins
with another mark. -/
theorem cut_of_indent? {α : Type} [Reading α] {next : List Char → Option α} (seam : Seam cs more)
    (begun : Begun cs)
    (lined : ∀ {start}, Seam start more → '\n' ∈ start →
      Cut more (next start) (next (start ++ more)))
    (other : ∀ c tail, c ∈ ['H', 'N', 'E', '\\'] → next (c :: tail) = none) :
    Cut more ((indent? cs).bind next) ((indent? (cs ++ more)).bind next) := by
  rcases begun with broken | ⟨c, tail, indented, known⟩
  · exact stays_indent?.cut seam fun {start} indented seam =>
      lined seam (mem_of_indent? indented broken rfl)
  · rw [stays_indent?.same seam, indented]
    refine .inl ?_
    change next (c :: (tail ++ more)) = (next (c :: tail)).map (followedBy more)
    rw [other c _ known, other c _ known]
    rfl

/-- Lines up to one that closes a fence, and what follows that line. -/
theorem cut_fence {mark : Char} (fence : mark = '\x60' ∨ mark = '~') {size : Nat}
    (nonempty : more ≠ []) (meets : cs = [] ∨ Seam cs more) {α : Type}
    (make : List (List Char) → α) :
    let taken (cs : List Char) := spanLines (fun line => !closesFence mark size line) cs
    Cut more (some (make (taken cs).1, afterLine (taken cs).2))
      (some (make (taken (cs ++ more)).1, afterLine (taken (cs ++ more)).2)) := by
  intro taken
  rcases cut_spanLines (p := fun line => !closesFence mark size line)
    (settled_closesFence fence size) meets with same | ⟨found, read, shorter⟩
  · have same : taken (cs ++ more) = ((taken cs).1, (taken cs).2 ++ more) := Option.some.inj same
    rw [same]
    by_cases broken : '\n' ∈ (taken cs).2
    · rw [afterLine_append_of_mem broken]
      exact .within (make (taken cs).1, afterLine (taken cs).2)
    · rw [afterLine_append_of_not_mem broken]
      exact .beyond (length_afterLine_lt nonempty)
  · cases read
    exact .beyond (Nat.lt_of_le_of_lt (afterLine_suffix _).length_le shorter)

/-- The rule for fenced code is local: the lines up to the seam are taken alike, unless no fence
closes them before it. -/
theorem isLocal_fencedCode? : IsLocal fencedCode? := by
  intro cs more seam begun
  unfold fencedCode?
  rw [stays_indent?.same seam]
  rcases begun with broken | ⟨c, tail, indented, known⟩
  · cases indented : indent? cs with
    | none => exact .none
    | some start =>
      have seam : Seam start more := stays_indent?.left seam indented
      have broken : '\n' ∈ start := mem_of_indent? indented broken rfl
      obtain ⟨mark, start, rfl⟩ := List.exists_cons_of_ne_nil seam.ne_nil
      simp only [Option.map_some, followedBy, List.cons_append]
      by_cases fence : (mark == '\x60' || mark == '~') = true
      · have fence' : mark = '\x60' ∨ mark = '~' := by simpa using fence
        have spares : Spares (· == mark) := by
          rcases fence' with rfl | rfl <;> exact spares_of_all rfl
        have stopped := seam.exists_of_spares spares
        have marked : '\n' ∈ (mark :: start).dropWhile (· == mark) :=
          mem_dropWhile broken (spares '\n' rfl)
        have seam : Seam ((mark :: start).dropWhile (· == mark)) more := seam.dropWhile spares
        rw [if_pos fence, if_pos fence, ← List.cons_append, takeWhile_append_of_exists stopped,
          dropWhile_append_of_exists stopped, takeWhile_append_of_exists (exists_break marked),
          afterLine_append_of_mem marked]
        split
        · exact cut_fence fence' seam.nonempty (seam.afterLine marked)
            (fun code => Block.code _ (String.ofList (lineBody code.flatten)))
        · exact .none
      · rw [if_neg fence, if_neg fence]
        exact .none
  · rw [indented]
    simp only [List.mem_cons, List.not_mem_nil, or_false] at known
    rcases known with rfl | rfl | rfl | rfl <;> exact .none

/-- The rule for indented code is local. -/
theorem isLocal_indentedCode? : IsLocal indentedCode? := by
  intro cs more seam _
  have cut := cut_spanLines (p := fun line => (indentedLine? line).isSome)
    settled_indentedLine? (.inr seam)
  simp only [indentedCode?]
  rcases cut with same | ⟨found, taken, shorter⟩
  · rw [Option.some.inj same]
    simp only [followedBy]
    split
    · exact .none
    · exact .inl rfl
  · cases taken
    change (spanLines _ (cs ++ more)).2.length < more.length at shorter
    have filled : ¬(spanLines (fun line => (indentedLine? line).isSome) (cs ++ more)).1.isEmpty =
        true := by
      intro empty
      have whole := congrArg List.length
        (flatten_spanLines (fun line => (indentedLine? line).isSome) (cs ++ more))
      rw [List.isEmpty_iff.1 empty, List.flatten_nil, List.nil_append, List.length_append] at whole
      omega
    rw [if_neg filled]
    exact .beyond shorter

/-- The rule for mathematics set apart is local. -/
theorem isLocal_displayMath? : IsLocal displayMath? := by
  intro cs more seam _
  have stays : Stays (literal? "$$") := stays_literal? rfl
  refine stays_indent?.cut seam fun _ seam => ?_
  refine stays.cut seam fun _ seam => ?_
  refine Cut.bind_total (cut_upTo? (fun before c after whole _ => ?_) (.inl fun taken => ?_))
    (fun part => (displayMath (String.ofList part.1), part.2)) (fun _ => rfl) (fun _ => rfl)
      fun _ => rfl
  · refine cut_closing (fun cs => (literal? "$$" cs).bind gapLineEnd?) seam (fun seam => ?_)
      (fun spent => ?_) ⟨before, whole.symm⟩
    · exact stays.cut seam fun _ seam => .inl seam.gapLineEnd?_append
    · rw [List.cons_append, literal?_cons_of_spent spent rfl rfl,
        literal?_cons_of_spent spent rfl rfl]
      exact ⟨rfl, rfl⟩
  · obtain ⟨rest, marked, ended⟩ := Option.bind_eq_some_iff.1 taken
    exact Nat.lt_of_le_of_lt (suffix_of_gapLineEnd? ended).length_le (literal?_length_lt rfl marked)

/-- The rule for metadata is local. -/
theorem isLocal_metadata? : IsLocal metadata? := by
  intro cs more seam _
  have stays : Stays fun cs => literal? "-->" (skipGap cs) :=
    (stays_literal? rfl).dropWhile spares_isGap
  refine stays_indent?.cut seam fun _ seam => ?_
  refine (stays_literal? (by rfl)).cut seam fun _ seam => ?_
  refine (stays_run? spares_isWordChar).cut seam fun {found} _ seam => ?_
  obtain ⟨name, cs⟩ := found
  change Seam cs more at seam
  change Cut more ((upTo? isLineBreak _ (skipGap cs)).bind _)
    ((upTo? isLineBreak _ (skipGap (cs ++ more))).bind _)
  rw [seam.skipGap_append]
  refine Cut.bind_total (cut_upTo? (fun before c after whole _ => ?_) (.inl fun taken => ?_))
    (fun part => (metadata (String.ofList name) (String.ofList part.1), part.2)) (fun _ => rfl)
    (fun _ => rfl) fun _ => rfl
  · refine cut_closing (fun cs => (literal? "-->" (skipGap cs)).bind gapLineEnd?) seam.skipGap
      (fun seam => ?_) (fun spent => ?_) ⟨before, whole.symm⟩
    · exact stays.cut seam fun _ seam => .inl seam.gapLineEnd?_append
    · rw [spent.skipGap_append, spent.skipGap_eq, literal?_nil rfl]
      obtain ⟨later, rfl⟩ := List.head?_eq_some_iff.1 spent.2
      exact ⟨rfl, rfl⟩
  · obtain ⟨rest, marked, ended⟩ := Option.bind_eq_some_iff.1 taken
    refine Nat.lt_of_le_of_lt (suffix_of_gapLineEnd? ended).length_le ?_
    exact Nat.lt_of_lt_of_le (literal?_length_lt rfl marked) (skipGap_suffix _).length_le

/-- A rule for a directive is local: what it says ends with the line. -/
theorem isLocal_directive? {words : List String} {make : String → Block}
    (clear : ∀ word ∈ words, word.toList.dropLast.all (!isItemEnd ·) = true) :
    IsLocal fun cs => (directive? words cs).map fun part => (make part.1, part.2) := by
  intro cs more seam _
  refine Cut.map ?_ (fun part : String × List Char => (make part.1, part.2)) (fun _ => rfl)
    fun _ => rfl
  refine stays_indent?.cut seam fun {cs} _ seam => ?_
  change Seam cs more at seam
  exact Cut.bind (seam.oneOf?_append clear) fun rest _ =>
    cut_line seam.nonempty seam.unbroken fun line => String.ofList (trim line)

/-- A word that opens a part of a slide is read alike with what follows the seam. Its own end may be
the seam. -/
theorem openingWord?_append {word : String} (seam : Seam cs more)
    (clear : word.toList.dropLast.all (!isItemEnd ·) = true) {last : Char}
    (final : word.toList.getLast? = some last) (other : last ≠ '\n') (mark : isGap last = false) :
    openingWord? word (cs ++ more) = (openingWord? word cs).map (followedBy more) := by
  change (indent? (cs ++ more)).bind _ = ((indent? cs).bind _).map _
  rw [stays_indent?.same seam]
  cases indented : indent? cs with
  | none => rfl
  | some cs =>
    have seam : Seam cs more := stays_indent?.left seam indented
    change (literal? word (cs ++ more)).bind _ = ((literal? word cs).bind _).map _
    rw [seam.literal?_append clear]
    cases begun : literal? word cs with
    | none => rfl
    | some tail =>
      have ends := seam_or_spent_of_literal? seam begun final other mark
      change some ((skipGap (tail ++ more)).dropWhile (· == '\n')) = _
      rw [skipGap_append ends, dropWhile_break_append seam.unbroken]
      rfl

/-- So the rule for such a word is local. -/
theorem isLocal_openingWord? {word : String} {block : Block}
    (clear : word.toList.dropLast.all (!isItemEnd ·) = true) {last : Char}
    (final : word.toList.getLast? = some last) (other : last ≠ '\n') (mark : isGap last = false) :
    IsLocal fun cs => (openingWord? word cs).map fun rest => (block, rest) := by
  intro cs more seam _
  exact Cut.map (.inl (openingWord?_append seam clear final other mark)) (fun rest => (block, rest))
    (fun _ => rfl) fun _ => rfl

/-- The rule for hints is local, though a hint may end within its line. -/
theorem isLocal_hint? : IsLocal hint? := by
  intro cs more seam _
  refine stays_indent?.cut seam fun {cs} _ seam => ?_
  change Seam cs more at seam
  refine Cut.bind (seam.literal?_append rfl) fun tail begun => .inl ?_
  have ends := seam_or_spent_of_literal? seam begun rfl (by decide) rfl
  have digits : percentage? (skipGap tail ++ more) =
      (percentage? (skipGap tail)).map (followedBy more) := by
    rcases ends with seam | spent
    · exact percentage?_append seam.skipGap
    · rw [spent.skipGap_eq]
      obtain ⟨later, rfl⟩ := List.head?_eq_some_iff.1 spent.2
      rfl
  simp only [followedBy, skipGap_append ends, digits]
  cases percentage? (skipGap tail) with
  | none => exact congrArg some (congrArg _ (dropWhile_break_append seam.unbroken _))
  | some part => exact congrArg some (congrArg _ (dropWhile_break_append seam.unbroken _))

/-- A text before a seam ends with the end of an item, or with a gap after it. -/
theorem isItemEnd_or_isGap {last : Char} (seam : Seam cs more) (final : cs.getLast? = some last) :
    isItemEnd last = true ∨ isGap last = true := by
  obtain ⟨body, mark, gap, rfl, ends, gaps, -⟩ := seam.ends
  rw [List.getLast?_append, List.getLast?_cons, Option.some_or, Option.some.injEq] at final
  subst final
  cases final : gap.getLast? with
  | none => exact .inl ends
  | some last => exact .inr (List.all_eq_true.1 gaps last (List.mem_of_getLast? final))

/-- The name of an environment is made of letters and an asterisk. -/
theorem mem_of_environmentName? {name : List Char × List Char}
    (named : environmentName? cs = some name)
    {c : Char} (member : c ∈ name.1) : c.isAlpha = true ∨ c = '*' := by
  obtain ⟨⟨letters, after⟩, taken, read⟩ := Option.bind_eq_some_iff.1 named
  have alphabetic : ∀ c ∈ letters, c.isAlpha = true := by
    obtain ⟨rfl, -⟩ := Prod.mk.inj (eq_of_run? taken).1
    exact fun c member => List.mem_takeWhile_imp member
  dsimp only at read
  split at read
  · cases read
    rcases List.mem_append.1 member with letter | star
    · exact .inl (alphabetic c letter)
    · exact .inr (List.mem_singleton.1 star)
  · cases read
    exact .inl (alphabetic c member)

/-- What is left after the end of an environment, without the empty lines. -/
theorem cut_environmentEnd {tail : List Char} (ends : Seam tail more ∨ Spent tail more)
    {α : Type} (made : α) :
    Cut more (some (made, (emptyLines? (skipGap tail)).getD (skipGap tail)))
      (some (made, (emptyLines? (skipGap (tail ++ more))).getD (skipGap (tail ++ more)))) := by
  rw [skipGap_append ends]
  rcases ends with seam | spent
  · rcases cut_emptyLines? seam.skipGap with same | ⟨found, taken, shorter⟩
    · rw [same]
      cases emptyLines? (skipGap tail) with
      | none => exact .within (made, skipGap tail)
      | some found => exact .within (made, found)
    · rw [Option.mem_def.1 taken]
      exact .beyond shorter
  · rw [spent.skipGap_eq]
    obtain ⟨later, rfl⟩ := List.head?_eq_some_iff.1 spent.2
    exact .within (made, [])

/-- An end of a text is left behind its empty lines. -/
theorem getD_emptyLines?_suffix (cs : List Char) : (emptyLines? cs).getD cs <:+ cs := by
  cases empty : emptyLines? cs with
  | none => exact List.suffix_refl cs
  | some rest => exact suffix_of_emptyLines? empty

/-- The body of an environment, up to its end. -/
theorem cut_environmentBody {name body rest : List Char}
    (named : environmentName? cs = some (name, rest)) (seam : Seam rest more)
    (closed : literal? "\x7d" rest = some body) :
    Cut more (cutAt? ("\\end\x7b".toList ++ name ++ ['}']) body)
      (cutAt? ("\\end\x7b".toList ++ name ++ ['}']) (body ++ more)) := by
  refine cut_cutAt? (by simp) fun last final inside => ?_
  -- The text ends with the end of an item or a gap, and neither is in the literal before its end.
  have ends : isItemEnd last = true ∨ isGap last = true := by
    rcases seam.suffix (suffix_of_literal? closed) with seam | ⟨gaps, -⟩
    · exact isItemEnd_or_isGap seam final
    · exact .inr (List.all_eq_true.1 gaps last (List.mem_of_getLast? final))
  rw [List.dropLast_concat, List.mem_append] at inside
  rcases inside with word | letter
  · have marks : "\\end\x7b".toList.all (fun c => !(isItemEnd c || isGap c)) = true := by decide
    have other := List.all_eq_true.1 marks last word
    rw [Bool.not_eq_true', Bool.or_eq_false_iff] at other
    simp [other] at ends
  · rcases mem_of_environmentName? named letter with alphabetic | rfl
    · rcases ends with ends | gap
      · rw [spares_isAlpha last ends] at alphabetic
        contradiction
      · simp only [isGap, Bool.or_eq_true, beq_iff_eq] at gap
        rcases gap with rfl | rfl <;> contradiction
    · revert ends
      decide

/-- The rule for environments is local, though an environment may end within its line. -/
theorem isLocal_environment? : IsLocal environment? := by
  intro cs more seam _
  refine stays_indent?.cut seam fun {start} _ seam => ?_
  change Seam start more at seam
  have whole := seam
  have inside : ∀ {tail : List Char}, tail <:+ start → (start ++ more).take
      ((start ++ more).length - (tail ++ more).length) =
        start.take (start.length - tail.length) := by
    intro tail later
    rw [List.length_append, List.length_append, Nat.add_sub_add_right,
      List.take_append_of_le_length (Nat.sub_le _ _)]
  have opens : Stays (literal? "\\begin\x7b") := stays_literal? rfl
  refine opens.cut seam fun {begun} opened seam => ?_
  have begins : begun <:+ start := suffix_of_literal? opened
  refine stays_environmentName?.cut seam fun {name} named seam => ?_
  obtain ⟨name, rest⟩ := name
  change Seam rest more at seam
  have begins : rest <:+ start := (suffix_of_environmentName? named).trans begins
  refine Cut.bind (seam.literal?_append rfl) fun body closed => ?_
  have begins : body <:+ start := (suffix_of_literal? closed).trans begins
  have cut := cut_environmentBody named seam closed
  refine cut.next (fun found ended => ?_) fun found ended shorter => ?_
  · obtain ⟨before, tail⟩ := found
    have later : tail <:+ start := (suffix_of_cutAt? ended).trans begins
    dsimp only [followedBy]
    rw [inside later]
    have closes := (suffix_of_cutAt?_concat ended).trans begins
    exact cut_environmentEnd (seam_or_spent_of_suffix whole closes (by decide) rfl) _
  · obtain ⟨before, tail⟩ := found
    refine ⟨_, rfl, Nat.lt_of_le_of_lt ?_ shorter⟩
    exact ((getD_emptyLines?_suffix _).trans (skipGap_suffix _)).length_le

/-- The end of a definition takes something. -/
theorem shortens_definitionEnd? : Shortens definitionEnd? := by
  intro cs found read
  obtain ⟨broken, line, opened, later, ended⟩ := exists_line_of_definitionEnd? read
  exact Nat.lt_of_le_of_lt ((suffix_of_gapLineEnd? ended).trans later).length_le
    (literal?_length_lt rfl opened)

/-- The end of a definition is read alike before a seam, or reaches beyond it. -/
theorem cut_definitionEnd? (seam : Seam cs more) :
    Cut more (definitionEnd? cs) (definitionEnd? (cs ++ more)) := by
  refine Cut.bind (seam.literal?_append rfl) fun line broken => ?_
  have whole : cs = '\n' :: line := after?_eq_some_iff.1 broken
  subst whole
  rcases seam.of_cons_break with rfl | seam
  · refine .of_none fun found read => ?_
    obtain ⟨brace, closed, read⟩ := Option.bind_eq_some_iff.1 read
    obtain ⟨tag, tagged, read⟩ := Option.bind_eq_some_iff.1 read
    have tagged := (suffix_of_literal? tagged).trans (skipGap_suffix brace)
    refine Nat.lt_of_le_of_lt ((suffix_of_gapLineEnd? read).trans tagged).length_le ?_
    exact Nat.lt_of_lt_of_le (literal?_length_lt rfl closed) (skipGap_suffix _).length_le
  · change Cut more ((literal? "\x7d" (skipGap line)).bind _)
      ((literal? "\x7d" (skipGap (line ++ more))).bind _)
    rw [seam.skipGap_append]
    refine Cut.bind (seam.skipGap.literal?_append rfl) fun brace closed => ?_
    change Cut more ((literal? "</script>" (skipGap brace)).bind _)
      ((literal? "</script>" (skipGap (brace ++ more))).bind _)
    rcases seam_or_spent_of_literal? seam.skipGap closed rfl (by decide) rfl with seam | spent
    · have stays : Stays (literal? "</script>") := stays_literal? rfl
      exact (stays.dropWhile spares_isGap).cut seam fun _ seam => .inl seam.gapLineEnd?_append
    · rw [spent.skipGap_append, spent.skipGap_eq]
      obtain ⟨later, rfl⟩ := List.head?_eq_some_iff.1 spent.2
      exact .none

/-- The name and the body of a plugin's definition, after its tag. -/
def pluginBody? (cs : List Char) : Option Found := do
  let (name, rest) ← run? isWordChar (skipGap cs)
  let rest ← literal? "=" (skipGap rest)
  let rest ← literal? "\x7b" (skipGap rest)
  let (content, rest) ← upTo? never definitionEnd? rest
  some (pluginDefinition (String.ofList name) (String.ofList content), rest)

/-- The body of a definition takes something. -/
theorem shortens_pluginBody? : Shortens pluginBody? := by
  intro cs found read
  obtain ⟨name, named, read⟩ := Option.bind_eq_some_iff.1 read
  obtain ⟨sign, equal, read⟩ := Option.bind_eq_some_iff.1 read
  obtain ⟨brace, braced, read⟩ := Option.bind_eq_some_iff.1 read
  obtain ⟨part, ended, read⟩ := Option.bind_eq_some_iff.1 read
  cases read
  have name := (suffix_of_run? named).trans (skipGap_suffix cs)
  have sign := (suffix_of_literal? equal).trans ((skipGap_suffix _).trans name)
  have brace := (suffix_of_literal? braced).trans ((skipGap_suffix _).trans sign)
  exact Nat.lt_of_lt_of_le (shortens_definitionEnd?.upTo? ended) brace.length_le

/-- The body of a definition is read alike before a seam, or reaches beyond it. -/
theorem cut_pluginBody? (seam : Seam cs more) :
    Cut more (pluginBody? cs) (pluginBody? (cs ++ more)) := by
  have equals : Stays (literal? "=") := stays_literal? rfl
  have braces : Stays (literal? "\x7b") := stays_literal? rfl
  have names : Stays (run? isWordChar) := stays_run? spares_isWordChar
  refine (names.dropWhile spares_isGap).cut seam fun {name} _ seam => ?_
  refine (equals.dropWhile spares_isGap).cut seam fun _ seam => ?_
  refine (braces.dropWhile spares_isGap).cut seam fun {body} _ seam => ?_
  change Seam body more at seam
  refine Cut.bind_total (cut_upTo? (fun before c after whole _ => ?_)
    (.inl shortens_definitionEnd?))
    (fun part => (pluginDefinition (String.ofList name.1) (String.ofList part.1), part.2))
    (fun _ => rfl) (fun _ => rfl) fun _ => rfl
  refine cut_closing definitionEnd? seam cut_definitionEnd? (fun spent => ?_) ⟨before, whole.symm⟩
  rw [definitionEnd?, definitionEnd?, List.cons_append, literal?_cons_of_spent spent rfl rfl,
    literal?_cons_of_spent spent rfl rfl]
  exact ⟨rfl, rfl⟩

/-- The rule for definitions of plugins is local. -/
theorem isLocal_pluginDefinition? : IsLocal pluginDefinition? := by
  intro cs more seam _
  have opens : Stays (literal? "<script ") := stays_literal? rfl
  have declares : Stays (literal? "type=\"x-slidoc-plugin\"") := stays_literal? rfl
  have closes : Stays (literal? ">") := stays_literal? rfl
  refine stays_indent?.cut seam fun _ seam => ?_
  refine opens.cut seam fun _ seam => ?_
  refine (declares.dropWhile (spares_of_all rfl)).cut seam fun _ seam => ?_
  refine (closes.dropWhile spares_isGap).cut seam fun {tag} _ seam => ?_
  change Seam tag more at seam
  change Cut more (pluginBody? ((literal? "\n" (skipGap tag)).getD (skipGap tag)))
    (pluginBody? ((literal? "\n" (skipGap (tag ++ more))).getD (skipGap (tag ++ more))))
  rw [seam.skipGap_append, seam.skipGap.literal?_append rfl]
  cases broken : literal? "\n" (skipGap tag) with
  | none => exact cut_pluginBody? seam.skipGap
  | some line =>
    have within := seam.skipGap
    rw [after?_eq_some_iff.1 broken] at within
    rcases within.of_cons_break with rfl | seam
    · exact .of_none fun found read => shortens_pluginBody? read
    · exact cut_pluginBody? seam

/-- What stands before the end of an item on the last line, without the gap, ends with the mark. -/
theorem isItemEnd_of_dropEndWhile {last : Char} (seam : Seam cs more)
    (final : (dropEndWhile isGap cs).getLast? = some last) : isItemEnd last = true := by
  obtain ⟨body, mark, gap, rfl, ends, gaps, -⟩ := seam.ends
  have dropped : dropEndWhile isGap (body ++ mark :: gap) = body ++ [mark] := by
    have mixed : isGap mark = false := spares_isGap mark ends
    have whole : body ++ mark :: gap = body ++ [mark] ++ gap := by simp
    rw [dropEndWhile, whole, List.reverse_append, List.dropWhile_append_of_pos
      (fun c member => List.all_eq_true.1 gaps c (List.mem_reverse.1 member))]
    simp [mixed]
  rw [dropped, List.getLast?_concat, Option.some.injEq] at final
  exact final ▸ ends

/-- The rule for embeds is local. -/
theorem isLocal_pluginEmbed? : IsLocal pluginEmbed? := by
  intro cs more seam _
  refine stays_indent?.cut seam fun _ seam => ?_
  have equals : Stays (literal? "=") := stays_literal? rfl
  have opens : Stays (literal? "(") := stays_literal? rfl
  refine equals.cut seam fun _ seam => ?_
  refine (stays_run? spares_isWordChar).cut seam fun {name} _ seam => ?_
  refine opens.cut seam fun {cs} _ seam => ?_
  change Seam cs more at seam
  dsimp only [followedBy]
  by_cases broken : '\n' ∈ cs
  · have stopped := exists_break broken
    rw [takeWhile_append_of_exists stopped, dropWhile_append_of_exists stopped]
    split
    · have dropped : Seam (cs.dropWhile (· != '\n')) more := seam_of_mem_break seam
        (List.dropWhile_suffix _) (mem_dropWhile broken rfl)
      refine Cut.bind dropped.lineEnd?_append fun after _ => .inl rfl
    · exact .none
  · have line : cs.takeWhile (· != '\n') = cs :=
      List.takeWhile_eq_self_iff.2 (bne_of_not_mem_break broken)
    rw [line, if_neg]
    · refine .of_none fun found read => ?_
      split at read
      · rw [dropWhile_append_of_not_mem broken] at read
        obtain ⟨after, ended, read⟩ := Option.bind_eq_some_iff.1 read
        cases read
        obtain ⟨after', ended', shorter⟩ := exists_lineEnd? more
        cases ended.symm.trans ended'
        exact Nat.lt_of_le_of_lt shorter.length_le (length_afterLine_lt seam.nonempty)
      · contradiction
    · intro closed
      have ends := isItemEnd_of_dropEndWhile seam (beq_iff_eq.1 closed)
      revert ends
      decide

/-- The end of a heading is read alike with what follows the seam. -/
theorem headingEnd?_append (seam : Seam cs more) :
    headingEnd? (cs ++ more) = (headingEnd? cs).map (followedBy more) := by
  have marks : Stays (run? (· == '#')) := stays_run? (spares_of_all rfl)
  have stays := stays_gap?.seq marks
  have closing (cs : List Char) : headingEnd? cs =
      (((gap? cs).bind (run? (· == '#'))).bind fun part => gapLineEnd? part.2).or
        (gapLineEnd? cs) := by
    rw [Option.bind_assoc, headingEnd?, Option.orElse_eq_orElse, Option.orElse_eq_or]
    rfl
  rw [closing, closing, stays.same seam, seam.gapLineEnd?_append]
  cases marked : (gap? cs).bind (run? (· == '#')) with
  | none => rfl
  | some part =>
    have seam : Seam part.2 more := stays.left seam marked
    change ((gapLineEnd? (part.2 ++ more)).or _) = _
    rw [seam.gapLineEnd?_append, Option.bind_some, Option.map_or]

/-- A gap has no break, so that the break of its line is behind it. -/
theorem mem_of_gap? {start : List Char} (spaced : gap? cs = some start) (broken : '\n' ∈ cs) :
    '\n' ∈ start := by
  unfold gap? at spaced
  split at spaced
  · split at spaced
    · rename_i c tail isGap
      cases spaced
      rcases List.mem_cons.1 broken with rfl | inside
      · contradiction
      · exact mem_dropWhile inside rfl
    · contradiction
  · contradiction

/-- The rule for headings is local. -/
theorem isLocal_heading? : IsLocal heading? := by
  intro cs more seam begun
  have marks : Stays (run? (· == '#')) := stays_run? (spares_of_all rfl)
  refine cut_of_indent? seam begun (fun {start} seam broken => ?_) fun c tail known => ?_
  · refine marks.cut seam fun {found} marked seam => ?_
    have broken : '\n' ∈ found.2 := by
      obtain ⟨rfl, -⟩ := eq_of_run? marked
      exact mem_dropWhile broken rfl
    obtain ⟨marks, cs⟩ := found
    change Seam cs more at seam
    dsimp only [followedBy]
    split
    · rw [stays_gap?.same seam]
      cases spaced : gap? cs with
      | none => exact Cut.bind seam.lineEnd?_append fun _ _ => .inl rfl
      | some start =>
        have seam : Seam start more := stays_gap?.left seam spaced
        refine Cut.bind_total (cut_upTo? (fun before c after whole clear => ?_)
          (.inr ⟨'\n', ?_, rfl⟩))
          (fun part => (heading marks.length (String.ofList (trim part.1)), part.2)) (fun _ => rfl)
          (fun _ => rfl) fun _ => rfl
        · have later : c :: after <:+ start := ⟨before, whole.symm⟩
          have broken := mem_of_gap? spaced broken
          rw [whole, List.mem_append] at broken
          have inside : '\n' ∈ c :: after := broken.resolve_left fun member =>
            absurd (clear '\n' member) (by decide)
          exact .inl (headingEnd?_append (seam_of_mem_break seam later inside))
        · exact mem_of_gap? spaced broken
    · exact .none
  · simp only [List.mem_cons, List.not_mem_nil, or_false] at known
    rcases known with rfl | rfl | rfl | rfl <;> rfl

/-- The rule for rules across the page is local. -/
theorem isLocal_rule? : IsLocal rule? := by
  intro cs more seam _
  refine stays_indent?.cut seam fun _ seam => ?_
  refine stays_anyRuleMarks?.cut seam fun _ seam => ?_
  exact Cut.bind seam.lineEnd?_append fun _ _ => .inl rfl

/-- The rule for small rules is local. -/
theorem isLocal_minirule? : IsLocal minirule? := by
  intro cs more seam _
  have dashes : Stays (literal? "--") := stays_literal? rfl
  refine stays_indent?.cut seam fun _ seam => ?_
  refine dashes.cut seam fun _ seam => ?_
  exact Cut.bind seam.gapLineEnd?_append fun _ _ => .inl rfl

/-- The rule for pauses is local. -/
theorem isLocal_pause? : IsLocal pause? := by
  intro cs more seam begun
  refine cut_of_indent? seam begun (fun {start} seam broken => ?_) fun c tail known => ?_
  · refine Cut.bind (seam.oneOf?_append (by decide)) fun cs taken => ?_
    have later : '\n' ∈ cs := by
      obtain ⟨word, known, taken⟩ := List.exists_of_findSome?_eq_some taken
      rw [after?_eq_some_iff.1 taken, List.mem_append] at broken
      refine broken.resolve_left ?_
      simp only [List.mem_cons, List.not_mem_nil, or_false] at known
      rcases known with rfl | rfl <;> decide
    have seam := seam_of_mem_break seam (suffix_of_oneOf? taken) later
    exact Cut.bind seam.gapLineEnd?_append fun _ _ => .inl rfl
  · simp only [List.mem_cons, List.not_mem_nil, or_false] at known
    rcases known with rfl | rfl | rfl | rfl <;> rfl

/-- A line and the lines that go on it. -/
theorem cut_goesOn (seam : Seam cs more) {α : Type} (make : List Char → List (List Char) → α) :
    Cut more (some (make (firstLine cs) (spanLines goesOn (afterLine cs)).1,
        (spanLines goesOn (afterLine cs)).2))
      (some (make (firstLine (cs ++ more)) (spanLines goesOn (afterLine (cs ++ more))).1,
        (spanLines goesOn (afterLine (cs ++ more))).2)) := by
  by_cases broken : '\n' ∈ cs
  · rw [firstLine_append_of_mem broken, afterLine_append_of_mem broken]
    exact (cut_spanLines settled_goesOn (seam.afterLine broken)).map
      (fun part => (make (firstLine cs) part.1, part.2)) (fun _ => rfl) fun _ => rfl
  · rw [afterLine_append_of_not_mem broken]
    refine .beyond (Nat.lt_of_le_of_lt ?_ (length_afterLine_lt seam.nonempty))
    exact (spanLines_suffix goesOn (afterLine more)).length_le

/-- The rule for items of lists is local: a line at the seam is one of the item, or one of what
follows. -/
theorem isLocal_listItem? : IsLocal listItem? := by
  intro cs more seam _
  refine stays_listStart?.cut seam fun {found} _ seam => ?_
  exact cut_goesOn seam fun first others => listItem found.1 (String.ofList (trimEnd first ++
    others.flatMap fun line => '\n' :: trim (lineBody line)))

/-- The rule for paragraphs is local. What follows the seam may belong to the paragraph, and then
some of it is taken. -/
theorem isLocal_paragraph? : IsLocal paragraph? := by
  intro cs more seam _
  have some : cs.isEmpty = false := by simpa using seam.ne_nil
  have some' : (cs ++ more).isEmpty = false := by simp [seam.ne_nil]
  simp only [paragraph?, some, some', Bool.false_eq_true, if_false]
  exact cut_goesOn seam fun first others =>
    text (String.ofList (trim (first ++ '\n' :: others.flatten)))

/-- No letter of a word ends an item, in any case. -/
theorem stays_foldedWord? {word : List Char}
    (clear : ∀ w ∈ word, ['\n', ':', '%', '\x7d'].all (!sameFold w ·) = true) :
    Stays (foldedWord? word) := by
  have step {w : Char} {word cs more : List Char} {c : Char}
      (clear : ∀ d ∈ w :: word, ['\n', ':', '%', '\x7d'].all (!sameFold d ·) = true)
      (seam : Seam (c :: cs) more) (same : sameFold w c = true) : Seam cs more := by
    exact seam.of_cons ((spares_of_all (clear w List.mem_cons_self)).isItemEnd_eq same)
  constructor
  · intro cs more seam
    induction word generalizing cs with
    | nil => rfl
    | cons w word later =>
      obtain ⟨c, cs, rfl⟩ := List.exists_cons_of_ne_nil seam.ne_nil
      simp only [List.cons_append, foldedWord?]
      split
      · rename_i same
        exact later (fun d member => clear d (List.mem_cons_of_mem w member)) (step clear seam same)
      · rfl
  · intro cs more found seam taken
    induction word generalizing cs with
    | nil =>
      cases taken
      exact seam
    | cons w word later =>
      obtain ⟨c, cs, rfl⟩ := List.exists_cons_of_ne_nil seam.ne_nil
      simp only [foldedWord?] at taken
      split at taken
      · rename_i same
        exact later (fun d member => clear d (List.mem_cons_of_mem w member)) (step clear seam same)
          taken
      · contradiction

/-- Whether a text begins a block of HTML is told before the seam. -/
theorem startsHtml_append (seam : Seam cs more) : startsHtml (cs ++ more) = startsHtml cs := by
  have opens : Stays (literal? "<") := stays_literal? rfl
  have comments : Stays (literal? "!--") := stays_literal? rfl
  have closes : Stays (literal? "/") := stays_literal? rfl
  have clear : (blockElements.all fun element => element.toList.all fun w =>
      ['\n', ':', '%', '\x7d'].all (!sameFold w ·)) = true := by decide +kernel
  unfold startsHtml
  rw [(stays_indent?.seq opens).same seam]
  cases opened : (indent? cs).bind (literal? "<") with
  | none => rfl
  | some tag =>
    have seam : Seam tag more := (stays_indent?.seq opens).left seam opened
    have name := closes.getD seam
    change ((literal? "!--" (tag ++ more)).isSome || blockElements.any fun element =>
      (foldedWord? element.toList ((literal? "/" (tag ++ more)).getD (tag ++ more))).any
        elementEnds) = _
    rw [comments.same seam, Option.isSome_map, name.1]
    have each : ∀ element ∈ blockElements,
        (foldedWord? element.toList ((literal? "/" tag).getD tag ++ more)).any elementEnds =
          (foldedWord? element.toList ((literal? "/" tag).getD tag)).any elementEnds := by
      intro element known
      have stays := stays_foldedWord? (List.all_eq_true.1 (List.all_eq_true.1 clear element known))
      rw [stays.same name.2]
      cases named : foldedWord? element.toList ((literal? "/" tag).getD tag) with
      | none => rfl
      | some after =>
        have seam : Seam after more := stays.left name.2 named
        obtain ⟨c, after, rfl⟩ := List.exists_cons_of_ne_nil seam.ne_nil
        rfl
    refine congrArg _ (Bool.eq_iff_iff.2 ?_)
    simp only [List.any_eq_true]
    exact exists_congr fun element => and_congr_right fun known => by rw [each element known]

/-- The rule for blocks of HTML is local. -/
theorem isLocal_html? : IsLocal html? := by
  intro cs more seam _
  unfold html?
  rw [startsHtml_append seam]
  split
  · exact (cut_spanLines (p := fun line => !allBlank line) settled_notBlank (.inr seam)).map
      (fun part => (html (String.ofList (trimEnd part.1.flatten)), part.2)) (fun _ => rfl)
        fun _ => rfl
  · exact .none

/-- Empty lines at the seam are taken alike, or with some of those that follow. -/
theorem cut_blank? (seam : Seam cs more) : Cut more (blank? cs) (blank? (cs ++ more)) :=
  (cut_emptyLines? seam).map (fun rest => (Item.blank, rest)) (fun _ => rfl) fun _ => rfl

end Rules

end LectureDeck.Block
