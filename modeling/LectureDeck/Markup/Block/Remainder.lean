import LectureDeck.Markup.Block.Rules

/-!
# What rules leave

Each rule leaves an end of the text that it is given, and no rule takes the edge of a quote alone,
or a plugin or a comment whose name is no word. A quote holds fewer quotation marks than the lines
it was read from, so that reading the quotes in quotes ends.
-/

namespace LectureDeck

/-- A block is the start or the end of a quote. -/
def Block.isQuoteEdge : Block → Bool
  | .quoteStart => true
  | .quoteEnd => true
  | _ => false

/-- A rule may take the block: it is no edge of a quote, and a plugin that it embeds is named by a
word, as a comment is. -/
def Block.isTaken : Block → Bool
  | .quoteStart => false
  | .quoteEnd => false
  | .pluginEmbed name _ => name.toList.all Text.isWordChar
  | .metadata name _ => name.toList.all Text.isWordChar
  | _ => true

/-- What a rule may take is no edge of a quote. -/
theorem Block.isQuoteEdge_of_isTaken {block : Block} (taken : block.isTaken = true) :
    block.isQuoteEdge = false := by
  cases block <;> first | rfl | contradiction

namespace Block

open LectureDeck.Text

/-- A rule leaves an end of the text, and takes a block that a rule may take. -/
def IsSound (rule : List Char → Option Found) : Prop :=
  ∀ {cs : List Char} {found : Found}, rule cs = some found →
    found.2 <:+ cs ∧ found.1.isTaken = true

/-- Fenced code is sound. -/
theorem isSound_fencedCode? : IsSound fencedCode? := by
  intro cs found read
  unfold fencedCode? at read
  split at read
  · rename_i mark start indented
    split at read
    · simp only at read
      split at read
      · cases read
        refine ⟨?_, rfl⟩
        have fence : (mark :: start).dropWhile (· == mark) <:+ cs :=
          (List.dropWhile_suffix _).trans (suffix_of_indent? indented)
        exact (afterLine_suffix _).trans
          ((spanLines_suffix _ _).trans ((afterLine_suffix _).trans fence))
      · contradiction
    · contradiction
  · contradiction

/-- Indented code is sound. -/
theorem isSound_indentedCode? : IsSound indentedCode? := by
  intro cs found read
  simp only [indentedCode?] at read
  split at read
  · contradiction
  · cases read
    exact ⟨spanLines_suffix _ cs, rfl⟩

/-- Mathematics set apart is sound. -/
theorem isSound_displayMath? : IsSound displayMath? := by
  intro cs found read
  obtain ⟨start, indented, read⟩ := Option.bind_eq_some_iff.1 read
  obtain ⟨body, opened, read⟩ := Option.bind_eq_some_iff.1 read
  obtain ⟨part, closed, read⟩ := Option.bind_eq_some_iff.1 read
  cases read
  refine ⟨?_, rfl⟩
  have inside : part.2 <:+ body := by
    refine suffix_of_upTo? (fun ended => ?_) closed
    obtain ⟨after, marked, ended⟩ := Option.bind_eq_some_iff.1 ended
    exact (suffix_of_gapLineEnd? ended).trans (suffix_of_literal? marked)
  exact inside.trans ((suffix_of_literal? opened).trans (suffix_of_indent? indented))

/-- The name of an environment leaves an end of the text. -/
theorem suffix_of_environmentName? {cs : List Char} {part : List Char × List Char}
    (read : environmentName? cs = some part) : part.2 <:+ cs := by
  obtain ⟨⟨letters, after⟩, taken, read⟩ := Option.bind_eq_some_iff.1 read
  have inside : after <:+ cs := suffix_of_run? taken
  simp only at read
  split at read
  · cases read
    exact (List.suffix_cons _ _).trans inside
  · cases read
    exact inside

/-- An environment is sound: what it leaves stands behind the end of the same name. -/
theorem isSound_environment? : IsSound environment? := by
  intro cs found read
  obtain ⟨start, indented, read⟩ := Option.bind_eq_some_iff.1 read
  obtain ⟨begun, opened, read⟩ := Option.bind_eq_some_iff.1 read
  obtain ⟨name, named, read⟩ := Option.bind_eq_some_iff.1 read
  obtain ⟨body, closed, read⟩ := Option.bind_eq_some_iff.1 read
  obtain ⟨tail, ended, read⟩ := Option.bind_eq_some_iff.1 read
  cases read
  refine ⟨?_, rfl⟩
  have lines : (emptyLines? (skipGap tail.2)).getD (skipGap tail.2) <:+ tail.2 := by
    cases empty : emptyLines? (skipGap tail.2) with
    | none => exact skipGap_suffix _
    | some rest => exact (suffix_of_emptyLines? empty).trans (skipGap_suffix _)
  have named := (suffix_of_environmentName? named).trans (suffix_of_literal? opened)
  exact lines.trans ((suffix_of_cutAt? ended).trans
    ((suffix_of_literal? closed).trans (named.trans (suffix_of_indent? indented))))

/-- The definition of a plugin ends with the end of a line. -/
theorem exists_line_of_definitionEnd? {cs rest : List Char} (read : definitionEnd? cs = some rest) :
    ∃ broken line, literal? "\n" cs = some broken ∧ line <:+ broken ∧
      gapLineEnd? line = some rest := by
  obtain ⟨broken, opened, read⟩ := Option.bind_eq_some_iff.1 read
  obtain ⟨brace, closed, read⟩ := Option.bind_eq_some_iff.1 read
  obtain ⟨tag, tagged, read⟩ := Option.bind_eq_some_iff.1 read
  have closed := (suffix_of_literal? closed).trans (skipGap_suffix broken)
  have tagged := (suffix_of_literal? tagged).trans (skipGap_suffix brace)
  exact ⟨broken, tag, opened, tagged.trans closed, read⟩

/-- The end of a definition of a plugin leaves an end of the text. -/
theorem suffix_of_definitionEnd? {cs rest : List Char} (read : definitionEnd? cs = some rest) :
    rest <:+ cs := by
  obtain ⟨broken, line, opened, later, ended⟩ := exists_line_of_definitionEnd? read
  exact (suffix_of_gapLineEnd? ended).trans (later.trans (suffix_of_literal? opened))

/-- The content of a plugin's definition, up to its end. -/
theorem exists_content_of_pluginDefinition? {cs : List Char} {found : Found}
    (read : pluginDefinition? cs = some found) : ∃ name content part, content <:+ cs ∧
      upTo? never definitionEnd? content = some part ∧
      found = (pluginDefinition name (String.ofList part.1), part.2) := by
  obtain ⟨start, indented, read⟩ := Option.bind_eq_some_iff.1 read
  obtain ⟨script, opened, read⟩ := Option.bind_eq_some_iff.1 read
  obtain ⟨typed, declared, read⟩ := Option.bind_eq_some_iff.1 read
  obtain ⟨tag, closed, read⟩ := Option.bind_eq_some_iff.1 read
  obtain ⟨name, named, read⟩ := Option.bind_eq_some_iff.1 read
  obtain ⟨sign, equal, read⟩ := Option.bind_eq_some_iff.1 read
  obtain ⟨brace, braced, read⟩ := Option.bind_eq_some_iff.1 read
  obtain ⟨part, ended, read⟩ := Option.bind_eq_some_iff.1 read
  cases read
  have script := (suffix_of_literal? opened).trans (suffix_of_indent? indented)
  have typed := (suffix_of_literal? declared).trans ((List.dropWhile_suffix _).trans script)
  have tag := (suffix_of_literal? closed).trans ((skipGap_suffix _).trans typed)
  have line := (getD_literal?_suffix "\n" _).trans ((skipGap_suffix _).trans tag)
  have name := (suffix_of_run? named).trans ((skipGap_suffix _).trans line)
  have sign := (suffix_of_literal? equal).trans ((skipGap_suffix _).trans name)
  have brace := (suffix_of_literal? braced).trans ((skipGap_suffix _).trans sign)
  exact ⟨_, _, part, brace, ended, rfl⟩

/-- The definition of a plugin is sound. -/
theorem isSound_pluginDefinition? : IsSound pluginDefinition? := by
  intro cs found read
  obtain ⟨name, content, part, later, ended, rfl⟩ := exists_content_of_pluginDefinition? read
  exact ⟨(suffix_of_upTo? suffix_of_definitionEnd? ended).trans later, rfl⟩

/-- A run of the characters of words is a word. -/
theorem isWord_of_run? {cs : List Char} {name : List Char × List Char}
    (named : run? isWordChar cs = some name) :
    (String.ofList name.1).toList.all isWordChar = true := by
  rw [String.toList_ofList, (eq_of_run? named).1]
  exact List.all_takeWhile

/-- The content of a comment, up to the end of its line. -/
theorem exists_content_of_metadata? {cs : List Char} {found : Found}
    (read : metadata? cs = some found) : ∃ name content part, content <:+ cs ∧
      upTo? isLineBreak (fun cs => (literal? "-->" (skipGap cs)).bind gapLineEnd?) content =
        some part ∧ name.toList.all isWordChar = true ∧
      found = (metadata name (String.ofList part.1), part.2) := by
  obtain ⟨start, indented, read⟩ := Option.bind_eq_some_iff.1 read
  obtain ⟨begun, opened, read⟩ := Option.bind_eq_some_iff.1 read
  obtain ⟨name, named, read⟩ := Option.bind_eq_some_iff.1 read
  obtain ⟨part, closed, read⟩ := Option.bind_eq_some_iff.1 read
  cases read
  have after := (skipGap_suffix _).trans (suffix_of_run? named)
  exact ⟨_, _, part, after.trans ((suffix_of_literal? opened).trans (suffix_of_indent? indented)),
    closed, isWord_of_run? named, rfl⟩

/-- A comment with metadata is sound, and its name is a word. -/
theorem isSound_metadata? : IsSound metadata? := by
  intro cs found read
  obtain ⟨name, content, part, later, closed, word, rfl⟩ := exists_content_of_metadata? read
  refine ⟨List.IsSuffix.trans (suffix_of_upTo? (fun {cs _} ended => ?_) closed) later, word⟩
  obtain ⟨after, marked, ended⟩ := Option.bind_eq_some_iff.1 ended
  exact (suffix_of_gapLineEnd? ended).trans ((suffix_of_literal? marked).trans (skipGap_suffix cs))

/-- A directive leaves an end of the text, behind what it says. -/
theorem suffix_of_directive? {words : List String} {cs : List Char} {part : String × List Char}
    (read : directive? words cs = some part) : part.2 <:+ cs := by
  obtain ⟨start, indented, read⟩ := Option.bind_eq_some_iff.1 read
  obtain ⟨line, begun, read⟩ := Option.bind_eq_some_iff.1 read
  obtain ⟨after, ended, read⟩ := Option.bind_eq_some_iff.1 read
  cases read
  exact (suffix_of_lineEnd? ended).trans ((List.dropWhile_suffix _).trans
    ((suffix_of_oneOf? begun).trans (suffix_of_indent? indented)))

/-- A directive makes a block of what stands on its line. -/
theorem isSound_directive? {words : List String} {make : String → Block}
    (inside : ∀ content, (make content).isTaken = true) :
    IsSound fun cs => (directive? words cs).map fun part => (make part.1, part.2) := by
  intro cs found read
  obtain ⟨part, line, rfl⟩ := Option.map_eq_some_iff.1 read
  exact ⟨suffix_of_directive? line, inside part.1⟩

/-- The word that opens a part of a slide leaves an end of the text. -/
theorem suffix_of_openingWord? {word : String} {cs rest : List Char}
    (read : openingWord? word cs = some rest) : rest <:+ cs := by
  obtain ⟨start, indented, read⟩ := Option.bind_eq_some_iff.1 read
  obtain ⟨after, begun, read⟩ := Option.bind_eq_some_iff.1 read
  cases read
  exact (List.dropWhile_suffix _).trans ((skipGap_suffix _).trans
    ((suffix_of_literal? begun).trans (suffix_of_indent? indented)))

/-- A word alone makes a block. -/
theorem isSound_openingWord? {word : String} {block : Block} (inside : block.isTaken = true) :
    IsSound fun cs => (openingWord? word cs).map fun rest => (block, rest) := by
  intro cs found read
  obtain ⟨rest, begun, rfl⟩ := Option.map_eq_some_iff.1 read
  exact ⟨suffix_of_openingWord? begun, inside⟩

/-- A percentage ends with its sign and a gap. -/
theorem exists_sign_of_percentage? {cs : List Char} {part : List Char × List Char}
    (read : percentage? cs = some part) :
    ∃ sign after, sign <:+ cs ∧ literal? "%" sign = some after ∧ part.2 = skipGap after := by
  obtain ⟨⟨whole, after⟩, counted, read⟩ := Option.bind_eq_some_iff.1 read
  have whole : after <:+ cs := suffix_of_run? counted
  obtain ⟨rest, marked, read⟩ := Option.bind_eq_some_iff.1 read
  cases read
  refine ⟨_, rest, (skipGap_suffix _).trans ?_, marked, rfl⟩
  split
  · exact (List.dropWhile_suffix _).trans ((List.suffix_cons _ _).trans whole)
  · exact whole

/-- A percentage leaves an end of the text. -/
theorem suffix_of_percentage? {cs : List Char} {part : List Char × List Char}
    (read : percentage? cs = some part) : part.2 <:+ cs := by
  obtain ⟨sign, after, later, marked, same⟩ := exists_sign_of_percentage? read
  rw [same]
  exact (skipGap_suffix after).trans ((suffix_of_literal? marked).trans later)

/-- A hint is sound, with its penalty or without one. -/
theorem isSound_hint? : IsSound hint? := by
  intro cs found read
  obtain ⟨start, indented, read⟩ := Option.bind_eq_some_iff.1 read
  obtain ⟨after, begun, read⟩ := Option.bind_eq_some_iff.1 read
  have begun := (skipGap_suffix _).trans
    ((suffix_of_literal? begun).trans (suffix_of_indent? indented))
  simp only at read
  split at read
  · rename_i digits rest penalty
    cases read
    exact ⟨(List.dropWhile_suffix _).trans ((suffix_of_percentage? penalty).trans begun), rfl⟩
  · cases read
    exact ⟨(List.dropWhile_suffix _).trans begun, rfl⟩

/-- The embed of a plugin is sound, and its name is a word. -/
theorem isSound_pluginEmbed? : IsSound pluginEmbed? := by
  intro cs found read
  obtain ⟨start, indented, read⟩ := Option.bind_eq_some_iff.1 read
  obtain ⟨sign, equal, read⟩ := Option.bind_eq_some_iff.1 read
  obtain ⟨name, named, read⟩ := Option.bind_eq_some_iff.1 read
  obtain ⟨arguments, opened, read⟩ := Option.bind_eq_some_iff.1 read
  simp only at read
  split at read
  · obtain ⟨after, ended, read⟩ := Option.bind_eq_some_iff.1 read
    cases read
    refine ⟨?_, isWord_of_run? named⟩
    have line := (suffix_of_lineEnd? ended).trans (List.dropWhile_suffix _)
    have name := (suffix_of_run? named).trans
      ((suffix_of_literal? equal).trans (suffix_of_indent? indented))
    exact line.trans ((suffix_of_literal? opened).trans name)
  · contradiction

/-- A heading ends with the end of its line, whether marks stand before it or not. -/
theorem exists_line_of_headingEnd? {cs rest : List Char} (read : headingEnd? cs = some rest) :
    ∃ line, line <:+ cs ∧ gapLineEnd? line = some rest := by
  simp only [headingEnd?, Option.orElse_eq_orElse, Option.orElse_eq_or,
    Option.or_eq_some_iff] at read
  rcases read with closed | ⟨_, ended⟩
  · obtain ⟨marks, spaced, closed⟩ := Option.bind_eq_some_iff.1 closed
    obtain ⟨part, marked, closed⟩ := Option.bind_eq_some_iff.1 closed
    exact ⟨part.2, (suffix_of_run? marked).trans (suffix_of_gap? spaced), closed⟩
  · exact ⟨cs, List.suffix_refl cs, ended⟩

/-- The end of a heading leaves an end of the text. -/
theorem suffix_of_headingEnd? {cs rest : List Char} (read : headingEnd? cs = some rest) :
    rest <:+ cs := by
  obtain ⟨line, later, ended⟩ := exists_line_of_headingEnd? read
  exact (suffix_of_gapLineEnd? ended).trans later

/-- A heading is sound, whether or not number signs stand behind it too. -/
theorem isSound_heading? : IsSound heading? := by
  intro cs found read
  obtain ⟨start, indented, read⟩ := Option.bind_eq_some_iff.1 read
  obtain ⟨⟨marks, after⟩, marked, read⟩ := Option.bind_eq_some_iff.1 read
  have marked : after <:+ cs := (suffix_of_run? marked).trans (suffix_of_indent? indented)
  simp only at read
  split at read
  · split at read
    · rename_i content spaced
      obtain ⟨part, ended, read⟩ := Option.bind_eq_some_iff.1 read
      cases read
      exact ⟨(suffix_of_upTo? suffix_of_headingEnd? ended).trans
        ((suffix_of_gap? spaced).trans marked), rfl⟩
    · obtain ⟨rest, ended, read⟩ := Option.bind_eq_some_iff.1 read
      cases read
      exact ⟨(suffix_of_lineEnd? ended).trans marked, rfl⟩
  · contradiction

/-- A rule across the page is sound. -/
theorem isSound_rule? : IsSound rule? := by
  intro cs found read
  obtain ⟨start, indented, read⟩ := Option.bind_eq_some_iff.1 read
  obtain ⟨after, marked, read⟩ := Option.bind_eq_some_iff.1 read
  obtain ⟨rest, ended, read⟩ := Option.bind_eq_some_iff.1 read
  cases read
  exact ⟨(suffix_of_lineEnd? ended).trans
    ((suffix_of_anyRuleMarks? marked).trans (suffix_of_indent? indented)), rfl⟩

/-- A small rule is sound. -/
theorem isSound_minirule? : IsSound minirule? := by
  intro cs found read
  obtain ⟨start, indented, read⟩ := Option.bind_eq_some_iff.1 read
  obtain ⟨after, marked, read⟩ := Option.bind_eq_some_iff.1 read
  obtain ⟨rest, ended, read⟩ := Option.bind_eq_some_iff.1 read
  cases read
  exact ⟨(suffix_of_gapLineEnd? ended).trans
    ((suffix_of_literal? marked).trans (suffix_of_indent? indented)), rfl⟩

/-- A pause is sound. -/
theorem isSound_pause? : IsSound pause? := by
  intro cs found read
  obtain ⟨start, indented, read⟩ := Option.bind_eq_some_iff.1 read
  obtain ⟨after, marked, read⟩ := Option.bind_eq_some_iff.1 read
  obtain ⟨rest, ended, read⟩ := Option.bind_eq_some_iff.1 read
  cases read
  exact ⟨(suffix_of_gapLineEnd? ended).trans
    ((suffix_of_oneOf? marked).trans (suffix_of_indent? indented)), rfl⟩

/-- An item of a list is sound. -/
theorem isSound_listItem? : IsSound listItem? := by
  intro cs found read
  obtain ⟨start, marked, read⟩ := Option.bind_eq_some_iff.1 read
  cases read
  exact ⟨(spanLines_suffix _ _).trans ((afterLine_suffix _).trans (suffix_of_listStart? marked)),
    rfl⟩

/-- A block of HTML is sound. -/
theorem isSound_html? : IsSound html? := by
  intro cs found read
  unfold html? at read
  split at read
  · cases read
    exact ⟨spanLines_suffix _ cs, rfl⟩
  · contradiction

/-- A paragraph is sound. -/
theorem isSound_paragraph? : IsSound paragraph? := by
  intro cs found read
  unfold paragraph? at read
  split at read
  · contradiction
  · cases read
    exact ⟨(spanLines_suffix _ _).trans (afterLine_suffix cs), rfl⟩

/-- Every rule that is tried before the targets of links and quotes is sound. -/
theorem isSound_of_mem_firstRules {rule : List Char → Option Found} (known : rule ∈ firstRules) :
    IsSound rule := by
  simp only [firstRules, List.mem_cons, List.not_mem_nil, or_false] at known
  rcases known with rfl | rfl | rfl | rfl | rfl | rfl | rfl | rfl | rfl | rfl | rfl | rfl | rfl |
    rfl | rfl | rfl | rfl
  · exact isSound_fencedCode?
  · exact isSound_indentedCode?
  · exact isSound_displayMath?
  · exact isSound_environment?
  · exact isSound_pluginDefinition?
  · exact isSound_metadata?
  · exact isSound_directive? fun _ => rfl
  · exact isSound_directive? fun _ => rfl
  · exact isSound_directive? fun _ => rfl
  · exact isSound_hint?
  · exact isSound_openingWord? rfl
  · exact isSound_openingWord? rfl
  · exact isSound_pluginEmbed?
  · exact isSound_heading?
  · exact isSound_rule?
  · exact isSound_minirule?
  · exact isSound_pause?

/-- Every rule that is tried after quotes is sound. -/
theorem isSound_of_mem_lastRules {rule : List Char → Option Found} (known : rule ∈ lastRules) :
    IsSound rule := by
  simp only [lastRules, List.mem_cons, List.not_mem_nil, or_false] at known
  rcases known with rfl | rfl | rfl
  · exact isSound_listItem?
  · exact isSound_html?
  · exact isSound_paragraph?

/-! ### Quotes -/

/-- Dropping characters from the beginning of a text adds no marks to it. -/
theorem count_dropWhile_le (mark : Char) (p : Char → Bool) (cs : List Char) :
    (cs.dropWhile p).count mark ≤ cs.count mark :=
  (List.dropWhile_suffix p).sublist.count_le mark

/-- A literal takes as many marks from a text as it has. -/
theorem count_literal? (mark : Char) {literal : String} {cs rest : List Char}
    (read : literal? literal cs = some rest) :
    cs.count mark = literal.toList.count mark + rest.count mark := by
  rw [after?_eq_some_iff.1 read, List.count_append]

/-- The first line and what follows it hold no other marks than the text. -/
theorem count_firstLine_add_afterLine_le (mark : Char) (cs : List Char) :
    (firstLine cs).count mark + (afterLine cs).count mark ≤ cs.count mark := by
  have parts := congrArg (List.count mark)
    (List.takeWhile_append_dropWhile (p := (· != '\n')) (l := cs))
  rw [List.count_append] at parts
  have fewer := (List.drop_suffix 1 (cs.dropWhile (· != '\n'))).sublist.count_le mark
  unfold firstLine afterLine
  omega

/-- A line has no fewer marks than the part of it before its break. -/
theorem count_lineBody_le (mark : Char) (line : List Char) :
    (lineBody line).count mark ≤ line.count mark := by
  unfold lineBody dropEndWhile
  rw [List.count_reverse]
  exact Nat.le_trans (count_dropWhile_le mark _ _) (Nat.le_of_eq List.count_reverse)

/-- The mark of a quoted line is a quotation mark. -/
theorem count_lt_of_quoteMark? {cs content : List Char} (read : quoteMark? cs = some content) :
    content.count '>' < cs.count '>' := by
  obtain ⟨inner, indented, read⟩ := Option.bind_eq_some_iff.1 read
  obtain ⟨rest, marked, read⟩ := Option.bind_eq_some_iff.1 read
  cases read
  have fewer := (suffix_of_indent? indented).sublist.count_le '>'
  have one := count_literal? '>' marked
  have spaced : ((literal? " " rest).getD rest).count '>' ≤ rest.count '>' := by
    cases space : literal? " " rest with
    | none => exact Nat.le_refl _
    | some after =>
      rw [count_literal? '>' space]
      exact Nat.le_add_left _ _
  have mark : ">".toList.count '>' = 1 := by decide
  omega

/-- A break between two lines is no quotation mark. -/
theorem count_append_break (first second : List Char) :
    (first ++ '\n' :: second).count '>' = first.count '>' + second.count '>' := by
  rw [List.count_append, List.count_cons_of_ne (by decide)]

/-- The lines of a quote, without the marks before them, and those behind it have no more quotation
marks than all of them. -/
theorem count_quotedLines_le (afterBlank : Bool) (lines : List (List Char)) :
    (quotedLines afterBlank lines).1.count '>' +
        (quotedLines afterBlank lines).2.flatten.count '>' ≤ lines.flatten.count '>' := by
  fun_induction quotedLines afterBlank lines with
  | case1 => exact Nat.le_refl _
  | case2 afterBlank line rest body content marked part fewer =>
    have first := count_lt_of_quoteMark? marked
    have whole : body.count '>' ≤ _ := count_lineBody_le '>' line
    change part.1.count '>' + part.2.flatten.count '>' ≤ _ at fewer
    change _ + part.2.flatten.count '>' ≤ _
    rw [count_append_break, List.flatten_cons, List.count_append]
    omega
  | case3 afterBlank line rest body _ _ part fewer =>
    have whole : body.count '>' ≤ _ := count_lineBody_le '>' line
    change part.1.count '>' + part.2.flatten.count '>' ≤ _ at fewer
    change _ + part.2.flatten.count '>' ≤ _
    rw [count_append_break, List.flatten_cons, List.count_append]
    omega
  | case4 => exact Nat.le_of_eq (Nat.zero_add _)

/-- A quote holds fewer quotation marks than the lines that it was read from. -/
theorem count_lt_of_quote? {cs content rest : List Char}
    (read : quote? cs = some (.quote content, rest)) :
    content.count '>' + rest.count '>' < cs.count '>' := by
  obtain ⟨first, marked, same⟩ := Option.map_eq_some_iff.1 read
  cases same
  have fewer := count_lt_of_quoteMark? marked
  have later := count_quotedLines_le (allBlank first) (lines (afterLine cs))
  have whole := count_firstLine_add_afterLine_le '>' cs
  rw [flatten_lines] at later
  rw [count_append_break]
  omega

/-- What a quote leaves are lines at the end of those that it was read from. -/
theorem quotedLines_suffix (afterBlank : Bool) (lines : List (List Char)) :
    (quotedLines afterBlank lines).2 <:+ lines := by
  fun_induction quotedLines afterBlank lines with
  | case1 => exact List.suffix_refl _
  | case2 _ line rest _ _ _ _ shorter => exact shorter.trans (List.suffix_cons line rest)
  | case3 _ line rest _ _ _ _ shorter => exact shorter.trans (List.suffix_cons line rest)
  | case4 => exact List.suffix_refl _

/-- Lines at the end of lines make up an end of the text. -/
theorem flatten_suffix {first second : List (List Char)} (later : first <:+ second) :
    first.flatten <:+ second.flatten := by
  obtain ⟨earlier, rfl⟩ := later
  exact ⟨earlier.flatten, List.flatten_append.symm⟩

/-- A quote leaves an end of the text. -/
theorem suffix_of_quote? {cs : List Char} {found : Item × List Char}
    (read : quote? cs = some found) :
    found.2 <:+ cs := by
  obtain ⟨first, marked, rfl⟩ := Option.map_eq_some_iff.1 read
  have later := flatten_suffix (quotedLines_suffix (allBlank first) (lines (afterLine cs)))
  rw [flatten_lines] at later
  exact later.trans (afterLine_suffix cs)

/-! ### Link targets -/

/-- An address leaves an end of the text. -/
theorem urlPart_suffix (cs : List Char) : (urlPart cs).2 <:+ cs := by
  simp only [urlPart]
  split
  · split
    · exact List.suffix_cons _ _
    · exact (List.dropWhile_suffix _).trans (List.suffix_cons _ _)
  · exact List.dropWhile_suffix _

/-- The address of a target leaves an end of the text. -/
theorem suffix_of_targetUrl? {cs : List Char} {part : List Char × List Char}
    (read : targetUrl? cs = some part) : part.2 <:+ cs := by
  simp only [targetUrl?] at read
  split at read
  · contradiction
  · cases read
    exact (getD_literal?_suffix ">" _).trans (urlPart_suffix cs)

/-- A title ends with a mark and the end of its line. -/
theorem exists_line_of_targetTitleEnd? {cs rest : List Char}
    (read : targetTitleEnd? cs = some rest) :
    ∃ mark line, cs = mark :: line ∧ gapLineEnd? line = some rest := by
  unfold targetTitleEnd? at read
  split at read
  · split at read
    · exact ⟨_, _, rfl, read⟩
    · contradiction
  · contradiction

/-- The end of a title leaves an end of the text. -/
theorem suffix_of_targetTitleEnd? {cs rest : List Char} (read : targetTitleEnd? cs = some rest) :
    rest <:+ cs := by
  obtain ⟨mark, line, rfl, ended⟩ := exists_line_of_targetTitleEnd? read
  exact (suffix_of_gapLineEnd? ended).trans (List.suffix_cons mark line)

/-- What stands in the title of a link's target, up to its end. -/
theorem exists_content_of_targetTitle? {cs : List Char} {part : List Char × List Char}
    (read : targetTitle? cs = some part) :
    ∃ content, content <:+ cs ∧ someUpTo? isLineBreak targetTitleEnd? content = some part := by
  obtain ⟨start, spaced, read⟩ := Option.bind_eq_some_iff.1 read
  have spaced := suffix_of_gap? spaced
  split at read
  · split at read
    · exact ⟨_, (List.suffix_cons _ _).trans spaced, read⟩
    · contradiction
  · contradiction

/-- The title of a target leaves an end of the text. -/
theorem suffix_of_targetTitle? {cs : List Char} {part : List Char × List Char}
    (read : targetTitle? cs = some part) : part.2 <:+ cs := by
  obtain ⟨content, later, ended⟩ := exists_content_of_targetTitle? read
  exact (suffix_of_someUpTo? suffix_of_targetTitleEnd? ended).trans later

/-- The definition of a link ends after its address with a title or with the end of the line. -/
theorem exists_address_of_linkTarget? {cs : List Char} {found : (String × LinkTarget) × List Char}
    (read : linkTarget? cs = some found) : ∃ after, after <:+ cs ∧
      ((∃ title, targetTitle? after = some (title, found.2)) ∨
        gapLineEnd? after = some found.2) := by
  obtain ⟨start, indented, read⟩ := Option.bind_eq_some_iff.1 read
  obtain ⟨inner, opened, read⟩ := Option.bind_eq_some_iff.1 read
  obtain ⟨key, keyed, read⟩ := Option.bind_eq_some_iff.1 read
  obtain ⟨after, closed, read⟩ := Option.bind_eq_some_iff.1 read
  obtain ⟨url, addressed, read⟩ := Option.bind_eq_some_iff.1 read
  have key := (suffix_of_run? keyed).trans
    ((suffix_of_literal? opened).trans (suffix_of_indent? indented))
  have url := (suffix_of_targetUrl? addressed).trans
    ((skipGap_suffix _).trans ((suffix_of_literal? closed).trans key))
  refine ⟨_, url, ?_⟩
  simp only at read
  split at read
  · rename_i title rest titled
    cases read
    exact .inl ⟨title, titled⟩
  · obtain ⟨rest, ended, same⟩ := Option.map_eq_some_iff.1 read
    cases same
    exact .inr ended

/-- The target of a link leaves an end of the text. -/
theorem suffix_of_linkTarget? {cs : List Char} {found : (String × LinkTarget) × List Char}
    (read : linkTarget? cs = some found) : found.2 <:+ cs := by
  obtain ⟨after, later, ⟨title, titled⟩ | ended⟩ := exists_address_of_linkTarget? read
  · exact (suffix_of_targetTitle? titled).trans later
  · exact (suffix_of_gapLineEnd? ended).trans later

/-! ### All rules -/

/-- What may be taken from a text: blocks that a rule may take, and quotes with fewer quotation
marks than the text. -/
def Item.FitsIn (cs : List Char) : Item → Prop
  | .block token => token.isTaken = true
  | .quote content => content.count '>' < cs.count '>'
  | .blank | .linkTarget .. => True

/-- What a sound rule takes fits in the text that it is taken from. -/
theorem fitsIn_of_asItem {rule : List Char → Option Found} (sound : IsSound rule) {cs : List Char}
    {found : Item × List Char} (read : asItem rule cs = some found) :
    found.2 <:+ cs ∧ found.1.FitsIn cs := by
  obtain ⟨token, taken, rfl⟩ := Option.map_eq_some_iff.1 read
  exact sound taken

/-- What any rule takes fits in the text: the rules for blocks are sound, and quotes have fewer
marks than their lines. -/
theorem fitsIn_of_mem_rules {rule : List Char → Option (Item × List Char)} (known : rule ∈ rules)
    {cs : List Char} {found : Item × List Char} (read : rule cs = some found) :
    found.2 <:+ cs ∧ found.1.FitsIn cs := by
  simp only [rules, List.mem_append, List.mem_cons, List.mem_map, List.not_mem_nil,
    or_false] at known
  rcases known with ((rfl | ⟨rule, known, rfl⟩) | rfl | rfl) | ⟨rule, known, rfl⟩
  · obtain ⟨rest, empty, rfl⟩ := Option.map_eq_some_iff.1 read
    exact ⟨suffix_of_emptyLines? empty, trivial⟩
  · exact fitsIn_of_asItem (isSound_of_mem_firstRules known) read
  · obtain ⟨target, given, rfl⟩ := Option.map_eq_some_iff.1 read
    exact ⟨suffix_of_linkTarget? given, trivial⟩
  · obtain ⟨first, _, rfl⟩ := Option.map_eq_some_iff.1 read
    have fewer := count_lt_of_quote? read
    exact ⟨suffix_of_quote? read, Nat.lt_of_le_of_lt (Nat.le_add_right _ _) fewer⟩
  · exact fitsIn_of_asItem (isSound_of_mem_lastRules known) read

/-- The next item of a text fits in it, and leaves an end of it. -/
theorem fitsIn_of_next? {cs : List Char} {found : Item × List Char}
    (taken : next? cs = some found) :
    found.2 <:+ cs ∧ found.1.FitsIn cs := by
  obtain ⟨rule, known, read⟩ := List.exists_of_findSome?_eq_some taken
  exact fitsIn_of_mem_rules known (Option.filter_eq_some_iff.1 read).1

/-- The next item of a text leaves less than the text. -/
theorem length_lt_of_next? {cs : List Char} {found : Item × List Char}
    (taken : next? cs = some found) : found.2.length < cs.length := by
  obtain ⟨rule, known, read⟩ := List.exists_of_findSome?_eq_some taken
  exact of_decide_eq_true (Option.filter_eq_some_iff.1 read).2

/-- A quote holds fewer quotation marks than the text. -/
theorem count_lt_of_next? {cs content rest : List Char}
    (taken : next? cs = some (.quote content, rest)) : content.count '>' < cs.count '>' :=
  (fitsIn_of_next? taken).2

/-- What follows an item is smaller than the text: it holds no more quotation marks, and it is
shorter. -/
theorem lex_lt_of_next? {cs : List Char} {found : Item × List Char}
    (taken : next? cs = some found) :
    Prod.Lex (· < ·) (· < ·) (found.2.count '>', found.2.length) (cs.count '>', cs.length) := by
  have fewer := (fitsIn_of_next? taken).1.sublist.count_le '>'
  rcases Nat.lt_or_eq_of_le fewer with less | same
  · exact Prod.Lex.left _ _ less
  · rw [same]
    exact Prod.Lex.right _ (length_lt_of_next? taken)

/-- The rule for paragraphs takes at least the first line of a text. -/
theorem length_lt_of_paragraph? {cs : List Char} {found : Found}
    (read : paragraph? cs = some found) :
    found.2.length < cs.length := by
  unfold paragraph? at read
  split at read
  · contradiction
  · rename_i nonempty
    cases read
    have rest := (spanLines_suffix goesOn (afterLine cs)).length_le
    exact Nat.lt_of_le_of_lt rest
      (length_afterLine_lt fun isEmpty => nonempty (List.isEmpty_iff.2 isEmpty))

/-- Some rule takes something from every text that is not empty. -/
theorem exists_next? {cs : List Char} (nonempty : cs ≠ []) : ∃ found, next? cs = some found := by
  apply Option.isSome_iff_exists.1
  rw [next?, List.findSome?_isSome_iff]
  refine ⟨asItem paragraph?, by simp [rules, lastRules], ?_⟩
  cases read : paragraph? cs with
  | none => simp [paragraph?, nonempty] at read
  | some found => simp [asItem, read, length_lt_of_paragraph? read]

end Block

end LectureDeck
