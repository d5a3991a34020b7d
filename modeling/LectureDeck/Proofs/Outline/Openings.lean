import LectureDeck.Proofs.Outline.ItemEnds
import LectureDeck.Proofs.Outline.Lines
import LectureDeck.Proofs.Outline.LocalItems

/-!
# How items begin

Apart from indented code and paragraphs, each rule takes something only where one of its own marks
follows an indentation (`LectureDeck.Block.OpensWith`). So the first character of a text rules out
most rules, and the rule that takes the first item is known when those before it are ruled out
(`LectureDeck.Block.next?_eq_of_first`). In turn, a heading and what a comment tells of the file are
known to be taken by their own rules (`LectureDeck.Block.heading?_of_next?`,
`LectureDeck.Block.metadata?_of_next?`).
-/

namespace LectureDeck

def Block.isHeading : Block → Bool
  | .heading .. => true
  | _ => false

/-- A block tells something of the file. -/
def Block.isMetadata : Block → Bool
  | .metadata .. => true
  | _ => false

namespace Block

open LectureDeck.Text

section Indentation

variable {cs rest : List Char} {c : Char}

/-- An indentation is of at most three spaces. -/
theorem exists_spaces_of_indent? (indented : indent? cs = some rest) :
    ∃ few ≤ 3, cs = List.replicate few ' ' ++ rest ∧ rest.head? ≠ some ' ' := by
  unfold indent? at indented
  split at indented
  · rename_i few
    cases indented
    have spaces : cs.takeWhile (· == ' ') =
        List.replicate (cs.takeWhile (· == ' ')).length ' ' :=
      List.eq_replicate_of_mem fun c member => by simpa using List.mem_takeWhile_imp member
    refine ⟨_, few, ?_, fun same => ?_⟩
    · rw [← spaces, List.takeWhile_append_dropWhile]
    · have stops := List.head?_dropWhile_not (· == ' ') cs
      rw [same] at stops
      contradiction
  · contradiction

/-- Up to three spaces are an indentation. -/
theorem indent?_spaces {few : Nat} (atMost : few ≤ 3) (other : rest.head? ≠ some ' ') :
    indent? (List.replicate few ' ' ++ rest) = some rest := by
  have spaces : ∀ c ∈ List.replicate few ' ', (c == ' ') = true := fun c member =>
    beq_iff_eq.2 (List.mem_replicate.1 member).2
  have stops : ∀ c ∈ rest.head?, (c == ' ') = false := fun c first =>
    beq_eq_false_iff_ne.2 fun same => other (same ▸ first)
  have span := span_append spaces stops
  rw [indent?, span.1, span.2, List.length_replicate, if_pos atMost]

/-- No empty line is passed where something stands on the first line. -/
theorem afterEmptyLines?_of_mem {body : List Char} (unbroken : '\n' ∉ body)
    (stands : ∃ c ∈ body, isGap c = false) (found : Option (List Char)) (more : List Char) :
    afterEmptyLines? found (body ++ more) = found := by
  obtain ⟨c, member, other⟩ := stands
  induction body with
  | nil => exact absurd member List.not_mem_nil
  | cons d body later =>
    obtain ⟨first, clear⟩ := not_or.1 (mt List.mem_cons.2 unbroken)
    rw [List.cons_append, afterEmptyLines?, if_neg (Ne.symm first)]
    split
    · rename_i gap
      refine later clear ((List.mem_cons.1 member).resolve_left ?_)
      rintro rfl
      rw [other] at gap
      contradiction
    · rfl

/-- Where something stands on the first line, there is no empty line before it. -/
theorem emptyLines?_eq_none (indented : indent? cs = some (c :: rest)) (mark : isGap c = false)
    (other : c ≠ '\n') : emptyLines? cs = none := by
  obtain ⟨few, -, rfl, -⟩ := exists_spaces_of_indent? indented
  have unbroken : '\n' ∉ List.replicate few ' ' ++ [c] := by
    simpa [eq_comm] using other
  have after := afterEmptyLines?_of_mem unbroken ⟨c, by simp, mark⟩ none rest
  rw [List.append_assoc, List.singleton_append] at after
  rw [emptyLines?, after]
  simp [mark]

/-- Indented code begins with a wider indentation. -/
theorem spanLines_indented (indented : indent? cs = some (c :: rest)) (other : c ≠ '\t') :
    (spanLines (fun line => (indentedLine? line).isSome) cs).1 = [] := by
  obtain ⟨few, atMost, rfl, space⟩ := exists_spaces_of_indent? indented
  have nonempty : List.replicate few ' ' ++ c :: rest ≠ [] := by simp
  obtain ⟨first, others, some, ⟨tail, begins⟩, whole⟩ := exists_lines_cons nonempty
  have refused : (indentedLine? first).isSome = false := by
    have stops : ¬(c == ' ') = true := by simpa using space
    have spaces : (first ++ tail).takeWhile (· == ' ') = List.replicate few ' ' := by
      rw [begins, List.takeWhile_append_of_pos (by simp),
        List.takeWhile_cons_of_neg (p := (· == ' ')) stops, List.append_nil]
    have fewer : (first.takeWhile (· == ' ')).length ≤
        ((first ++ tail).takeWhile (· == ' ')).length := by
      rw [List.takeWhile_append]
      split
      · exact (List.takeWhile_sublist _).length_le.trans (by simp)
      · exact le_rfl
    have head : first.head? ≠ Option.some '\t' := by
      have same : (first ++ tail).head? = first.head? := List.head?_append_of_ne_nil first some
      rw [← same, begins]
      cases few with
      | zero => simpa using other
      | succ few => simp [List.replicate_succ]
    rw [spaces, List.length_replicate] at fewer
    rw [isSome_indentedLine?, decide_eq_false (by omega), Bool.false_or]
    simpa using head
  rw [spanLines_eq, whole, List.takeWhile_cons_of_neg (by simp [refused])]

/-- What is indented by less than four spaces and begins with no tab is no indented code. -/
theorem indentedCode?_eq_none (indented : indent? cs = some (c :: rest)) (other : c ≠ '\t') :
    indentedCode? cs = none := by
  simp only [indentedCode?, spanLines_indented indented other, List.isEmpty_nil, if_true]

end Indentation

/-! ### The marks of rules -/

section Marks

variable {α β : Type} {cs : List Char} {marks : List Char} {first : Char}

/-- What a reader takes begins, after an indentation, with one of some marks. -/
def OpensWith (marks : List Char) (rule : List Char → Option α) : Prop :=
  ∀ (cs : List Char) (found : α), rule cs = some found →
    ∃ c tail, indent? cs = some (c :: tail) ∧ c ∈ marks

/-- None of some marks follows the indentation of a text. -/
def Lacks (marks cs : List Char) : Prop := ∀ c tail, indent? cs = some (c :: tail) → c ∉ marks

/-- A text lacks all marks but the one that its indentation is followed by. -/
theorem lacks_of_indent? {c : Char} {tail : List Char} (indented : indent? cs = some (c :: tail))
    (other : c ∉ marks) : Lacks marks cs := by
  intro d rest same
  rw [indented] at same
  obtain ⟨rfl, -⟩ := List.cons.inj (Option.some.inj same)
  exact other

/-- A text that lacks some marks lacks fewer of them. -/
theorem Lacks.of_subset {fewer : List Char} (lacks : Lacks marks cs) (among : fewer ⊆ marks) :
    Lacks fewer cs := fun c tail indented member => lacks c tail indented (among member)

/-- Where its marks are lacking, a reader takes nothing. -/
theorem OpensWith.eq_none {rule : List Char → Option α} (opens : OpensWith marks rule)
    (lacks : Lacks marks cs) : rule cs = none := by
  refine Option.eq_none_iff_forall_ne_some.2 fun found read => ?_
  obtain ⟨c, tail, indented, mark⟩ := opens cs found read
  exact lacks c tail indented mark

/-- What is made of a taken part does not change where it begins. -/
theorem OpensWith.map {rule : List Char → Option α} (opens : OpensWith marks rule) (make : α → β) :
    OpensWith marks fun cs => (rule cs).map make := by
  intro cs found read
  obtain ⟨part, read, -⟩ := Option.map_eq_some_iff.1 read
  exact opens cs part read

/-- A literal after the indentation. -/
theorem opensWith_literal {word : String} (begins : word.toList.head? = some first)
    (next : List Char → List Char → Option α) : OpensWith [first] fun cs =>
      (indent? cs).bind fun start => (literal? word start).bind (next start) := by
  intro cs found read
  obtain ⟨start, indented, read⟩ := Option.bind_eq_some_iff.1 read
  obtain ⟨rest, marked, -⟩ := Option.bind_eq_some_iff.1 read
  obtain ⟨tail, rfl⟩ := List.head?_eq_some_iff.1 (head?_of_literal? begins marked)
  exact ⟨first, tail, indented, List.mem_singleton_self first⟩

/-- One of some literals after the indentation. -/
theorem opensWith_oneOf {words : List String}
    (begin : ∀ word ∈ words, word.toList.head?.any marks.contains = true)
    (next : List Char → List Char → Option α) : OpensWith marks fun cs =>
      (indent? cs).bind fun start => (oneOf? words start).bind (next start) := by
  intro cs found read
  obtain ⟨start, indented, read⟩ := Option.bind_eq_some_iff.1 read
  obtain ⟨rest, marked, -⟩ := Option.bind_eq_some_iff.1 read
  obtain ⟨word, known, marked⟩ := List.exists_of_findSome?_eq_some marked
  obtain ⟨c, begins, mark⟩ := (Option.any_eq_true _ _).1 (begin word known)
  obtain ⟨tail, rfl⟩ := List.head?_eq_some_iff.1 (head?_of_literal? begins marked)
  exact ⟨c, tail, indented, List.contains_iff_mem.1 mark⟩

/-- Fenced code begins with its fence. -/
theorem opensWith_fencedCode? : OpensWith ['\x60', '~'] fencedCode? := by
  intro cs found read
  unfold fencedCode? at read
  split at read
  · rename_i mark start indented
    split at read
    · rename_i fence
      exact ⟨mark, start, indented, by simpa using fence⟩
    · contradiction
  · contradiction

/-- Mathematics set apart begins with a dollar sign. -/
theorem opensWith_displayMath? : OpensWith ['$'] displayMath? := opensWith_literal rfl _

/-- An environment begins with a backslash. -/
theorem opensWith_environment? : OpensWith ['\\'] environment? := opensWith_literal rfl _

/-- The definition of a plugin begins like a tag. -/
theorem opensWith_pluginDefinition? : OpensWith ['<'] pluginDefinition? := opensWith_literal rfl _

/-- A comment with metadata begins like a tag. -/
theorem opensWith_metadata? : OpensWith ['<'] metadata? := opensWith_literal rfl _

/-- A directive begins with the first letter of one of its words. -/
theorem opensWith_directive? {words : List String}
    (begin : ∀ word ∈ words, word.toList.head?.any marks.contains = true) :
    OpensWith marks (directive? words) := opensWith_oneOf begin _

/-- An answer begins with its letter. -/
theorem opensWith_answer? : OpensWith ['A'] answer? := (opensWith_directive? (by decide)).map _

/-- A line to discuss begins with its letter. -/
theorem opensWith_discuss? : OpensWith ['D'] discuss? := (opensWith_directive? (by decide)).map _

/-- Tags begin with the letter of either of their words. -/
theorem opensWith_tags? : OpensWith ['T', 'C'] tags? := (opensWith_directive? (by decide)).map _

/-- A hint begins with its letter. -/
theorem opensWith_hint? : OpensWith ['H'] hint? := opensWith_literal rfl _

/-- What a word opens begins with the first letter of the word. -/
theorem opensWith_openingWord? {word : String} (begins : word.toList.head? = some first) :
    OpensWith [first] (openingWord? word) := opensWith_literal begins _

/-- Notes begin with their letter. -/
theorem opensWith_notes? : OpensWith ['N'] notes? := (opensWith_openingWord? rfl).map _

/-- Extra material begins with its letter. -/
theorem opensWith_extra? : OpensWith ['E'] extra? := (opensWith_openingWord? rfl).map _

/-- The embed of a plugin begins with an equals sign. -/
theorem opensWith_pluginEmbed? : OpensWith ['='] pluginEmbed? := opensWith_literal rfl _

/-- A heading begins with a number sign. -/
theorem opensWith_heading? : OpensWith ['#'] heading? := by
  intro cs found read
  obtain ⟨start, indented, read⟩ := Option.bind_eq_some_iff.1 read
  obtain ⟨part, marked, -⟩ := Option.bind_eq_some_iff.1 read
  obtain ⟨c, tail, rfl, mark⟩ := head?_of_run? marked
  exact ⟨c, tail, indented, by simpa using mark⟩

/-- A rule across the page begins with one of its marks. -/
theorem opensWith_rule? : OpensWith ['-', '*', '_'] rule? := by
  intro cs found read
  obtain ⟨start, indented, read⟩ := Option.bind_eq_some_iff.1 read
  obtain ⟨rest, marked, -⟩ := Option.bind_eq_some_iff.1 read
  obtain ⟨mark, known, marked⟩ := List.exists_of_findSome?_eq_some marked
  simp only [ruleMarks?] at marked
  split at marked
  · rename_i begins
    obtain ⟨tail, rfl⟩ := List.head?_eq_some_iff.1 (beq_iff_eq.1 (Bool.and_eq_true_iff.1 begins).1)
    exact ⟨mark, tail, indented, known⟩
  · contradiction

/-- A small rule begins with a dash. -/
theorem opensWith_minirule? : OpensWith ['-'] minirule? := opensWith_literal rfl _

/-- A pause begins with a dot, or with the letter of its word. -/
theorem opensWith_pause? : OpensWith ['.', 'P'] pause? := opensWith_oneOf (by decide) _

/-- The target of a link begins with a bracket. -/
theorem opensWith_linkTarget? : OpensWith ['['] linkTarget? := by
  intro cs found read
  obtain ⟨start, indented⟩ := exists_indent?_of_linkTarget? read
  exact ⟨'[', start, indented, List.mem_singleton_self _⟩

/-- A block of HTML begins like a tag. -/
theorem opensWith_html? : OpensWith ['<'] html? := by
  intro cs found read
  unfold html? at read
  split at read
  · rename_i starts
    unfold startsHtml at starts
    split at starts
    · contradiction
    · rename_i rest tag
      obtain ⟨start, indented, tag⟩ := Option.bind_eq_some_iff.1 tag
      obtain ⟨tail, rfl⟩ := List.head?_eq_some_iff.1 (head?_of_literal? rfl tag)
      exact ⟨'<', tail, indented, List.mem_singleton_self _⟩
  · contradiction

/-- The characters with which the blocks of the first rules begin after an indentation, but for
indented code. -/
def firstMarks : List Char :=
  ['\x60', '~', '$', '\\', '<', 'A', 'D', 'T', 'C', 'H', 'N', 'E', '=', '#', '-', '*',
    '_', '.', 'P']

/-- None of the first rules takes anything where their marks are lacking and no indented code
begins. -/
theorem eq_none_of_mem_firstRules (lacks : Lacks firstMarks cs)
    (unindented : indentedCode? cs = none)
    {rule : List Char → Option Found} (known : rule ∈ firstRules) : rule cs = none := by
  simp only [firstRules, List.mem_cons, List.not_mem_nil, or_false] at known
  rcases known with rfl | rfl | rfl | rfl | rfl | rfl | rfl | rfl | rfl | rfl | rfl | rfl | rfl |
    rfl | rfl | rfl | rfl
  · exact opensWith_fencedCode?.eq_none (lacks.of_subset (by decide))
  · exact unindented
  · exact opensWith_displayMath?.eq_none (lacks.of_subset (by decide))
  · exact opensWith_environment?.eq_none (lacks.of_subset (by decide))
  · exact opensWith_pluginDefinition?.eq_none (lacks.of_subset (by decide))
  · exact opensWith_metadata?.eq_none (lacks.of_subset (by decide))
  · exact opensWith_answer?.eq_none (lacks.of_subset (by decide))
  · exact opensWith_discuss?.eq_none (lacks.of_subset (by decide))
  · exact opensWith_tags?.eq_none (lacks.of_subset (by decide))
  · exact opensWith_hint?.eq_none (lacks.of_subset (by decide))
  · exact opensWith_notes?.eq_none (lacks.of_subset (by decide))
  · exact opensWith_extra?.eq_none (lacks.of_subset (by decide))
  · exact opensWith_pluginEmbed?.eq_none (lacks.of_subset (by decide))
  · exact opensWith_heading?.eq_none (lacks.of_subset (by decide))
  · exact opensWith_rule?.eq_none (lacks.of_subset (by decide))
  · exact opensWith_minirule?.eq_none (lacks.of_subset (by decide))
  · exact opensWith_pause?.eq_none (lacks.of_subset (by decide))

/-- The item at the start of a text is what the first rule that takes something takes. -/
theorem next?_eq_of_first {rule : List Char → Option (Item × List Char)}
    {before after : List (List Char → Option (Item × List Char))} {found : Item × List Char}
    (order : rules = before ++ rule :: after) (passed : ∀ earlier ∈ before, earlier cs = none)
    (taken : rule cs = some found) (shorter : found.2.length < cs.length) :
    next? cs = some found := by
  have missed : before.findSome? (fun rule =>
      (rule cs).filter fun found => found.2.length < cs.length) = none := by
    refine List.findSome?_eq_none_iff.2 fun earlier known => ?_
    rw [passed earlier known]
    rfl
  rw [next?, order, List.findSome?_append, missed, Option.none_or, List.findSome?_cons, taken,
    Option.filter_some, if_pos (decide_eq_true shorter)]

end Marks

/-! ### What rules take -/

/-- What is taken, if anything is, is a block of some kind. -/
def Makes (kind : Block → Bool) (taken : Option Found) : Prop :=
  ∀ found ∈ taken, kind found.1 = true

section Kinds

variable {α : Type} {kind : Block → Bool} {cs rest : List Char}

/-- What takes nothing makes blocks of any kind. -/
theorem Makes.none : Makes kind none := fun _ taken => nomatch taken

/-- What takes a block of some kind makes such blocks. -/
theorem Makes.some {found : Found} (made : kind found.1 = true) : Makes kind (some found) :=
  fun _ taken => Option.mem_some_iff.1 taken ▸ made

/-- What is read before does not matter if each way to go on makes blocks of some kind. -/
theorem Makes.bind {read : Option α} {next : α → Option Found}
    (each : ∀ part, Makes kind (next part)) : Makes kind (read.bind next) := by
  intro found taken
  obtain ⟨part, -, taken⟩ := Option.bind_eq_some_iff.1 taken
  exact each part found taken

/-- What is taken is a block of some kind if it is made to one. -/
theorem Makes.map {read : Option α} {make : α → Found} (each : ∀ part, kind (make part).1 = true) :
    Makes kind (read.map make) := by
  intro found taken
  obtain ⟨part, -, rfl⟩ := Option.map_eq_some_iff.1 taken
  exact each part

/-- A choice makes blocks of some kind if both of its ways do. -/
theorem Makes.ite {condition : Prop} [Decidable condition] {first second : Option Found}
    (taken : Makes kind first) (other : Makes kind second) :
    Makes kind (if condition then first else second) := by
  split
  · exact taken
  · exact other

/-- The rule for metadata makes metadata. -/
theorem makes_metadata? (cs : List Char) : Makes isMetadata (metadata? cs) :=
  .bind fun _ => .bind fun _ => .bind fun _ => .bind fun _ => .some rfl

/-- The rule for headings makes headings. -/
theorem makes_heading? (cs : List Char) : Makes isHeading (heading? cs) := by
  refine .bind fun _ => .bind fun part => .ite ?_ .none
  dsimp only
  split
  · exact .bind fun _ => .some rfl
  · exact .bind fun _ => .some rfl

/-- Headings and what comments tell of the file are taken by rules of their own. -/
theorem makes_of_mem_rules {rule : List Char → Option Found}
    (known : rule ∈ firstRules ++ lastRules) (heading : rule ≠ heading?)
    (metadata : rule ≠ metadata?) (cs : List Char) :
    Makes (fun block => !block.isHeading && !block.isMetadata) (rule cs) := by
  simp only [firstRules, lastRules, List.cons_append, List.nil_append, List.mem_cons,
    List.not_mem_nil, or_false] at known
  rcases known with rfl | rfl | rfl | rfl | rfl | rfl | rfl | rfl | rfl | rfl | rfl | rfl | rfl |
    rfl | rfl | rfl | rfl | rfl | rfl | rfl
  · unfold fencedCode?
    split
    · exact .ite (.ite (.some rfl) .none) .none
    · exact .none
  · exact .ite .none (.some rfl)
  · exact .bind fun _ => .bind fun _ => .bind fun _ => .some rfl
  · exact .bind fun _ => .bind fun _ => .bind fun _ => .bind fun _ => .bind fun _ => .some rfl
  · exact .bind fun _ => .bind fun _ => .bind fun _ => .bind fun _ => .bind fun _ => .bind fun _ =>
      .bind fun _ => .bind fun _ => .some rfl
  · exact absurd rfl metadata
  · exact .map fun _ => rfl
  · exact .map fun _ => rfl
  · exact .map fun _ => rfl
  · refine .bind fun _ => .bind fun after => ?_
    dsimp only
    split <;> exact .some rfl
  · exact .map fun _ => rfl
  · exact .map fun _ => rfl
  · exact .bind fun _ => .bind fun _ => .bind fun _ => .bind fun _ =>
      .ite (.bind fun _ => .some rfl) .none
  · exact absurd rfl heading
  · exact .bind fun _ => .bind fun _ => .bind fun _ => .some rfl
  · exact .bind fun _ => .bind fun _ => .bind fun _ => .some rfl
  · exact .bind fun _ => .bind fun _ => .bind fun _ => .some rfl
  · exact .bind fun _ => .some rfl
  · exact .ite (.some rfl) .none
  · exact .ite .none (.some rfl)

/-- Which rules an item may come from. -/
def Item.Origin (cs rest : List Char) : Item → Prop
  | .blank => emptyLines? cs = some rest
  | .block token => ∃ rule ∈ firstRules ++ lastRules, rule cs = some (token, rest)
  | .quote content => quote? cs = some (.quote content, rest)
  | .linkTarget key target => linkTarget? cs = some ((key, target), rest)

/-- The next item of a text comes from one of the rules, which is told by its kind. -/
theorem origin_of_next? {item : Item} (taken : next? cs = some (item, rest)) :
    item.Origin cs rest := by
  obtain ⟨rule, known, read⟩ := List.exists_of_findSome?_eq_some taken
  have read := (Option.filter_eq_some_iff.1 read).1
  simp only [rules, List.mem_append, List.mem_cons, List.mem_map, List.not_mem_nil,
    or_false] at known
  rcases known with ((rfl | ⟨rule, known, rfl⟩) | rfl | rfl) | ⟨rule, known, rfl⟩
  · obtain ⟨after, empty, same⟩ := Option.map_eq_some_iff.1 read
    cases same
    exact empty
  · obtain ⟨found, made, same⟩ := Option.map_eq_some_iff.1 read
    cases same
    exact ⟨rule, List.mem_append_left _ known, made⟩
  · obtain ⟨found, given, same⟩ := Option.map_eq_some_iff.1 read
    cases same
    exact given
  · obtain ⟨first, -, same⟩ := Option.map_eq_some_iff.1 read
    cases same
    exact read
  · obtain ⟨found, made, same⟩ := Option.map_eq_some_iff.1 read
    cases same
    exact ⟨rule, List.mem_append_right _ known, made⟩

/-- Headings are taken by their own rule. -/
theorem heading?_of_next? {level : Nat} {content : String}
    (taken : next? cs = some (.block (.heading level content), rest)) :
    heading? cs = some (.heading level content, rest) := by
  obtain ⟨rule, known, read⟩ := origin_of_next? taken
  by_contra other
  have heading : rule ≠ heading? := fun same => other (same ▸ read)
  have metadata : rule ≠ metadata? := by
    rintro rfl
    exact nomatch makes_metadata? cs _ read
  exact nomatch makes_of_mem_rules known heading metadata cs _ read

/-- What a comment tells of the file is taken by its own rule. -/
theorem metadata?_of_next? {name content : String}
    (taken : next? cs = some (.block (.metadata name content), rest)) :
    metadata? cs = some (.metadata name content, rest) := by
  obtain ⟨rule, known, read⟩ := origin_of_next? taken
  by_contra other
  have metadata : rule ≠ metadata? := fun same => other (same ▸ read)
  have heading : rule ≠ heading? := by
    rintro rfl
    exact nomatch makes_heading? cs _ read
  exact nomatch makes_of_mem_rules known heading metadata cs _ read

end Kinds

end Block

end LectureDeck
