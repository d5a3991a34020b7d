import LectureDeck.Proofs.Outline.BlankLines
import LectureDeck.Proofs.Outline.Comments
import LectureDeck.Source

/-!
# The header with the defaults of a file

The options that a file sets by default stand in a comment at its start. That comment is looked for
in two ways: when the defaults are read
(`LectureDeck.DefaultsHeader.defaultsHeader?_eq_some_iff`), and when the source is read block by
block (`LectureDeck.DefaultsHeader.head?_blocksOf_eq_iff`). Both find the same comment if it stands
alone on the first line that is not empty
(`LectureDeck.DefaultsHeader.exists_ofSource_defaults`).
-/

namespace LectureDeck

open LectureDeck.Text

/-- A comment with the defaults of a file, where it stands in a source. -/
@[ext]
structure DefaultsHeader where
  before : List Char
  /-- What stands between the name of the comment and its content. -/
  gap : List Char
  content : List Char
  /-- What stands between the content and the end of the comment. -/
  pad : List Char
  after : List Char
deriving DecidableEq, Repr

namespace DefaultsHeader

/-- The comment and what follows it. -/
def comment (header : DefaultsHeader) : List Char :=
  "<!--slidoc-defaults".toList ++
    (header.gap ++ (header.content ++ (header.pad ++ ("-->".toList ++ header.after))))

/-- The source in which the header stands. -/
def text (header : DefaultsHeader) : List Char := header.before ++ header.comment

/-- The content is on one line, and is told from the gaps around it. -/
structure IsProper (header : DefaultsHeader) : Prop where
  gap : ∀ c ∈ header.gap, isGap c = true
  pad : ∀ c ∈ header.pad, isGap c = true
  nonempty : header.content ≠ []
  unbroken : '\n' ∉ header.content
  start : ∀ c ∈ header.content.head?, isGap c = false
  stop : ∀ c ∈ header.content.getLast?, isGap c = false

/-- Nothing but a gap follows the comment on its line. -/
def EndsLine (header : DefaultsHeader) : Prop := ∀ c ∈ (skipGap header.after).head?, c = '\n'

/-- The header is read for the options that it sets: nothing stands before it but what is blank, a
gap comes before the content, and the first mark that closes a comment ends it. -/
structure IsApplied (header : DefaultsHeader) : Prop extends header.IsProper where
  blank : allBlank header.before = true
  apart : header.gap ≠ []
  first : ¬"-->".toList <:+: header.content

variable {header : DefaultsHeader} {cs d rest : List Char}

/-- The comment of a header begins like a tag. -/
theorem head?_comment (header : DefaultsHeader) : header.comment.head? = some '<' := rfl

/-- What is true of the angle bracket is true of the first character of the comment. -/
theorem of_mem_head?_comment {p : Char → Prop} (holds : p '<') :
    ∀ c ∈ header.comment.head?, p c := by
  rintro c ⟨⟩
  exact holds

/-- The comment of a header is not empty. -/
theorem comment_ne_nil (header : DefaultsHeader) : header.comment ≠ [] := List.cons_ne_nil '<' _

/-- The content of a proper header is not empty, so that its first character is the first of what
follows the gap. -/
theorem IsProper.head?_content (proper : header.IsProper) (more : List Char) :
    (header.content ++ more).head? = header.content.head? :=
  List.head?_append_of_ne_nil _ proper.nonempty

/-- The content of a proper header begins with no gap. -/
theorem IsProper.isGap_of_head? (proper : header.IsProper) :
    ∀ c ∈ (header.content ++ (header.pad ++ ("-->".toList ++ header.after))).head?,
      isGap c = false := by
  rw [proper.head?_content]
  exact proper.start

/-- What follows a proper header is shorter than the text. -/
theorem IsProper.length_after_lt (proper : header.IsProper) :
    header.after.length < header.text.length := by
  have inner : header.after <:+ header.pad ++ ("-->".toList ++ header.after) :=
    (List.suffix_append _ _).trans (List.suffix_append _ _)
  have outer : header.content ++ (header.pad ++ ("-->".toList ++ header.after)) <:+ header.text :=
    (List.suffix_append _ _).trans ((List.suffix_append _ _).trans (List.suffix_append _ _))
  calc header.after.length
    _ ≤ (header.pad ++ ("-->".toList ++ header.after)).length := inner.length_le
    _ < header.content.length + (header.pad ++ ("-->".toList ++ header.after)).length :=
      Nat.lt_add_of_pos_left (List.length_pos_iff.2 proper.nonempty)
    _ = (header.content ++ (header.pad ++ ("-->".toList ++ header.after))).length :=
      List.length_append.symm
    _ ≤ header.text.length := outer.length_le

/-- The end of a header is read as a gap and the end of a comment. -/
theorem headerEnd?_eq : Source.headerEnd? =
    fun cs => (literal? "-->" (skipGap cs)).bind Option.some :=
  funext fun _ => (Option.bind_fun_some _).symm

/-- The comment is the first that is not blank. -/
theorem span_text (blank : allBlank header.before = true) :
    header.text.takeWhile isBlank = header.before ∧ trimStart header.text = header.comment :=
  span_append (List.all_eq_true.1 blank) (of_mem_head?_comment rfl)

/-- Which header is read for the options that it sets. -/
theorem defaultsHeader?_eq_some_iff (nonempty : d ≠ []) : Source.defaultsHeader? cs = some d ↔
    ∃ header : DefaultsHeader, header.IsApplied ∧ header.text = cs ∧ header.content = d := by
  constructor
  · intro read
    obtain ⟨rest, named, read⟩ := Option.bind_eq_some_iff.1 read
    obtain ⟨start, spaced, read⟩ := Option.bind_eq_some_iff.1 read
    obtain ⟨⟨content, found⟩, closed, read⟩ := Option.bind_eq_some_iff.1 read
    obtain rfl := Option.some.inj read
    rw [headerEnd?_eq] at closed
    obtain ⟨gap, apart, rfl, gaps, ahead⟩ := gap?_eq_some_iff.1 spaced
    obtain ⟨pad, after, rfl, pads, -, unbroken, stop, first⟩ := upTo?_comment_iff.1 closed
    rw [List.head?_append_of_ne_nil _ nonempty] at ahead
    refine ⟨⟨cs.takeWhile isBlank, gap, content, pad, after⟩,
      ⟨⟨gaps, pads, nonempty, unbroken, ahead, stop⟩, ?_, apart, ?_⟩, ?_, rfl⟩
    · exact List.all_eq_true.2 fun c member => List.mem_takeWhile_imp member
    · rintro ⟨inner, more, same⟩
      exact nomatch first inner more (same.symm.trans (List.append_assoc ..))
    · have whole := List.takeWhile_append_dropWhile (p := isBlank) (l := cs)
      rw [← trimStart, after?_eq_some_iff.1 named] at whole
      exact whole
  · rintro ⟨header, applied, rfl, rfl⟩
    have named : literal? "<!--slidoc-defaults" header.comment = some _ := after?_eq_some_iff.2 rfl
    have spaced := gap?_eq_some_iff.2 ⟨header.gap, applied.apart, rfl, applied.gap,
      applied.isGap_of_head?⟩
    have closed := upTo?_comment_iff.2 ⟨header.pad, header.after, rfl, applied.pad, rfl,
      applied.unbroken, applied.stop, fun inner more same =>
        absurd ⟨inner, more, (List.append_assoc ..).trans same.symm⟩ applied.first⟩
    rw [← headerEnd?_eq] at closed
    rw [← (span_text applied.blank).2] at named
    exact Option.bind_eq_some_iff.2 ⟨_, named, Option.bind_eq_some_iff.2 ⟨_, spaced,
      Option.bind_eq_some_iff.2 ⟨_, closed, rfl⟩⟩⟩

/-- The name of the comment is a name that comments may have. -/
theorem toList_defaults :
    "<!--slidoc-defaults".toList = "<!--slidoc-".toList ++ "defaults".toList :=
  rfl

/-- The comment of a header is written like any other comment that tells something of the file. -/
theorem comment_eq (header : DefaultsHeader) : header.comment = "<!--slidoc-".toList ++
    ("defaults".toList ++
      (header.gap ++ (header.content ++ (header.pad ++ ("-->".toList ++ header.after))))) :=
  (congrArg (· ++ _) toList_defaults).trans (List.append_assoc ..)

/-- The name of the comment ends before its content. -/
def IsNamed (header : DefaultsHeader) : Prop :=
  header.gap = [] → ∀ c ∈ header.content.head?, isWordChar c = false

/-- Between the content of a proper header and its end the line is not broken. -/
theorem IsProper.not_mem_pad (proper : header.IsProper) : '\n' ∉ header.pad := fun inside =>
  absurd (proper.pad _ inside) (by decide)

/-- What the name of the comment is followed by is no part of it. -/
theorem IsProper.isWordChar_of_head? (proper : header.IsProper) (named : header.IsNamed)
    (more : List Char) :
    ∀ c ∈ (header.gap ++ (header.content ++ more)).head?, isWordChar c = false := by
  intro c first
  cases gap : header.gap with
  | nil =>
    rw [gap, List.nil_append, proper.head?_content] at first
    exact named gap c first
  | cons g later =>
    have known := proper.gap g (gap ▸ List.mem_cons_self)
    rw [gap] at first
    obtain rfl : g = c := Option.some.inj first
    rcases isGap_iff.1 known with rfl | rfl <;> decide

/-- A header is indented by up to three spaces. -/
theorem indent?_text (indented : ∃ few ≤ 3, header.before = List.replicate few ' ') :
    indent? header.text = some header.comment := by
  obtain ⟨few, atMost, before⟩ := indented
  rw [text, before]
  exact Block.indent?_spaces atMost (by rw [head?_comment]; decide)

/-- Which header is taken as a block that tells something of the file. -/
theorem metadata?_eq_some_iff (nonempty : d ≠ []) :
    Block.metadata? cs = some (.metadata "defaults" (String.ofList d), rest) ↔
    ∃ header : DefaultsHeader, (∃ few ≤ 3, header.before = List.replicate few ' ') ∧
      header.IsProper ∧ header.IsNamed ∧ gapLineEnd? header.after = some rest ∧ header.text = cs ∧
      header.content = d := by
  constructor
  · intro read
    obtain ⟨start, indented, read⟩ := Option.bind_eq_some_iff.1 read
    obtain ⟨begun, opened, read⟩ := Option.bind_eq_some_iff.1 read
    obtain ⟨⟨name, left⟩, named, read⟩ := Option.bind_eq_some_iff.1 read
    obtain ⟨⟨content, found⟩, closed, read⟩ := Option.bind_eq_some_iff.1 read
    obtain ⟨made, rfl⟩ := Prod.mk.inj (Option.some.inj read)
    obtain ⟨nameEq, contentEq⟩ := Block.metadata.inj made
    obtain rfl : name = "defaults".toList := by rw [← nameEq, String.toList_ofList]
    obtain rfl : content = d := by simpa using congrArg String.toList contentEq
    obtain ⟨-, rfl, -, apart⟩ := run?_eq_some_iff.1 named
    obtain ⟨few, atMost, rfl, -⟩ := Block.exists_spaces_of_indent? indented
    obtain ⟨pad, after, whole, pads, ended, unbroken, stop, -⟩ := upTo?_comment_iff.1 closed
    have split : left.takeWhile isGap ++ (content ++ (pad ++ ("-->".toList ++ after))) = left := by
      rw [← whole, skipGap, List.takeWhile_append_dropWhile]
    have ahead := List.head?_dropWhile_not isGap left
    rw [← skipGap, whole, List.head?_append_of_ne_nil _ nonempty] at ahead
    refine ⟨⟨List.replicate few ' ', left.takeWhile isGap, content, pad, after⟩,
      ⟨few, atMost, rfl⟩,
      ⟨fun c member => List.mem_takeWhile_imp member, pads, nonempty, unbroken, ?_, stop⟩,
      ?_, ended, ?_, rfl⟩
    · intro c first
      rwa [show content.head? = some c from first] at ahead
    · intro none c first
      refine apart c ?_
      rw [← split, show left.takeWhile isGap = [] from none, List.nil_append,
        List.head?_append_of_ne_nil _ nonempty]
      exact first
    · rw [text, comment_eq, after?_eq_some_iff.1 opened]
      exact congrArg (fun left => List.replicate few ' ' ++ ("<!--slidoc-".toList ++
        ("defaults".toList ++ left))) split
  · rintro ⟨header, few, proper, named, ended, rfl, rfl⟩
    have word := run?_eq_some_iff.2 ⟨show "defaults".toList ≠ [] by decide, rfl,
      forall_mem_of_all (by decide), proper.isWordChar_of_head? named
        (header.pad ++ ("-->".toList ++ header.after))⟩
    have opened : literal? "<!--slidoc-" header.comment = some _ :=
      after?_eq_some_iff.2 header.comment_eq
    have skipped := skipGap_append proper.gap proper.isGap_of_head?
    have closed := upTo?_comment_iff.2 ⟨header.pad, header.after, rfl, proper.pad, ended,
      proper.unbroken, proper.stop, fun inner more same => ?_⟩
    · rw [← skipped] at closed
      exact Option.bind_eq_some_iff.2 ⟨_, indent?_text few, Option.bind_eq_some_iff.2 ⟨_, opened,
        Option.bind_eq_some_iff.2 ⟨_, word, Option.bind_eq_some_iff.2 ⟨_, closed, rfl⟩⟩⟩⟩
    · -- an earlier mark does not close the comment: the later one still stands on its line
      have inside : more ⊆ header.content := fun c member => by
        rw [same]
        exact List.mem_append_right _ (List.mem_append_right _ member)
      have unbroken : '\n' ∉ more ++ (header.pad ++ "-->".toList) := by
        rw [List.mem_append, List.mem_append]
        rintro (member | member | member)
        · exact proper.unbroken (inside member)
        · exact proper.not_mem_pad member
        · contradiction
      have stands : ∃ c ∈ more ++ (header.pad ++ "-->".toList), isGap c = false :=
        ⟨'-', List.mem_append_right _ (List.mem_append_right _ (by decide)), rfl⟩
      have none := gapLineEnd?_of_mem unbroken stands header.after
      rwa [List.append_assoc, List.append_assoc] at none

/-- The header is taken as the first block: what stands before it makes no block, and nothing
follows it on its line. -/
structure IsRemoved (header : DefaultsHeader) : Prop extends header.IsProper where
  lead : ∃ passed few, few ≤ 3 ∧ header.before = passed ++ List.replicate few ' ' ∧
    Passes (List.replicate few ' ' ++ header.comment) passed []
  named : header.IsNamed
  alone : header.EndsLine

/-- A header ends its line if a gap and a break follow it, or nothing. -/
theorem endsLine_iff : header.EndsLine ↔ ∃ rest, gapLineEnd? header.after = some rest := by
  unfold EndsLine gapLineEnd?
  cases skipGap header.after with
  | nil => exact ⟨fun _ => ⟨[], rfl⟩, fun _ => nofun⟩
  | cons c rest => simp [lineEnd?]

/-- No rule before its own takes anything of the header. -/
theorem IsProper.next?_text (proper : header.IsProper)
    (indented : ∃ few ≤ 3, header.before = List.replicate few ' ') (named : header.IsNamed)
    (ended : gapLineEnd? header.after = some rest) : Block.next? header.text =
      some (.block (.metadata "defaults" (String.ofList header.content)), rest) := by
  have read := (metadata?_eq_some_iff proper.nonempty).2
    ⟨header, indented, proper, named, ended, rfl, rfl⟩
  have taken : Block.asItem Block.metadata? header.text =
      some (.block (.metadata "defaults" (String.ofList header.content)), rest) := by
    rw [Block.asItem, read]
    rfl
  have order : Block.rules = ([Block.blank?] ++ (Block.firstRules.take 5).map Block.asItem) ++
      Block.asItem Block.metadata? :: ((Block.firstRules.drop 6).map Block.asItem ++
        [Block.target?, Block.quote?] ++ Block.lastRules.map Block.asItem) := rfl
  refine Block.next?_eq_of_first order (fun rule known => ?_) taken ?_
  · have opens : indent? header.text = some ('<' :: _) := indent?_text indented
    have lacks : Block.Lacks ['\x60', '~', '$', '\\'] header.text :=
      Block.lacks_of_indent? opens (by decide)
    simp only [Block.firstRules, List.take_succ_cons, List.take_zero, List.map_cons, List.map_nil,
      List.cons_append, List.nil_append, List.mem_cons, List.not_mem_nil, or_false] at known
    -- the mark of the comment is not theirs, apart from that of the last, which goes on otherwise
    rcases known with rfl | rfl | rfl | rfl | rfl | rfl
    · rw [Block.blank?, Block.emptyLines?_eq_none opens rfl (by decide)]
      rfl
    · rw [Block.asItem, Block.opensWith_fencedCode?.eq_none (lacks.of_subset (by decide))]
      rfl
    · rw [Block.asItem, Block.indentedCode?_eq_none opens (by decide)]
      rfl
    · rw [Block.asItem, Block.opensWith_displayMath?.eq_none (lacks.of_subset (by decide))]
      rfl
    · rw [Block.asItem, Block.opensWith_environment?.eq_none (lacks.of_subset (by decide))]
      rfl
    · have other : literal? "<script " header.comment = none := rfl
      rw [Block.asItem, Block.pluginDefinition?, indent?_text indented]
      simp only [Option.bind_eq_bind, Option.bind_some, other, Option.bind_none, Option.map_none]
  · exact Nat.lt_of_le_of_lt (suffix_of_gapLineEnd? ended).length_le proper.length_after_lt

/-- Which header is taken as the first block. -/
theorem head?_blocksOf_eq_iff (nonempty : d ≠ []) :
    (Outline.blocksOf cs).head? = some (.metadata "defaults" (String.ofList d)) ↔
    ∃ header : DefaultsHeader, header.IsRemoved ∧ header.text = cs ∧ header.content = d := by
  have other : Block.metadata "defaults" (String.ofList d) ≠ .quoteStart := nofun
  rw [Outline.head?_blocksOf_iff other]
  constructor
  · rintro ⟨passed, left, rest, rfl, passes, taken⟩
    obtain ⟨header, ⟨few, atMost, before⟩, proper, named, ended, rfl, rfl⟩ :=
      (metadata?_eq_some_iff nonempty).1 (Block.metadata?_of_next? taken)
    rw [text, before] at passes ⊢
    have whole : IsProper { header with before := passed ++ List.replicate few ' ' } :=
      ⟨proper.gap, proper.pad, proper.nonempty, proper.unbroken, proper.start, proper.stop⟩
    exact ⟨_, ⟨whole, ⟨passed, few, atMost, rfl, passes⟩, named, endsLine_iff.2 ⟨rest, ended⟩⟩,
      List.append_assoc .., rfl⟩
  · rintro ⟨header, removed, rfl, rfl⟩
    obtain ⟨passed, few, atMost, before, passes⟩ := removed.lead
    obtain ⟨rest, ended⟩ := endsLine_iff.1 removed.alone
    have whole : IsProper { header with before := List.replicate few ' ' } :=
      ⟨removed.gap, removed.pad, removed.nonempty, removed.unbroken, removed.start, removed.stop⟩
    refine ⟨passed, _, rest, ?_, passes, whole.next?_text ⟨few, atMost, rfl⟩ removed.named ended⟩
    rw [text, before, List.append_assoc]

/-- The header stands alone on its line, at most three spaces from its start, and before it stand
empty lines. -/
structure StandsAlone (header : DefaultsHeader) : Prop where
  lead : ∃ lines few, few ≤ 3 ∧ header.before = lines ++ List.replicate few ' ' ∧
    AreEmptyLines lines ∧ Text.EndsLine lines
  alone : header.EndsLine

/-- Before a header that stands alone there are blanks. -/
theorem StandsAlone.allBlank_before (alone : header.StandsAlone) :
    allBlank header.before = true := by
  obtain ⟨lines, few, -, before, empty, -⟩ := alone.lead
  rw [before]
  exact Block.allBlank_append.2 ⟨empty.allBlank, by simp [allBlank, isBlank]⟩

/-- A header that is taken as the first block stands alone if nothing but blank characters comes
before it. -/
theorem IsRemoved.standsAlone (removed : header.IsRemoved)
    (first : (trimStart header.text).head? = some '<') : header.StandsAlone := by
  obtain ⟨passed, few, atMost, before, passes⟩ := removed.lead
  have more : List.replicate few ' ' ++ header.comment ≠ [] :=
    List.append_ne_nil_of_right_ne_nil _ header.comment_ne_nil
  rw [text, before, List.append_assoc] at first
  obtain ⟨empty, ends⟩ := passes.areEmptyLines rfl more (by rw [first]; decide)
  exact ⟨⟨passed, few, atMost, before, empty, ends⟩, removed.alone⟩

/-- A header that is read for the options that it sets is taken as the first block if it stands
alone. -/
theorem IsApplied.isRemoved (applied : header.IsApplied) (alone : header.StandsAlone) :
    header.IsRemoved := by
  obtain ⟨lines, few, atMost, before, empty, ends⟩ := alone.lead
  -- the empty lines go no further than to the line of the comment, on which something stands
  have unbroken : '\n' ∉ List.replicate few ' ' ++ ['<'] := by simp
  have stops :=
    Block.afterEmptyLines?_of_mem unbroken ⟨'<', by simp, rfl⟩ none header.comment.tail
  have whole : List.replicate few ' ' ++ ['<'] ++ header.comment.tail =
      List.replicate few ' ' ++ header.comment := List.append_assoc ..
  rw [whole] at stops
  exact ⟨applied.toIsProper,
    ⟨lines, few, atMost, before, passes_of_areEmptyLines empty ends stops⟩,
    fun gap => absurd gap applied.apart, alone.alone⟩

/-- A source with its header is put together in one way. -/
theorem eq_of_text {first second : DefaultsHeader} (proper : first.IsProper)
    (other : second.IsProper) (blank : allBlank first.before = true)
    (blankOther : allBlank second.before = true) (text : first.text = second.text)
    (content : first.content = second.content) : first = second := by
  have spaced {header : DefaultsHeader} (proper : header.IsProper) :=
    span_append proper.gap proper.isGap_of_head?
  have closes (after : List Char) : ∀ c ∈ ("-->".toList ++ after).head?, isGap c = false := by
    rintro c ⟨⟩
    rfl
  have before : first.before = second.before := by
    rw [← (span_text blank).1, ← (span_text blankOther).1, text]
  have comments : first.comment = second.comment := by
    rw [← (span_text blank).2, ← (span_text blankOther).2, text]
  -- from left to right, a part ends where what cannot stand in it begins
  have inside := List.append_cancel_left comments
  have gap : first.gap = second.gap := by
    rw [← (spaced proper).1, inside, (spaced other).1]
  rw [gap, content] at inside
  have rest := List.append_cancel_left (List.append_cancel_left inside)
  have pad : first.pad = second.pad := by
    rw [← (span_append proper.pad (closes _)).1, rest, (span_append other.pad (closes _)).1]
  rw [pad] at rest
  have after := List.append_cancel_left (List.append_cancel_left rest)
  exact DefaultsHeader.ext before gap content pad after

/-- What is both read for the options and taken as the first block is one header. -/
theorem exists_standsAlone_iff (nonempty : d ≠ []) : Source.defaultsHeader? cs = some d ∧
      (Outline.blocksOf cs).head? = some (.metadata "defaults" (String.ofList d)) ↔
    ∃ header : DefaultsHeader, header.IsApplied ∧ header.StandsAlone ∧ header.text = cs ∧
      header.content = d := by
  rw [defaultsHeader?_eq_some_iff nonempty, head?_blocksOf_eq_iff nonempty]
  constructor
  · rintro ⟨⟨header, applied, rfl, rfl⟩, ⟨other, removed, same, content⟩⟩
    have first : (trimStart other.text).head? = some '<' := by
      rw [same, (span_text applied.blank).2, head?_comment]
    have alone := removed.standsAlone first
    obtain rfl := eq_of_text removed.toIsProper applied.toIsProper alone.allBlank_before
      applied.blank same content
    exact ⟨other, applied, alone, rfl, rfl⟩
  · rintro ⟨header, applied, alone, rfl, rfl⟩
    exact ⟨⟨header, applied, rfl, rfl⟩, header, applied.isRemoved alone, rfl, rfl⟩

/-- **The header with the defaults of a file.** The options of a file are read from one header, and
its first block is one; both are the same where it stands alone on its line, with nothing before it
but empty lines and at most three spaces. -/
theorem exists_ofSource_defaults (text d : List Char) (nonempty : d ≠ []) :
    ∃ outline, Outline.ofSource (Source.ofText text).text = .ok outline ∧
      ((Source.ofText text).defaults = some d ↔ ∃ header : DefaultsHeader,
        header.IsApplied ∧ header.text = (Source.ofText text).text ∧ header.content = d) ∧
      (outline.blocks.head? = some (.metadata "defaults" (String.ofList d)) ↔
        ∃ header : DefaultsHeader,
          header.IsRemoved ∧ header.text = (Source.ofText text).text ∧ header.content = d) ∧
      ((Source.ofText text).defaults = some d ∧
          outline.blocks.head? = some (.metadata "defaults" (String.ofList d)) ↔
        ∃ header : DefaultsHeader, header.IsApplied ∧ header.StandsAlone ∧
          header.text = (Source.ofText text).text ∧ header.content = d) := by
  obtain ⟨outline, read⟩ := Outline.exists_ofSource (Source.ofText text).text
  have blocks := Outline.blocksOf_of_ofSource read
  refine ⟨outline, read, defaultsHeader?_eq_some_iff nonempty, ?_, ?_⟩
  · rw [← blocks]
    exact head?_blocksOf_eq_iff nonempty
  · rw [← blocks]
    exact exists_standsAlone_iff nonempty

/-- A text with an empty line and an annotation before a header. -/
def noteAndHeader : List Char :=
  "\r\nAnnotation: x\r\n  <!--slidoc-defaults --hide=Answer --number -->\t\r\n# T\r\n".toList

/-- The header of that text, which is read without the annotation. -/
def afterNote : DefaultsHeader where
  before := "\n  ".toList
  gap := [' ']
  content := "--hide=Answer --number".toList
  pad := [' ']
  after := "\t\n# T\n".toList

/-- The options of the file, and no content of it. -/
theorem exists_ofSource_afterNote : afterNote.content ≠ [] ∧ ∃ outline,
    Outline.ofSource (Source.ofText noteAndHeader).text = .ok outline ∧
    (Source.ofText noteAndHeader).defaults = some afterNote.content ∧
    outline.blocks.head? = some (.metadata "defaults" "--hide=Answer --number") := by
  have some : afterNote.content ≠ [] := by decide
  have kept : afterNote.text = (Source.ofText noteAndHeader).text := by decide +kernel
  have applied : afterNote.IsApplied :=
    ⟨⟨forall_mem_of_all (by decide), forall_mem_of_all (by decide), some, by decide,
        by rintro c ⟨⟩; rfl, by rintro c ⟨⟩; rfl⟩, by decide, by decide,
      fun inside => absurd (inside.subset (show '>' ∈ "-->".toList by decide)) (by decide)⟩
  have alone : afterNote.StandsAlone :=
    ⟨⟨['\n'], 2, by decide, rfl, by decide, .inr rfl⟩, by rintro c ⟨⟩; rfl⟩
  obtain ⟨outline, read, -, -, both⟩ :=
    exists_ofSource_defaults noteAndHeader afterNote.content some
  exact ⟨some, outline, read, both.2 ⟨afterNote, applied, alone, kept, rfl⟩⟩

/-- Options are read from what is taken as code. -/
theorem not_forall_defaults_eq : ¬ ∀ text d outline, d ≠ [] →
    Outline.ofSource (Source.ofText text).text = .ok outline →
    ((Source.ofText text).defaults = some d ↔
      outline.blocks.head? = some (.metadata "defaults" (String.ofList d))) := by
  intro every
  have seen : (Outline.ofSourceWithin? (Source.ofText
      "    <!--slidoc-defaults --number-->\n# Title\n".toList).text 4).any
        (fun outline => !outline.blocks.head?.any Block.isMetadata) = true := by
    decide +kernel
  obtain ⟨outline, read, other⟩ := Outline.exists_ofSource_of_any 4 seen
  rw [(every _ "--number".toList outline (by decide) read).1 (by decide)] at other
  contradiction

end DefaultsHeader

end LectureDeck
