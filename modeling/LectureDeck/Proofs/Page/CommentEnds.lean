import LectureDeck.Proofs.Deck.SlideBlocks
import LectureDeck.Proofs.Deck.Tags
import LectureDeck.Proofs.Page.Pages

/-!
# Where comments on pages end

Some blocks are pieces of the page as they stand: code, markup, mathematics, comments and pauses.
They are on the page of their slide in the order of the source, and there are no other such pieces
(`LectureDeck.Draft.copies_of_readFile`). A block that tells something of the file is a comment on
the page of its slide. Two dashes in its text are spread, from the left, so that the last two of an
odd number of dashes stay together. A comment ends with its own mark and not before, if and only if
the rest of a mark follows no such dashes in its text (`LectureDeck.Compiled.compile_comments`).
-/

namespace LectureDeck

open LectureDeck.Text

/-- The pieces of a script that blocks are copied to, in order. -/
def Script.copies (script : List Entry) : List Piece := (pieces script).filter Piece.isCopy

/-- A piece that is written last is added if it is a copy. -/
theorem Script.copies_concat (script : List Entry) (entry : Entry) :
    copies (script ++ [entry]) = copies script ++
      if entry.piece.isCopy then [entry.piece] else [] := by
  rw [copies, pieces_concat, List.filter_append, List.filter_singleton, copies]
  exact congrArg (_ ++ ·) (Bool.cond_eq_ite ..)

/-- No plain piece is a copy. -/
theorem Piece.not_isCopy_of_isPlain {piece : Piece} (plain : piece.isPlain = true) :
    piece.isCopy = false := by
  cases piece <;> first | rfl | contradiction

namespace SlideDraft

variable {W : Type}

/-- The pieces that blocks of the slide are copied to. -/
def copies (slide : SlideDraft W) : List Piece := Script.copies slide.script

/-- A slide has one copy more if a copy is written to it. -/
theorem copies_write (slide : SlideDraft W) (piece : Piece) :
    (slide.write piece).copies = slide.copies ++ if piece.isCopy then [piece] else [] :=
  Script.copies_concat slide.script _

/-- What is no copy leaves the copies of a slide as they are. -/
theorem copies_write_of_not (slide : SlideDraft W) {piece : Piece} (other : piece.isCopy = false) :
    (slide.write piece).copies = slide.copies := by
  rw [copies_write, other]
  exact List.append_nil _

/-- Tags write no copies. -/
theorem copies_tagged (slide : SlideDraft W) (tags : Tags) :
    (slide.tagged tags).copies = slide.copies := by
  unfold tagged listed copies
  split
  · exact congrArg Script.copies (List.append_nil _)
  · exact (Script.copies_concat _ _).trans (List.append_nil _)

/-- What opens and closes regions, lists and choices is no copy. -/
theorem overlooksMarks_copies : OverlooksMarks (W := W) copies :=
  ⟨fun _ _ => copies_write_of_not _ rfl, fun _ _ => copies_write_of_not _ rfl,
    fun _ _ _ _ _ _ _ => rfl⟩

end SlideDraft

namespace Draft

open SlideDraft

variable {W : Type} [Weight W] {setting : Setting} {draft after : Draft W}

/-- No move writes a copy. -/
theorem Move.copies (move : Move setting draft after) :
    after.slide.copies = draft.slide.copies := by
  have overlooks : OverlooksMarks (W := W) SlideDraft.copies := overlooksMarks_copies
  cases move with
  | write piece plain => exact copies_write_of_not _ (Piece.not_isCopy_of_isPlain plain)
  | tag content => exact copies_tagged _ _
  | follow id => rw [slide_follow]
  | define made => rw [slide_of_define made]
  | number level content => rw [slide_numberHeading]
  | closeList => exact overlooks.closeList _
  | openList ordered => exact overlooks.openList _ ordered
  | closeChoices => exact overlooks.closeChoices _
  | @present _ choices agrees presented =>
    let presents : SlideDraft W := { draft.slide with choices := choices }
    exact overlooks.openChoices presents
  | closeHint => exact overlooks.closeRegion _ .hint
  | hint penalty body opened =>
    exact (overlooks.openRegion opened).trans (overlooks.closeRegion draft.slide .hint)
  | openNotes body opened => exact overlooks.openRegion opened
  | extra opened =>
    have closed := overlooks.closeRegion draft.slide .hint
    exact (overlooks.openRegion opened).trans ((overlooks.closeChoices _).trans closed)
  | hide first opened => exact overlooks.openRegion opened
  | _ => rfl

/-- Moves one after another write no copies. -/
theorem Moves.copies (moves : Moves setting draft after) :
    after.slide.copies = draft.slide.copies :=
  moves.preserve (fun move earlier => move.copies.trans earlier) rfl

omit [Weight W] in
/-- A block that is copied is the one copy that it writes. The edge of a quote is none. -/
theorem copies_turned (draft : Draft W) (block : Block) :
    (draft.turned block).slide.copies = draft.slide.copies ++ block.copy?.toList := by
  have copied : (draft.copied block).slide.copies =
      draft.slide.copies ++ block.copy?.toList := by
    unfold Draft.copied
    cases found : block.copy? with
    | none => exact (List.append_nil _).symm
    | some piece =>
      refine (copies_write draft.slide piece).trans ?_
      rw [Block.isCopy_of_copy? found]
      rfl
  cases block with
  | quoteStart => exact (copies_write_of_not _ rfl).trans copied
  | quoteEnd => exact (copies_write_of_not _ rfl).trans copied
  | _ => exact copied

/-- **A block is copied, or read to other pieces.** A rule inside of a quote is one of these. -/
theorem copies_of_readPart {block : Block} (read : draft.readPart setting block = .ok after) :
    after.slide.copies = draft.slide.copies ++ block.copy?.toList := by
  have begun : Moves setting draft (draft.beforeBlock block) := moves_beforeBlock draft block
  have moves := moves_of_readContent read
  rw [moves.copies, copies_turned, begun.copies]

/-- The copies on a slide are those of its blocks. -/
theorem kept_copies (setting : Setting) : Kept (W := W) setting fun blocks slide =>
    slide.copies = blocks.filterMap Block.copy? where
  start := fun _ _ => rfl
  noted := fun _ same => same
  part := by
    intro blocks draft after block read same
    rw [copies_of_readPart read, same, List.filterMap_append]
    cases found : block.copy? <;> simp [found]
  rule := by
    intro blocks slide same
    rw [same, List.filterMap_append]
    exact (List.append_nil _).symm

/-- **What is copied to the page of each slide,** in order. -/
theorem copies_of_readFile (read : readFile setting = .ok after) :
    List.Forall₂ (fun slide script => Script.copies script =
        (slide.blocksOf setting.outline.blocks).filterMap Block.copy?)
      after.file.slides after.file.scripts := by
  refine ((kept_copies setting).of_readFile read).imp fun slide script ends => ?_
  obtain ⟨-, last, same, rfl, -⟩ := ends
  exact (overlooksMarks_copies.closeAll last.slide).trans same

end Draft

section Spreading

variable {next cs : List Char} {first c : Char}

/-- An odd number of dashes, from three on, stands before a text. -/
def HasOddDashes (next cs : List Char) : Prop :=
  ∃ before few after, cs = before ++ (List.replicate (2 * few + 3) '-' ++ (next ++ after)) ∧
    before.getLast? ≠ some '-'

/-- No dashes begin with what is no dash, or with a dash that none follows. -/
theorem hasOddDashes_cons (alone : c = '-' → cs.head? ≠ some '-') :
    HasOddDashes next (c :: cs) ↔ HasOddDashes next cs := by
  constructor
  · rintro ⟨before, few, after, same, last⟩
    cases before with
    | nil =>
      obtain ⟨rfl, rfl⟩ := List.cons.inj same
      exact absurd rfl (alone rfl)
    | cons d before =>
      obtain ⟨rfl, rfl⟩ := List.cons.inj same
      refine ⟨before, few, after, rfl, ?_⟩
      cases before with
      | nil => nofun
      | cons d before => rwa [List.getLast?_cons_cons] at last
  · rintro ⟨before, few, after, rfl, last⟩
    refine ⟨c :: before, few, after, rfl, ?_⟩
    cases before with
    | nil =>
      intro dash
      exact alone (Option.some.inj dash) rfl
    | cons d before => rwa [List.getLast?_cons_cons]

/-- Two dashes more are as odd as none, but one dash becomes three. -/
theorem hasOddDashes_pair : HasOddDashes next ('-' :: '-' :: cs) ↔
    '-' :: next <+: cs ∨ HasOddDashes next cs := by
  constructor
  · rintro ⟨before, few, after, same, last⟩
    match before, same, last with
    | [], same, last =>
      have same := (List.cons.inj (List.cons.inj same).2).2
      cases few with
      | zero => exact .inl ⟨after, same.symm⟩
      | succ few => exact .inr ⟨[], few, after, same, last⟩
    | [_], same, last =>
      obtain ⟨rfl, -⟩ := List.cons.inj same
      exact absurd rfl last
    | [_, _], same, last =>
      obtain ⟨rfl, -⟩ := List.cons.inj (List.cons.inj same).2
      exact absurd rfl last
    | _ :: _ :: d :: before, same, last =>
      have same := (List.cons.inj (List.cons.inj same).2).2
      rw [List.getLast?_cons_cons, List.getLast?_cons_cons] at last
      exact .inr ⟨d :: before, few, after, same, last⟩
  · rintro (⟨after, rfl⟩ | ⟨before, few, after, rfl, last⟩)
    · exact ⟨[], 0, after, rfl, nofun⟩
    · cases before with
      | nil => exact ⟨[], few + 1, after, rfl, nofun⟩
      | cons d before =>
        refine ⟨'-' :: '-' :: d :: before, few, after, rfl, ?_⟩
        rwa [List.getLast?_cons_cons, List.getLast?_cons_cons]

/-- There are no dashes in an empty text. -/
theorem not_hasOddDashes_nil : ¬HasOddDashes next [] := by
  rintro ⟨before, few, after, same, -⟩
  obtain ⟨-, same⟩ := List.append_eq_nil_iff.1 same.symm
  obtain ⟨none, -⟩ := List.append_eq_nil_iff.1 same
  exact nomatch (List.replicate_eq_nil_iff _).1 none

/-- Spreading dashes leaves the first character of a text. -/
theorem head?_spreadDashes (cs : List Char) : (spreadDashes cs).head? = cs.head? := by
  fun_cases spreadDashes cs <;> rfl

/-- Spreading changes no text in which there are no dashes. -/
theorem prefix_spreadDashes (plain : '-' ∉ next) : next <+: spreadDashes cs ↔ next <+: cs := by
  induction next generalizing cs with
  | nil => simp only [List.nil_prefix]
  | cons d next later =>
    obtain ⟨other, plain⟩ := not_or.1 (mt List.mem_cons.2 plain)
    fun_cases spreadDashes cs with
    | case1 rest => simp only [List.cons_prefix_cons, Ne.symm other, false_and]
    | case2 c rest => rw [List.cons_prefix_cons, List.cons_prefix_cons, later plain]
    | case3 => rfl

/-- One dash before a text stays before it. -/
theorem dash_prefix_spreadDashes (solid : first ≠ ' ') (plain : '-' ∉ first :: next) :
    '-' :: first :: next <+: spreadDashes cs ↔ '-' :: first :: next <+: cs := by
  have other : first ≠ '-' := fun same => plain (same ▸ List.mem_cons_self)
  fun_cases spreadDashes cs with
  | case1 rest => simp only [List.cons_prefix_cons, solid, other, false_and, and_false]
  | case2 c rest => rw [List.cons_prefix_cons, List.cons_prefix_cons, prefix_spreadDashes plain]
  | case3 => rfl

/-- **Two dashes stay together** before a text just if their number there is odd. -/
theorem infix_spreadDashes (solid : first ≠ ' ') (plain : '-' ∉ first :: next) :
    '-' :: '-' :: first :: next <:+: spreadDashes cs ↔ HasOddDashes (first :: next) cs := by
  fun_induction spreadDashes cs with
  | case1 rest later =>
    rw [hasOddDashes_pair, ← later, ← dash_prefix_spreadDashes solid plain]
    simp [List.infix_cons_iff, List.cons_prefix_cons]
  | case2 c rest single later =>
    have alone : c = '-' → rest.head? ≠ some '-' := by
      intro dash begins
      obtain ⟨rest, rfl⟩ := List.head?_eq_some_iff.1 begins
      exact single rest dash rfl
    rw [hasOddDashes_cons alone, ← later, List.infix_cons_iff, or_iff_right]
    intro begins
    obtain ⟨dash, after, same⟩ := List.cons_prefix_cons.1 begins
    refine alone dash.symm ?_
    rw [← head?_spreadDashes, ← same]
    rfl
  | case3 =>
    refine iff_of_false (fun inside => ?_) not_hasOddDashes_nil
    exact nomatch List.infix_nil.1 inside

example : spreadDashes "a----> b---> c".toList = "a- -- -> b- --> c".toList := by decide +kernel

/-- What begins with a character that a text lacks does not begin in it. -/
theorem infix_append_iff_of_not_mem {before : List Char} (lacks : c ∉ before) :
    c :: next <:+: before ++ cs ↔ c :: next <:+: cs := by
  induction before with
  | nil => rfl
  | cons d before later =>
    obtain ⟨other, lacks⟩ := not_or.1 (mt List.mem_cons.2 lacks)
    rw [List.cons_append, List.infix_cons_iff, List.cons_prefix_cons, later lacks, or_iff_right]
    exact fun begins => other begins.1

end Spreading

/-- The rests of marks that end a comment after two dashes. -/
def commentEnds : List (List Char) := [['>'], ['!', '>']]

/-- What stands in a comment on a page, between its marks. -/
def Piece.commentText (name content : String) : String :=
  "slidoc-" ++ name ++ " " ++ String.ofList (spreadDashes content.toList)

/-- The name in a comment is a word, so that no mark begins before the text that is spread. -/
theorem Piece.infix_commentText {name : String} (word : name.toList.all isWordChar = true)
    (content : String) {ending : List Char} (known : ending ∈ commentEnds) :
    '-' :: '-' :: ending <:+: (commentText name content).toList ↔
      HasOddDashes ending content.toList := by
  have parts : (commentText name content).toList =
      "slidoc".toList ++ '-' :: ((name.toList ++ [' ']) ++ spreadDashes content.toList) := by
    simp [commentText]
  have lacks : '-' ∉ name.toList ++ [' '] := by
    intro member
    rcases List.mem_append.1 member with inside | last
    · exact nomatch List.all_eq_true.1 word '-' inside
    · exact nomatch List.mem_singleton.1 last
  have single : ¬ '-' :: '-' :: ending <+:
      '-' :: ((name.toList ++ [' ']) ++ spreadDashes content.toList) := by
    intro begins
    obtain ⟨d, more, named⟩ := List.exists_cons_of_ne_nil (List.concat_ne_nil ' ' name.toList)
    rw [named] at begins lacks
    obtain ⟨rfl, -⟩ := List.cons_prefix_cons.1 (List.cons_prefix_cons.1 begins).2
    exact lacks List.mem_cons_self
  rw [parts, infix_append_iff_of_not_mem (by decide), List.infix_cons_iff, or_iff_right single,
    infix_append_iff_of_not_mem lacks]
  rcases List.mem_pair.1 known with rfl | rfl
  · exact infix_spreadDashes (by decide) (by decide)
  · exact infix_spreadDashes (by decide) (by decide)

/-- The name and the text of a comment on a page. -/
def Piece.comment? : Piece → Option (String × String)
  | .comment name content => some (name, content)
  | _ => none

/-- The name and the text of a comment that is on a page. The defaults of the file are not. -/
def Block.comment? : Block → Option (String × String)
  | .metadata name content => if name == "defaults" then none else some (name, content)
  | _ => none

/-- The comments in a script, in order. -/
def Script.comments (script : List Entry) : List (String × String) :=
  (pieces script).filterMap Piece.comment?

/-- The comments of a script are among its copies. -/
theorem Script.comments_eq (script : List Entry) :
    comments script = (copies script).filterMap Piece.comment? := by
  rw [copies, List.filterMap_filter]
  refine List.filterMap_congr fun piece _ => ?_
  cases piece <;> rfl

/-- A block is a comment if it is copied to one. -/
theorem Block.comment?_eq (block : Block) : block.comment? = block.copy?.bind Piece.comment? := by
  cases block with
  | metadata name content =>
    rw [comment?, copy?]
    split <;> rfl
  | _ => rfl

/-- Comments are copied to the pages of slides. -/
theorem Draft.comments_of_readFile {W : Type} [Weight W] {setting : Setting} {after : Draft W}
    (read : readFile setting = .ok after) :
    List.Forall₂ (fun slide script => Script.comments script =
        (slide.blocksOf setting.outline.blocks).filterMap Block.comment?)
      after.file.slides after.file.scripts := by
  refine (copies_of_readFile read).imp fun slide script same => ?_
  rw [Script.comments_eq, same, List.filterMap_filterMap]
  exact List.filterMap_congr fun block _ => block.comment?_eq.symm

namespace Compiled

variable {W : Type} [Weight W] {environment : Environment} {fileNumber : Nat} {name text : String}
  {compiled : Compiled W}

/-- A file whose comments end with their own marks, but for odd dashes. -/
structure EndsComments (environment : Environment) (compiled : Compiled W) (setting : Setting)
    (analysis : Analysis W) : Prop where
  /-- The comments in the script of a slide are those of its blocks, in order. -/
  comments : List.Forall₂ (fun slide script => Script.comments script =
      (slide.blocksOf setting.outline.blocks).filterMap Block.comment?)
    compiled.model.slides analysis.scripts
  markup : ∀ name content,
    compiled.model.render compiled.options environment.highlight (.comment name content) =
      .markup ("<!--" ++ Piece.commentText name content ++ "-->\n")
  /-- A mark that ends a comment is inside of one just if odd dashes stand in its text. -/
  ends : ∀ name content, .metadata name content ∈ setting.outline.blocks →
    ∀ ending ∈ commentEnds, ('-' :: '-' :: ending <:+: (Piece.commentText name content).toList ↔
      HasOddDashes ending content.toList)

/-- **Comments.** When a file compiles, the comments on the pages of its slides are those of its
blocks, in order, but for defaults. The mark at the end of a comment is the first one in it, unless
its text has an odd number of dashes, from three on, before the rest of a mark. -/
theorem compile_comments (compiles : compile environment fileNumber name text = .ok compiled) :
    ∃ setting analysis,
      read environment fileNumber name (Source.ofText text.toList) = .ok (setting, analysis) ∧
        compiled.Presents environment analysis ∧
        compiled.EndsComments environment setting analysis := by
  obtain ⟨setting, analysis, found, rfl⟩ := ofSource_eq_ok_iff.1 compiles
  obtain ⟨draft, outlined, reads, rfl⟩ := exists_readFile_of_read found
  refine ⟨setting, _, found, presents_of_read found, ?_⟩
  constructor
  · exact Draft.comments_of_readFile reads
  · intro name content
    exact congrArg Fragment.markup (String.toList_inj.1 (by simp [Piece.commentText]))
  · intro name content told ending known
    exact Piece.infix_commentText (Outline.isWord_of_metadata outlined told) content known

/-- A comment with three dashes before the rest of a mark. -/
def commentWithDashes : String := "<!--slidoc-x a---> b-->\n"

/-- Three dashes before an angle bracket are in the text of a comment, and on the page the last two
of them end it. -/
theorem exists_read_commentWithDashes : ∃ reading : Setting × Analysis Float,
    read .plain 1 "a" (Source.ofText commentWithDashes.toList) = .ok reading ∧
      reading.2.scripts.map Script.comments = [[("x", "a---> b")]] ∧
      (present .plain 1 "a" (Source.ofText commentWithDashes.toList) reading).document.slides.map
        SlidePage.fragments = [[.markup "<!--slidoc-x a- --> b-->\n"]] := by
  let source := Source.ofText commentWithDashes.toList
  have seen : (read (W := Float) .plain 1 "a" source).toOption.any (fun reading =>
      reading.2.scripts.map Script.comments = [[("x", "a---> b")]] ∧
      (present .plain 1 "a" source reading).document.slides.map SlidePage.fragments =
        [[.markup "<!--slidoc-x a- --> b-->\n"]]) = true := by
    unfold read findSetting
    rw [Outline.ofSource_eq_within 20 (by decide +kernel)]
    decide +kernel
  obtain ⟨reading, found, holds⟩ := exists_of_any seen
  exact ⟨reading, found, of_decide_eq_true holds⟩

/-- The comments of a file with such dashes end where the theorem says that they do. -/
theorem compile_comments_dashes : ∃ compiled : Compiled Float,
    compile .plain 1 "a" commentWithDashes = .ok compiled ∧ ∃ setting analysis,
      compiled.EndsComments .plain setting analysis ∧
      analysis.scripts.map Script.comments = [[("x", "a---> b")]] := by
  obtain ⟨⟨setting, analysis⟩, found, comments, -⟩ := exists_read_commentWithDashes
  have compiles : compile .plain 1 "a" commentWithDashes =
      .ok (present .plain 1 "a" _ (setting, analysis)) :=
    ofSource_eq_ok_iff.2 ⟨setting, analysis, found, rfl⟩
  obtain ⟨_, _, again, _, endsComments⟩ := compile_comments compiles
  obtain ⟨rfl, rfl⟩ := Prod.mk.inj (Except.ok.inj (again.symm.trans found))
  exact ⟨_, compiles, _, _, endsComments, comments⟩

/-- A comment with three dashes before the rest of a mark ends there. -/
theorem exists_comment_ended_early : ∃ compiled : Compiled Float,
    compile .plain 1 "a" commentWithDashes = .ok compiled ∧
      compiled.document.slides.map SlidePage.fragments =
        [[.markup "<!--slidoc-x a- --> b-->\n"]] ∧
      "-->".toList <:+: "slidoc-x a- --> b".toList := by
  obtain ⟨⟨setting, analysis⟩, found, -, shown⟩ := exists_read_commentWithDashes
  have compiles : compile .plain 1 "a" commentWithDashes =
      .ok (present .plain 1 "a" _ (setting, analysis)) :=
    ofSource_eq_ok_iff.2 ⟨setting, analysis, found, rfl⟩
  exact ⟨_, compiles, shown, "slidoc-x a- ".toList, " b".toList, by simp⟩

end Compiled

end LectureDeck
