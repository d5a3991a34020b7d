import LectureDeck.Proofs.Deck.Veil

/-!
# Files that differ in their answers

Two files may have the same blocks but for what their answers say, so that the first answer of each
slide gives the same kind of question (`LectureDeck.AnsweredAlike`). When both can be read, then the
same is seen of them under the veil (`LectureDeck.Draft.veil_of_readFiles`).
-/

namespace LectureDeck

/-- No answer begins a slide. -/
theorem Block.isAnswer_of_startsSlide {block : Block} (starts : block.startsSlide = true) :
    block.isAnswer = false := by
  cases block <;> first | rfl | contradiction

section Answers

variable (W : Type) [Weight W] (plugins : Plugins)

/-- Two texts of an answer, if both can be read as one, give the same kind of question or none. -/
def Answer.SameKind (hasChoices : Bool) (content other : String) : Prop :=
  ∀ answer second : Answer W, Answer.parse content hasChoices plugins = .ok answer →
    Answer.parse other hasChoices plugins = .ok second → second.kind = answer.kind

/-- Two blocks that come next on a slide: both are the same, or both are answers. These give the
same kind of question if they are the first of the slide. -/
inductive Block.Alike (slide : List Block) : Block → Block → Prop
  | same (block : Block) : Alike slide block block
  | answers {content other : String}
      (kinds : slide.any Block.isAnswer = false →
        Answer.SameKind W plugins (slide.any Block.presents) content other) :
      Alike slide (.answer content) (.answer other)

/-- The blocks of two files that are alike one by one. -/
inductive AnsweredAlike : List Block → List Block → Prop
  | nil : AnsweredAlike [] []
  | concat {blocks others : List Block} {block other : Block}
      (earlier : AnsweredAlike blocks others)
      (last : block.Alike W plugins (currentSlide blocks) other) :
      AnsweredAlike (blocks ++ [block]) (others ++ [other])

end Answers

section Alike

variable {W : Type} [Weight W] {plugins : Plugins}

/-- An answer gives the same kind as itself, if it gives one. -/
theorem Answer.SameKind.refl {hasChoices : Bool} (content : String) :
    SameKind W plugins hasChoices content content := by
  intro answer second parsed parses
  rw [Except.ok.inj (parses.symm.trans parsed)]

/-- Files that are answered alike have as many blocks. -/
theorem AnsweredAlike.length_eq {blocks others : List Block}
    (alike : AnsweredAlike W plugins blocks others) : others.length = blocks.length := by
  induction alike with
  | nil => rfl
  | concat earlier last same => rw [List.length_append, List.length_append, same]; rfl

namespace Block.Alike

variable {slide : List Block} {block other : Block}

/-- No answer begins or ends a slide. -/
theorem endsSlide (alike : block.Alike W plugins slide other) :
    other.endsSlide = block.endsSlide := by cases alike <;> rfl

/-- Blocks that are alike begin slides alike. -/
theorem startsSlide (alike : block.Alike W plugins slide other) :
    other.startsSlide = block.startsSlide := by cases alike <;> rfl

/-- Blocks that are alike are content alike. -/
theorem isContent (alike : block.Alike W plugins slide other) :
    other.isContent = block.isContent := by cases alike <;> rfl

/-- A block that is like an answer is an answer, with the same kind of question. -/
theorem exists_answer {content : String}
    (alike : (Block.answer content).Alike W plugins slide other) :
    ∃ given, other = .answer given ∧ (slide.any Block.isAnswer = false →
      Answer.SameKind W plugins (slide.any Block.presents) content given) := by
  cases alike with
  | same => exact ⟨content, rfl, fun _ => .refl content⟩
  | answers kinds => exact ⟨_, rfl, kinds⟩

/-- Blocks that are no answers are the same. -/
theorem eq (alike : block.Alike W plugins slide other) (plain : block.isAnswer = false) :
    other = block := by
  cases alike with
  | same => rfl
  | answers kinds => contradiction

end Block.Alike

end Alike

namespace Veils

variable {ε α β : Type} {view : α → β} {first second : Except ε α} {seen again : Except ε β}

/-- Two readings that are seen alike have results that are seen alike. -/
theorem agree (one : Veils view first seen) (two : Veils view second again) (same : again = seen)
    {value other : α} (succeeds : first = .ok value) (also : second = .ok other) :
    view other = view value :=
  Except.ok.inj ((two other also).symm.trans (same.trans (one value succeeds)))

end Veils

namespace Draft

variable {W : Type} [Weight W] {setting other : Setting} {first second after later : Draft W}

/-- Of an answer that a slide is given, the kind is seen. -/
theorem veil_answered (draft : Draft W) (answer : Answer W) :
    (draft.answered answer).veil = draft.veil.answered answer.veil := by
  refine congrArg (Draft.mk draft.veil.file) ?_
  exact congrArg (fun written : SlideDraft W => { written with answer := some answer.veil })
    (draft.slide.veil_write _)

/-- Drafts that are seen alike are seen alike with answers of one kind. -/
theorem veil_answered_of_kind {answer given : Answer W} (drafts : second.veil = first.veil)
    (kind : given.kind = answer.kind) :
    (second.answered given).veil = (first.answered answer).veil := by
  have veiled : given.veil = answer.veil := by rw [Answer.veil, kind, ← Answer.veil]
  rw [veil_answered, veil_answered, drafts, veiled]

/-- Drafts that are seen alike are seen alike after blocks that are both content or both not. -/
theorem veil_of_noteContents (drafts : second.veil = first.veil) {block given : Block}
    (content : given.isContent = block.isContent) :
    (second.noteContent given).veil = (first.noteContent block).veil := by
  have seen (draft : Draft W) (block : Block) :
      (draft.noteContent block).veil = draft.veil.noteContent block := rfl
  rw [seen, seen, drafts, noteContent, noteContent, content]

section Readings

variable (settings : other.veil = setting.veil) (drafts : second.veil = first.veil)

include settings drafts

/-- Answers are seen alike that give the same kind of question. -/
theorem veil_of_readAnswers {slide : List Block} (tells : first.slide.Tells setting slide)
    {content given : String}
    (kinds : slide.any Block.isAnswer = false →
      Answer.SameKind W setting.plugins (slide.any Block.presents) content given)
    (read : first.readAnswer setting content = .ok after)
    (again : second.readAnswer other given = .ok later) : later.veil = after.veil := by
  have closed : (second.withSlide (second.slide.closeRegion .hint).closeChoices).veil =
      (first.withSlide (first.slide.closeRegion .hint).closeChoices).veil := by
    rw [← withSlide_veil_closeHint, ← withSlide_veil_closeHint, drafts]
  have answers : second.slide.answer.map Answer.veil = first.slide.answer.map Answer.veil :=
    congrArg (fun draft : Draft W => draft.slide.answer) drafts
  have choices : second.slide.choices = first.slide.choices :=
    (congrArg (fun draft : Draft W => draft.slide.choices) drafts :)
  have plugins : other.plugins = setting.plugins := (congrArg Setting.plugins settings :)
  rcases cases_of_readAnswer rfl read with ⟨answer, found, rfl⟩ | ⟨unanswered, answer, parsed, rfl⟩
  · rcases cases_of_readAnswer rfl again with ⟨_, _, rfl⟩ | ⟨missing, _⟩
    · rw [veil_warn, veil_warn, closed, settings]
    · rw [found, missing] at answers
      contradiction
  · rcases cases_of_readAnswer rfl again with ⟨_, found, rfl⟩ | ⟨_, second, parses, rfl⟩
    · rw [found, unanswered] at answers
      contradiction
    · have none := tells.answer
      rw [unanswered] at none
      have presents : decide (0 < first.slide.choices.count) = slide.any Block.presents :=
        Bool.eq_iff_iff.2 (decide_eq_true_iff.trans tells.choices)
      rw [presents] at parsed
      rw [choices, plugins, presents] at parses
      exact veil_answered_of_kind closed (kinds none.unanswered answer second parsed parses)

/-- The same block that is no answer leads from drafts that are seen alike to drafts that are seen
alike, if both can read it. -/
theorem veil_of_readParts_plain {block : Block} (plain : block.isAnswer = false)
    (read : first.readPart setting block = .ok after)
    (again : second.readPart other block = .ok later) : later.veil = after.veil :=
  (veils_readPart first plain).agree (veils_readPart second plain) (by rw [drafts, settings])
    read again

/-- **Blocks that are alike are seen alike.** -/
theorem veil_of_readParts {slide : List Block} (tells : first.slide.Tells setting slide)
    {block given : Block}
    (alike : block.Alike W setting.plugins slide given)
    (read : first.readPart setting block = .ok after)
    (again : second.readPart other given = .ok later) : later.veil = after.veil := by
  cases isAnswer : block.isAnswer with
  | false =>
    rw [alike.eq isAnswer] at again
    exact veil_of_readParts_plain settings drafts isAnswer read again
  | true =>
    cases block with
    | answer content =>
      obtain ⟨text, rfl, kinds⟩ := alike.exists_answer
      have begun : (second.beforeBlock (.answer text)).veil =
          (first.beforeBlock (.answer content)).veil := by
        rw [veil_beforeBlock, veil_beforeBlock, drafts]
        rfl
      exact veil_of_readAnswers settings begun
        (tells.of_silent (adds_beforeBlock first (.answer content))) kinds read again
    | _ => contradiction

/-- So do the ends of slides, at which questions are recorded that are not seen. -/
theorem veil_of_closeSlides {endBlock : Nat}
    (closed : first.closeSlide setting endBlock = .ok after)
    (again : second.closeSlide other endBlock = .ok later) : later.veil = after.veil :=
  (veils_closeSlide first endBlock).agree (veils_closeSlide second endBlock)
    (by rw [drafts, settings]) closed again

/-- So do the beginnings of slides. -/
theorem veil_of_nextSlides {endBlock : Nat}
    (opened : first.nextSlide setting endBlock = .ok after)
    (again : second.nextSlide other endBlock = .ok later) : later.veil = after.veil := by
  obtain ⟨ended, closed, rfl⟩ := exists_of_nextSlide opened
  obtain ⟨finished, closes, rfl⟩ := exists_of_nextSlide again
  have same := veil_of_closeSlides settings drafts closed closes
  have count : finished.file.slides.length = ended.file.slides.length := by
    simpa [veil, FileDraft.veil] using
      congrArg (fun draft : Draft W => draft.file.slides.length) same
  have number : other.fileNumber = setting.fileNumber :=
    (congrArg Setting.fileNumber settings :)
  rw [count, number, ← withSlide_veil finished rfl, ← withSlide_veil ended rfl, same]

/-- A block keeps two drafts alike, whether or not it ends the slide or begins one. -/
theorem veil_of_readBlocks {slide : List Block} (tells : first.slide.Tells setting slide)
    {block given : Block}
    (alike : block.Alike W setting.plugins slide given) {before : Nat}
    (read : first.readBlock setting (block, before) = .ok after)
    (again : second.readBlock other (given, before) = .ok later) : later.veil = after.veil := by
  have depth : second.slide.depth = first.slide.depth :=
    (congrArg (fun draft : Draft W => draft.slide.depth) drafts :)
  have content : second.slide.hasContent = first.slide.hasContent :=
    (congrArg (fun draft : Draft W => draft.slide.hasContent) drafts :)
  unfold readBlock at read again
  dsimp only at read again
  rw [depth, content, alike.endsSlide, alike.startsSlide] at again
  by_cases outermost : first.slide.depth = 0
  · rw [if_pos outermost] at read again
    by_cases ends : block.endsSlide = true
    · rw [if_pos ends] at read again
      exact veil_of_nextSlides settings drafts read again
    · rw [if_neg ends] at read again
      by_cases starts : (block.startsSlide && first.slide.hasContent) = true
      · rw [if_pos starts, bind_eq_ok] at read again
        obtain ⟨opened, next, part⟩ := read
        obtain ⟨opens, nexts, parts⟩ := again
        have plain := Block.isAnswer_of_startsSlide (Bool.and_eq_true_iff.1 starts).1
        rw [alike.eq plain] at parts
        have begun := veil_of_nextSlides settings drafts next nexts
        exact veil_of_readParts_plain settings (veil_of_noteContents begun rfl) plain part parts
      · rw [if_neg starts] at read again
        exact veil_of_readParts settings (veil_of_noteContents drafts alike.isContent)
          ((kept_tells setting).noted _ tells) alike read again
  · rw [if_neg outermost] at read again
    exact veil_of_readParts settings drafts tells alike read again

end Readings

/-- Two files are seen alike block by block. -/
theorem veil_of_blocks (settings : other.veil = setting.veil) {blocks others : List Block}
    (alike : AnsweredAlike W setting.plugins blocks others)
    (read : blocks.zipIdx.foldlM (readBlock setting) (start setting.fileNumber) = .ok after)
    (again : others.zipIdx.foldlM (readBlock other) (start other.fileNumber) = .ok later) :
    later.veil = after.veil := by
  induction alike generalizing after later with
  | nil =>
    cases read
    cases again
    exact congrArg (fun setting => (start setting.fileNumber : Draft W).veil) settings
  | concat earlier last both =>
    rw [foldlM_zipIdx_concat, bind_eq_ok] at read again
    obtain ⟨middle, before, step⟩ := read
    obtain ⟨beside, reads, steps⟩ := again
    rw [earlier.length_eq] at steps
    exact veil_of_readBlocks settings (both before reads)
      ((kept_tells setting).of_readBlocks before) last step steps

/-- **Files that are alike but for their answers are seen alike.** -/
theorem veil_of_readFiles (settings : other.veil = setting.veil)
    (alike : AnsweredAlike W setting.plugins setting.outline.blocks other.outline.blocks)
    (read : readFile setting = .ok after) (again : readFile other = .ok later) :
    later.veil = after.veil := by
  unfold readFile at read again
  obtain ⟨last, blocks, closed⟩ := bind_eq_ok.1 read
  obtain ⟨final, others, closes⟩ := bind_eq_ok.1 again
  rw [alike.length_eq] at closes
  exact veil_of_closeSlides settings (veil_of_blocks settings alike blocks others) closed closes

end Draft

end LectureDeck
