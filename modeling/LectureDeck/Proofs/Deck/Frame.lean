import LectureDeck.Proofs.Deck.Moves

/-!
# What a block leaves alone

A block that is part of a slide leaves the place of the slide alone, and the slides that have ended
(`LectureDeck.Draft.Moves.stays`). Of the questions so far it may change only what a reader may
skip.
-/

namespace LectureDeck

namespace SlideDraft

variable {W : Type}

/-- Two drafts of a slide stand at the same place of the file. -/
structure SamePlace (before after : SlideDraft W) : Prop where
  number : after.number = before.number
  id : after.id = before.id
  firstBlock : after.firstBlock = before.firstBlock
  hasContent : after.hasContent = before.hasContent
  depth : after.depth = before.depth

variable {slide after : SlideDraft W}

/-- A slide is at its own place. -/
theorem SamePlace.refl (slide : SlideDraft W) : SamePlace slide slide := ⟨rfl, rfl, rfl, rfl, rfl⟩

/-- A place that is kept twice is kept. -/
theorem SamePlace.trans {first second third : SlideDraft W} (earlier : SamePlace first second)
    (later : SamePlace second third) : SamePlace first third where
  number := later.number.trans earlier.number
  id := later.id.trans earlier.id
  firstBlock := later.firstBlock.trans earlier.firstBlock
  hasContent := later.hasContent.trans earlier.hasContent
  depth := later.depth.trans earlier.depth

/-- A slide apart from what is open on it, the number of hints, and what it wrote. -/
def bare (slide : SlideDraft W) : SlideDraft W :=
  { slide with
    regions := [], opened := [], isDiscarding := false, hintCount := 0, list := none
    choicesOpen := false, script := [] }

/-- Slides that differ in what is open and written alone are at the same place. -/
theorem SamePlace.of_bare (same : after.bare = slide.bare) : SamePlace slide after where
  number := (congrArg SlideDraft.number same : after.bare.number = slide.bare.number)
  id := (congrArg SlideDraft.id same : after.bare.id = slide.bare.id)
  firstBlock :=
    (congrArg SlideDraft.firstBlock same : after.bare.firstBlock = slide.bare.firstBlock)
  hasContent :=
    (congrArg SlideDraft.hasContent same : after.bare.hasContent = slide.bare.hasContent)
  depth := (congrArg SlideDraft.depth same : after.bare.depth = slide.bare.depth)

/-- Slides that differ in what is open and written alone have the same answer. -/
theorem answer_of_bare (same : after.bare = slide.bare) : after.answer = slide.answer :=
  (congrArg SlideDraft.answer same : after.bare.answer = slide.bare.answer)

/-- Such slides present the same choices. -/
theorem choices_of_bare (same : after.bare = slide.bare) : after.choices = slide.choices :=
  (congrArg SlideDraft.choices same : after.bare.choices = slide.bare.choices)

/-- Such slides call the same plugins. -/
theorem calls_of_bare (same : after.bare = slide.bare) : after.calls = slide.calls :=
  (congrArg SlideDraft.calls same : after.bare.calls = slide.bare.calls)

/-- Such slides embed the same plugins. -/
theorem embeds_of_bare (same : after.bare = slide.bare) : after.embeds = slide.embeds :=
  (congrArg SlideDraft.embeds same : after.bare.embeds = slide.bare.embeds)

/-- A region is opened if it is not open. -/
theorem eq_of_openRegion {region : Region} (opened : slide.openRegion region = .ok after) :
    region ∉ slide.regions ∧ after =
      (slide.enter region).write (.opening ((slide.enter region).regionElement region)) := by
  unfold openRegion at opened
  split at opened
  · contradiction
  · rename_i new
    exact ⟨by simpa using new, (Except.ok.inj opened).symm⟩

/-- A view of slides that tells neither what is open on them nor where that is in the script. -/
structure OverlooksMarks {α : Type} (view : SlideDraft W → α) : Prop where
  opening : ∀ slide element, view (slide.write (.opening element)) = view slide
  closing : ∀ slide element, view (slide.write (.closing element)) = view slide
  still : ∀ (slide : SlideDraft W) regions opened isDiscarding hintCount list choicesOpen,
    view { slide with
      regions := regions, opened := opened, isDiscarding := isDiscarding, hintCount := hintCount
      list := list, choicesOpen := choicesOpen } = view slide

namespace OverlooksMarks

variable {α : Type} {view : SlideDraft W → α}

/-- A view that overlooks marks does not see the innermost region closed. -/
theorem closeInnermost (overlooks : OverlooksMarks view) (slide : SlideDraft W) :
    view slide.closeInnermost = view slide := by
  unfold SlideDraft.closeInnermost
  split
  · rfl
  · rename_i region outer _
    have closed := overlooks.closing slide (slide.regionElement region)
    exact (overlooks.still (slide.write _) outer _ _ _ _ _).trans closed

/-- Nor does it see several regions closed. -/
theorem closeMany (overlooks : OverlooksMarks view) (count : Nat) (slide : SlideDraft W) :
    view (SlideDraft.closeMany count slide) = view slide := by
  induction count generalizing slide with
  | zero => rfl
  | succ count later => exact (later _).trans (overlooks.closeInnermost slide)

/-- It does not see a region closed with what is open in it. -/
theorem closeRegion (overlooks : OverlooksMarks view) (slide : SlideDraft W) (region : Region) :
    view (slide.closeRegion region) = view slide := by
  unfold SlideDraft.closeRegion
  split
  · exact overlooks.closeMany _ slide
  · rfl

/-- It does not see a region opened. -/
theorem openRegion (overlooks : OverlooksMarks view) {region : Region}
    (opened : slide.openRegion region = .ok after) : view after = view slide := by
  obtain ⟨-, rfl⟩ := eq_of_openRegion opened
  exact (overlooks.opening _ _).trans (overlooks.still slide (region :: slide.regions) _ _ _ _ _)

/-- It does not see a list closed. -/
theorem closeList (overlooks : OverlooksMarks view) (slide : SlideDraft W) :
    view slide.closeList = view slide := by
  unfold SlideDraft.closeList
  split
  · exact (overlooks.closing _ _).trans (overlooks.still slide _ _ _ _ none _)
  · rfl

/-- It does not see a list opened. -/
theorem openList (overlooks : OverlooksMarks view) (slide : SlideDraft W) (ordered : Bool) :
    view (slide.openList ordered) = view slide := by
  unfold SlideDraft.openList
  split
  · rfl
  · have opened := overlooks.still slide.closeList slide.closeList.regions slide.closeList.opened
      slide.closeList.isDiscarding slide.closeList.hintCount (some ordered)
      slide.closeList.choicesOpen
    exact (overlooks.opening _ _).trans (opened.trans (overlooks.closeList slide))

/-- It does not see choices closed. -/
theorem closeChoices (overlooks : OverlooksMarks view) (slide : SlideDraft W) :
    view slide.closeChoices = view slide := by
  unfold SlideDraft.closeChoices
  split
  · exact (overlooks.closing _ _).trans (overlooks.still slide _ _ _ _ _ false)
  · rfl

/-- It does not see choices opened. -/
theorem openChoices (overlooks : OverlooksMarks view) (slide : SlideDraft W) :
    view slide.openChoices = view slide := by
  unfold SlideDraft.openChoices
  split
  · rfl
  · exact (overlooks.opening _ _).trans (overlooks.still slide _ _ _ _ _ true)

/-- It does not see what is closed at the end of a slide. -/
theorem closeAll (overlooks : OverlooksMarks view) (slide : SlideDraft W) :
    view slide.closeAll = view slide := by
  have regions (names : List Region) (middle : SlideDraft W) :
      view (names.foldl SlideDraft.closeRegion middle) = view middle := by
    induction names generalizing middle with
    | nil => rfl
    | cons region rest later => exact (later _).trans (overlooks.closeRegion middle region)
  have shown := overlooks.still slide slide.regions slide.opened false slide.hintCount slide.list
    slide.choicesOpen
  exact (regions _ _).trans ((overlooks.closeChoices _).trans ((overlooks.closeList _).trans shown))

end OverlooksMarks

/-- A slide without what is open on it and without its script is such a view, so that opening and
closing change nothing else. -/
theorem overlooksMarks_bare : OverlooksMarks (W := W) bare :=
  ⟨fun _ _ => rfl, fun _ _ => rfl, fun _ _ _ _ _ _ _ => rfl⟩

/-- Closing a region changes nothing but what is open and written. -/
theorem bare_closeRegion (slide : SlideDraft W) (region : Region) :
    (slide.closeRegion region).bare = slide.bare :=
  OverlooksMarks.closeRegion overlooksMarks_bare slide region

/-- Neither does opening one. -/
theorem bare_of_openRegion {region : Region} (opened : slide.openRegion region = .ok after) :
    after.bare = slide.bare := OverlooksMarks.openRegion overlooksMarks_bare opened

/-- Closing a list changes nothing but what is open and written. -/
theorem bare_closeList (slide : SlideDraft W) : slide.closeList.bare = slide.bare :=
  OverlooksMarks.closeList overlooksMarks_bare slide

/-- Opening a list changes nothing but what is open and written. -/
theorem bare_openList (slide : SlideDraft W) (ordered : Bool) :
    (slide.openList ordered).bare = slide.bare :=
  OverlooksMarks.openList overlooksMarks_bare slide ordered

/-- Closing choices changes nothing but what is open and written. -/
theorem bare_closeChoices (slide : SlideDraft W) : slide.closeChoices.bare = slide.bare :=
  OverlooksMarks.closeChoices overlooksMarks_bare slide

/-- Opening choices changes nothing but what is open and written. -/
theorem bare_openChoices (slide : SlideDraft W) : slide.openChoices.bare = slide.bare :=
  OverlooksMarks.openChoices overlooksMarks_bare slide

/-- The end of a slide closes what is open and changes nothing else of it. -/
theorem bare_closeAll (slide : SlideDraft W) : slide.closeAll.bare = slide.bare :=
  OverlooksMarks.closeAll overlooksMarks_bare slide

end SlideDraft

/-- A question apart from what a reader may skip from it. -/
def Question.bare {W : Type} (question : Question W) : Question W := { question with skip := none }

/-- Two drafts of a file have the same slides, and the same questions on them. -/
structure FileDraft.SameSlides {W : Type} (before after : FileDraft W) : Prop where
  slides : after.slides = before.slides
  scripts : after.scripts = before.scripts
  occurrences : after.occurrences = before.occurrences
  ledger : after.ledger = before.ledger
  questions : after.questions.map Question.bare = before.questions.map Question.bare

/-- Slides and questions that are kept twice are kept. -/
theorem FileDraft.SameSlides.trans {W : Type} {first second third : FileDraft W}
    (earlier : SameSlides first second) (later : SameSlides second third) :
    SameSlides first third where
  slides := later.slides.trans earlier.slides
  scripts := later.scripts.trans earlier.scripts
  occurrences := later.occurrences.trans earlier.occurrences
  ledger := later.ledger.trans earlier.ledger
  questions := later.questions.trans earlier.questions

/-- Each question was there before, apart from what a reader may skip. -/
theorem FileDraft.SameSlides.exists_mem {W : Type} {file after : FileDraft W}
    (same : file.SameSlides after) {question : Question W}
    (member : question ∈ after.questions) :
    ∃ other ∈ file.questions, question = { other with skip := question.skip } := by
  have bare := List.mem_map_of_mem (f := Question.bare) member
  rw [same.questions] at bare
  obtain ⟨other, known, equal⟩ := List.mem_map.1 bare
  refine ⟨other, known, ?_⟩
  cases question
  cases equal
  rfl

/-- It does not matter which of two drafts comes first. -/
theorem FileDraft.SameSlides.symm {W : Type} {file after : FileDraft W}
    (same : file.SameSlides after) : after.SameSlides file :=
  ⟨same.slides.symm, same.scripts.symm, same.occurrences.symm, same.ledger.symm,
    same.questions.symm⟩

namespace Draft

variable {W : Type} {setting : Setting} {draft after : Draft W}

/-- Two drafts are at the same slide of the same file. -/
structure Stays (before after : Draft W) : Prop where
  place : before.slide.SamePlace after.slide
  file : before.file.SameSlides after.file

/-- A draft is at its own slide. -/
theorem Stays.refl (draft : Draft W) : Stays draft draft := ⟨.refl _, ⟨rfl, rfl, rfl, rfl, rfl⟩⟩

/-- A draft that stays twice stays. -/
theorem Stays.trans {first second third : Draft W} (earlier : Stays first second)
    (later : Stays second third) : Stays first third :=
  ⟨earlier.place.trans later.place, earlier.file.trans later.file⟩

/-- A slide changed at its place leaves the file alone. -/
theorem stays_withSlide {slide : SlideDraft W} (place : draft.slide.SamePlace slide) :
    Stays draft (draft.withSlide slide) := ⟨place, ⟨rfl, rfl, rfl, rfl, rfl⟩⟩

/-- The number of a heading is counted by the file. -/
theorem slide_numberHeading (setting : Setting) (draft : Draft W) (level : Nat) (content : String) :
    (draft.numberHeading setting level content).1.slide = draft.slide := by
  unfold numberHeading
  dsimp only
  split
  · rfl
  · split <;> rfl

/-- Links are followed by the file. -/
theorem slide_follow (draft : Draft W) (id : String) : (draft.follow id).slide = draft.slide := by
  unfold Draft.follow
  split <;> rfl

/-- A skip is noted at its question and changes nothing else of it. -/
theorem bare_annotate (skip : Nat × Skip W) (question : Question W) :
    (annotate skip question).bare = question.bare := by
  unfold annotate
  split <;> rfl

/-- Neither do several skips. -/
theorem map_bare_annotate (skips : List (Nat × Skip W)) (questions : List (Question W)) :
    (skips.foldl (fun questions skip => questions.map (annotate skip)) questions).map
      Question.bare = questions.map Question.bare := by
  induction skips generalizing questions with
  | nil => rfl
  | cons skip rest later =>
    rw [List.foldl_cons, later, List.map_map]
    exact List.map_congr_left fun question _ => bare_annotate skip question

variable [Weight W]

/-- Links are settled by the file. -/
theorem slide_of_settle (settled : draft.settle setting = .ok after) :
    after.slide = draft.slide := by
  unfold settle at settled
  split at settled
  · contradiction
  · cases settled
    rfl

/-- References are defined by the file. -/
theorem slide_of_define {id counter : String} {kind : ReferenceKind}
    {result : Draft W × Reference.Defined}
    (made : draft.define setting id kind counter = .ok result) : result.1.slide = draft.slide := by
  unfold define at made
  dsimp only at made
  split at made
  · rw [bind_eq_ok] at made
    obtain ⟨settled, settles, same⟩ := made
    cases same
    exact (slide_of_settle settles).trans rfl
  · cases made
    rfl

/-- Links that settle may add to questions what a reader skips, and leave the slides alone. -/
theorem stays_of_settle (settled : draft.settle setting = .ok after) : Stays draft after := by
  unfold settle at settled
  split at settled
  · contradiction
  · cases settled
    exact ⟨.refl _, ⟨rfl, rfl, rfl, rfl, map_bare_annotate _ _⟩⟩

/-- A definition stays at the slide, with the links that it settles. -/
theorem stays_of_define {id counter : String} {kind : ReferenceKind}
    {result : Draft W × Reference.Defined}
    (made : draft.define setting id kind counter = .ok result) : Stays draft result.1 := by
  unfold define at made
  dsimp only at made
  split at made
  · rw [bind_eq_ok] at made
    obtain ⟨settled, settles, same⟩ := made
    cases same
    have defined := stays_of_settle settles
    exact ⟨⟨defined.place.number, defined.place.id, defined.place.firstBlock,
      defined.place.hasContent, defined.place.depth⟩, ⟨defined.file.slides, defined.file.scripts,
      defined.file.occurrences, defined.file.ledger, defined.file.questions⟩⟩
  · cases made
    exact ⟨.refl _, ⟨rfl, rfl, rfl, rfl, rfl⟩⟩

/-- Every move stays at the slide of its draft. -/
theorem Move.stays (move : Move setting draft after) : Stays draft after := by
  cases move with
  | follow id =>
    unfold Draft.follow
    split <;> exact ⟨.refl _, ⟨rfl, rfl, rfl, rfl, rfl⟩⟩
  | define made => exact stays_of_define made
  | number level content =>
    unfold numberHeading
    dsimp only
    split
    · exact ⟨.refl _, ⟨rfl, rfl, rfl, rfl, rfl⟩⟩
    · split <;> exact ⟨.refl _, ⟨rfl, rfl, rfl, rfl, rfl⟩⟩
  | closeList => exact stays_withSlide (.of_bare (SlideDraft.bare_closeList _))
  | openList ordered => exact stays_withSlide (.of_bare (SlideDraft.bare_openList _ ordered))
  | closeChoices => exact stays_withSlide (.of_bare (SlideDraft.bare_closeChoices _))
  | present agrees presented =>
    refine stays_withSlide (SlideDraft.SamePlace.trans ?_
      (.of_bare (SlideDraft.bare_openChoices _)))
    exact ⟨rfl, rfl, rfl, rfl, rfl⟩
  | closeHint => exact stays_withSlide (.of_bare (SlideDraft.bare_closeRegion _ _))
  | hint penalty body opened =>
    have closed := SlideDraft.SamePlace.of_bare (SlideDraft.bare_closeRegion draft.slide .hint)
    refine stays_withSlide (closed.trans (SlideDraft.SamePlace.trans ?_
      (.of_bare (SlideDraft.bare_of_openRegion opened))))
    exact ⟨rfl, rfl, rfl, rfl, rfl⟩
  | openNotes body opened =>
    exact stays_withSlide (.of_bare (SlideDraft.bare_of_openRegion opened))
  | extra opened =>
    exact stays_withSlide (.of_bare ((SlideDraft.bare_of_openRegion opened).trans
      ((SlideDraft.bare_closeChoices _).trans (SlideDraft.bare_closeRegion _ _))))
  | hide first opened => exact stays_withSlide (.of_bare (SlideDraft.bare_of_openRegion opened))
  | _ => exact ⟨⟨rfl, rfl, rfl, rfl, rfl⟩, ⟨rfl, rfl, rfl, rfl, rfl⟩⟩

/-- What becomes of the question on a slide: nothing, or one more choice is presented, or it is
answered. -/
inductive Asks (setting : Setting) (before after : SlideDraft W) : Prop
  | same (answer : after.answer = before.answer) (choices : after.choices = before.choices)
  | presents (marker : Char × Bool)
      (agrees : ∀ kind ∈ before.answer.bind Answer.kind, kind.isChoice = true)
      (presented : before.choices.present setting.multiplicity marker.1 marker.2 =
        .ok after.choices)
      (answer : after.answer = before.answer)
  | answers {answer : Answer W} {text : String} {hasChoices : Bool}
      (parsed : Answer.parse text hasChoices setting.plugins = .ok answer)
      (agrees : 0 < before.choices.count → ∀ kind ∈ answer.kind, kind.isChoice = true)
      (given : after.answer = some answer) (choices : after.choices = before.choices)

/-- What changes what is open and written alone asks for nothing. -/
theorem Asks.of_bare {before after : SlideDraft W} (same : after.bare = before.bare) :
    Asks setting before after :=
  .same (SlideDraft.answer_of_bare same) (SlideDraft.choices_of_bare same)

/-- A move presents one choice at most, or answers the question. -/
theorem Move.asks (move : Move setting draft after) : Asks setting draft.slide after.slide := by
  cases move with
  | follow id =>
    rw [slide_follow]
    exact .same rfl rfl
  | define made =>
    rw [slide_of_define made]
    exact .same rfl rfl
  | number level content =>
    rw [slide_numberHeading]
    exact .same rfl rfl
  | closeList => exact .of_bare (SlideDraft.bare_closeList _)
  | openList ordered => exact .of_bare (SlideDraft.bare_openList _ ordered)
  | closeChoices => exact .of_bare (SlideDraft.bare_closeChoices _)
  | @present marker choices agrees presented =>
    let presents : SlideDraft W := { draft.slide with choices := choices }
    have opened := SlideDraft.bare_openChoices presents
    have answer := SlideDraft.answer_of_bare opened
    have same := SlideDraft.choices_of_bare opened
    exact .presents marker agrees (presented.trans (congrArg Except.ok same.symm)) answer
  | closeHint => exact .of_bare (SlideDraft.bare_closeRegion _ _)
  | hint penalty body opened =>
    have bare := SlideDraft.bare_of_openRegion opened
    have closed := SlideDraft.bare_closeRegion draft.slide .hint
    have answer := SlideDraft.answer_of_bare closed
    have choices := SlideDraft.choices_of_bare closed
    exact .same ((SlideDraft.answer_of_bare bare).trans answer)
      ((SlideDraft.choices_of_bare bare).trans choices)
  | openNotes body opened => exact .of_bare (SlideDraft.bare_of_openRegion opened)
  | extra opened =>
    exact .of_bare ((SlideDraft.bare_of_openRegion opened).trans
      ((SlideDraft.bare_closeChoices _).trans (SlideDraft.bare_closeRegion _ _)))
  | hide first opened => exact .of_bare (SlideDraft.bare_of_openRegion opened)
  | answer parsed unanswered agrees => exact .answers parsed agrees rfl rfl
  | _ => exact .same rfl rfl

/-- **A block stays on its slide.** -/
theorem Moves.stays (moves : Moves setting draft after) : Stays draft after :=
  moves.preserve (fun last earlier => earlier.trans last.stays) (.refl draft)

/-- A block that is part of the slide opens or closes a quote at most. -/
theorem stays_of_readPart {block : Block} (read : draft.readPart setting block = .ok after) :
    Stays (draft.withSlide { draft.slide with depth := block.turn draft.slide.depth }) after := by
  have begun : Stays draft (draft.beforeBlock block) :=
    Moves.stays (moves_beforeBlock draft block : Moves setting draft _)
  have stays := (moves_of_readContent read).stays
  obtain ⟨script, turns⟩ := exists_turned_eq (draft.beforeBlock block) block
  rw [turns] at stays
  refine ⟨⟨stays.place.number.trans begun.place.number, stays.place.id.trans begun.place.id,
    stays.place.firstBlock.trans begun.place.firstBlock,
    stays.place.hasContent.trans begun.place.hasContent, ?_⟩, begun.file.trans stays.file⟩
  exact stays.place.depth.trans (congrArg block.turn begun.place.depth)

end Draft

end LectureDeck
