import LectureDeck.Proofs.Deck.Calls

/-!
# Paragraphs with choices

The choices of a slide are those that the markers in its paragraphs present, whatever stands between
them (`LectureDeck.Draft.kept_choices`). A paragraph is read if its markers go on with those before
it as a layout of choices, and otherwise fails at the first marker that does not, unless a reference
that its text defines ends the reading (`LectureDeck.Draft.takesMarkers_of_unanswered`).
-/

namespace LectureDeck

namespace CompileError

variable {W : Type}

/-- The error is of a link that skips questions. -/
def isGradedSkip : CompileError W → Bool
  | gradedSkip .. => true
  | _ => false

end CompileError

namespace Draft

variable {W : Type} [Weight W] {setting : Setting} {draft after : Draft W}
  {error : CompileError W}

omit [Weight W] in
theorem brings_beforeBlock (setting : Setting) (draft : Draft W) (block : Block) :
    Brings setting [] [] draft (draft.beforeBlock block) := by
  unfold beforeBlock
  split
  · exact .refl _
  · exact brings_closeList setting draft

/-- A block of a slide presents the choices that its markers tell. -/
theorem presentAll_of_readPart {block : Block} (read : draft.readPart setting block = .ok after) :
    draft.slide.choices.presentAll setting.multiplicity block.markers =
      .ok after.slide.choices := by
  have begun : draft.slide.choices = (draft.beforeBlock block).slide.choices :=
    Except.ok.inj (brings_beforeBlock setting draft block).choices
  rw [begun]
  cases embeds : block.embedded? with
  | none => exact (brings_of_readContent embeds read).choices
  | some name =>
    cases block with
    | pluginEmbed plugin arguments =>
      obtain ⟨-, embedded⟩ := embedRead_of_readEmbed read
      rw [embedded.choices]
      rfl
    | _ => contradiction

/-- **The choices of a slide are those that its paragraphs present.** -/
theorem kept_choices (setting : Setting) : Kept (W := W) setting fun blocks slide =>
    Choices.presentAll setting.multiplicity {} (blocks.flatMap Block.markers) =
      .ok slide.choices where
  start := fun _ _ => rfl
  noted := fun _ presented => presented
  part := by
    intro blocks draft after block read presented
    rw [List.flatMap_append, Choices.presentAll_append, presented, List.flatMap_singleton]
    exact presentAll_of_readPart read
  rule := by
    intro blocks slide presented
    simpa [Block.markers] using presented

section Failures

theorem isGradedSkip_of_settle (failed : draft.settle setting = .error error) :
    error.isGradedSkip = true := by
  unfold settle at failed
  split at failed
  · cases failed
    rfl
  · contradiction

theorem isGradedSkip_of_define {id counter : String} {kind : ReferenceKind}
    (failed : draft.define setting id kind counter = .error error) :
    error.isGradedSkip = true := by
  unfold define at failed
  dsimp only at failed
  split at failed
  · rcases bind_eq_error.1 failed with failed | ⟨_, -, failed⟩
    · exact isGradedSkip_of_settle failed
    · contradiction
  · contradiction

theorem isGradedSkip_of_readStep {step : TextStep}
    (failed : draft.readStep setting step = .error error) : error.isGradedSkip = true := by
  cases step with
  | token token =>
    cases token with
    | definition content key =>
      rcases bind_eq_error.1 (failed : draft.readDefinition setting content key = .error error) with
        failed | ⟨_, -, failed⟩
      · exact isGradedSkip_of_define failed
      · contradiction
    | _ => contradiction
  | opening element => contradiction
  | closing element => contradiction

/-- Running text fails only where it defines a reference. -/
theorem isGradedSkip_of_readInside {element : Element} {steps : List TextStep}
    (failed : readInside setting element steps draft = .error error) :
    error.isGradedSkip = true := by
  unfold readInside at failed
  rcases bind_eq_error.1 failed with failed | ⟨_, -, failed⟩
  · obtain ⟨_, step, _, middle, -, -, failed⟩ := exists_of_foldlM_eq_error failed
    exact isGradedSkip_of_readStep failed
  · contradiction

omit [Weight W] in
/-- A marker on a slide without an answer is at fault if it cannot be presented. -/
theorem exists_of_readMarker_eq_error (unanswered : draft.slide.answer = none)
    {marker : Char × Bool} (failed : draft.readMarker setting marker = .error error) :
    ∃ fault, draft.slide.choices.present setting.multiplicity marker.1 marker.2 = .error fault ∧
      error = .faultySlide ⟨setting.file, draft.slide.number⟩ fault := by
  unfold readMarker at failed
  rw [unanswered] at failed
  cases presented : draft.slide.choices.present setting.multiplicity marker.1 marker.2 with
  | ok choices => simp [presented, located, bind, Except.bind, pure, Except.pure] at failed
  | error fault =>
    refine ⟨fault, rfl, ?_⟩
    simpa [presented, located, bind, Except.bind, eq_comm] using failed

/-- Why a text with markers of choices fails on a slide without an answer: one of the markers is at
fault, or a reference is defined after some of them. -/
inductive MarkersFail (setting : Setting) (slide : SlideDraft W) (markers : List (Char × Bool))
    (error : CompileError W) : Prop
  | offends {fault : SlideFault}
      (failed : slide.choices.presentAll setting.multiplicity markers = .error fault)
      (same : error = .faultySlide ⟨setting.file, slide.number⟩ fault)
  | skips {met : List (Char × Bool)} {choices : Choices} (begins : met <+: markers)
      (presented : slide.choices.presentAll setting.multiplicity met = .ok choices)
      (skips : error.isGradedSkip = true)

theorem markersFail_of_readChoices {items : List ((Char × Bool) × List Inline)}
    (unanswered : draft.slide.answer = none)
    (failed : items.foldlM (readChoice setting) draft = .error error) :
    MarkersFail setting draft.slide (items.map Prod.fst) error := by
  obtain ⟨before, item, rest, middle, rfl, passed, failed⟩ := exists_of_foldlM_eq_error failed
  have met := (brings_of_readChoices passed).choices
  have same := (adds_of_readChoices passed).answer.trans unanswered
  have choice {middle next : Draft W} {item : (Char × Bool) × List Inline}
      (read : middle.readChoice setting item = .ok next)
      (earlier : Moves setting draft middle) : Moves setting draft next :=
    earlier.trans (moves_of_readChoice read)
  have moves := foldlM_induction choice passed (.refl draft)
  have number : middle.slide.number = draft.slide.number := moves.stays.place.number
  have whole : (before ++ item :: rest).map Prod.fst =
      before.map Prod.fst ++ item.1 :: rest.map Prod.fst := by simp
  unfold readChoice at failed
  rcases bind_eq_error.1 failed with failed | ⟨marked, marks, failed⟩
  · obtain ⟨fault, presented, rfl⟩ := exists_of_readMarker_eq_error same failed
    have same : (CompileError.faultySlide ⟨setting.file, middle.slide.number⟩ fault :
        CompileError W) = .faultySlide ⟨setting.file, draft.slide.number⟩ fault := by rw [number]
    refine .offends ?_ same
    rw [whole, Choices.presentAll_append, met]
    change middle.slide.choices.presentAll _ (item.1 :: _) = _
    rw [Choices.presentAll, List.foldlM_cons, presented]
    rfl
  · have more := (brings_of_readMarker marks).choices
    have begins : before.map Prod.fst ++ [item.1] <+: (before ++ item :: rest).map Prod.fst :=
      ⟨rest.map Prod.fst, by simp⟩
    have presented : draft.slide.choices.presentAll setting.multiplicity
        (before.map Prod.fst ++ [item.1]) = .ok marked.slide.choices := by
      rw [Choices.presentAll_append, met]
      exact more
    exact .skips begins presented (isGradedSkip_of_readInside failed)

theorem markersFail_of_readParagraph {content : String} (unanswered : draft.slide.answer = none)
    (failed : draft.readParagraph setting content = .error error) :
    MarkersFail setting draft.slide (Block.markers (.text content)) error := by
  unfold readParagraph at failed
  dsimp only at failed
  split at failed
  · exact markersFail_of_readChoices unanswered failed
  · rcases bind_eq_error.1 failed with failed | ⟨middle, lead, failed⟩
    · exact .skips List.nil_prefix rfl (isGradedSkip_of_readInside failed)
    · have same := (adds_of_readInside lead).answer.trans unanswered
      have choices : draft.slide.choices = middle.slide.choices :=
        Except.ok.inj (brings_of_readInside lead).choices
      have number : middle.slide.number = draft.slide.number :=
        (moves_of_readInside rfl (fun _ => TextStep.isPlain_of_mem_flatMap)
          lead).stays.place.number
      cases markersFail_of_readChoices same failed with
      | offends failed same => exact .offends (choices ▸ failed) (number ▸ same)
      | skips begins presented skips => exact .skips begins (choices ▸ presented) skips

end Failures

/-- How a paragraph is read whose markers come after earlier ones on a slide: it is read if all of
them are the markers of a layout of choices, and the choices are those of the layout. Otherwise it
fails at the first marker with which no layout goes on. Only a reference that its text defines may
end the reading before that, after markers of a layout. -/
structure TakesMarkers (setting : Setting) (slide : Nat) (earlier own : List (Char × Bool))
    (result : Except (CompileError W) (Draft W)) : Prop where
  accepted : ∀ after, result = .ok after → ∃ layout : ChoiceLayout,
    layout.IsAllowed setting.multiplicity ∧ layout.markers = earlier ++ own ∧
      after.slide.choices = layout.choices
  refused : ∀ error, result = .error error → error.isGradedSkip = false →
    ∃ fault layout marker, error = .faultySlide ⟨setting.file, slide⟩ fault ∧
      Choices.Offends setting.multiplicity (earlier ++ own) fault layout marker
  interrupted : ∀ error, result = .error error → error.isGradedSkip = true →
    ∃ layout : ChoiceLayout, layout.IsAllowed setting.multiplicity ∧
      earlier <+: layout.markers ∧ layout.markers <+: earlier ++ own
  decides : (∀ error, result = .error error → error.isGradedSkip = false) →
    ((∃ after, result = .ok after) ↔ ∃ layout : ChoiceLayout,
      layout.IsAllowed setting.multiplicity ∧ layout.markers = earlier ++ own)

variable {earlier : List (Char × Bool)}

/-- **A paragraph is read if its markers go on as a layout of choices,** given that the slide has no
answer yet. -/
theorem takesMarkers_of_readParagraph (unanswered : draft.slide.answer = none)
    (presented : Choices.presentAll setting.multiplicity {} earlier = .ok draft.slide.choices)
    (content : String) : TakesMarkers setting draft.slide.number earlier
      (Block.markers (.text content)) (draft.readParagraph setting content) := by
  have accepted (after : Draft W) (read : draft.readParagraph setting content = .ok after) :
      Choices.presentAll setting.multiplicity {} (earlier ++ Block.markers (.text content)) =
        .ok after.slide.choices := by
    rw [Choices.presentAll_append, presented]
    exact (brings_of_readParagraph read).choices
  have refused (error : CompileError W)
      (failed : draft.readParagraph setting content = .error error)
      (other : error.isGradedSkip = false) : ∃ fault,
        Choices.presentAll setting.multiplicity {} (earlier ++ Block.markers (.text content)) =
          .error fault ∧ error = .faultySlide ⟨setting.file, draft.slide.number⟩ fault := by
    cases markersFail_of_readParagraph unanswered failed with
    | offends failed same =>
      refine ⟨_, ?_, same⟩
      rw [Choices.presentAll_append, presented]
      exact failed
    | skips _ _ skips => cases skips.symm.trans other
  refine ⟨fun after read => ?_, fun error failed other => ?_, fun error failed skips => ?_,
    fun others => ⟨?_, ?_⟩⟩
  · obtain ⟨layout, allowed, markers, choices⟩ :=
      Choices.presentAll_eq_ok_iff.1 (accepted after read)
    exact ⟨layout, allowed, markers, choices.symm⟩
  · obtain ⟨fault, failed, same⟩ := refused error failed other
    obtain ⟨layout, marker, offends⟩ := Choices.exists_offends_of_presentAll failed
    exact ⟨fault, layout, marker, same, offends⟩
  · cases markersFail_of_readParagraph unanswered failed with
    | offends _ same => cases same ▸ skips
    | @skips met choices begins meets _ =>
      obtain ⟨rest, whole⟩ := begins
      have both : Choices.presentAll setting.multiplicity {} (earlier ++ met) = .ok choices := by
        rw [Choices.presentAll_append, presented]
        exact meets
      obtain ⟨layout, allowed, markers, -⟩ := Choices.presentAll_eq_ok_iff.1 both
      exact ⟨layout, allowed, markers ▸ List.prefix_append _ _, rest, by
        rw [markers, List.append_assoc, whole]⟩
  · rintro ⟨after, read⟩
    obtain ⟨layout, allowed, markers, -⟩ := Choices.presentAll_eq_ok_iff.1 (accepted after read)
    exact ⟨layout, allowed, markers⟩
  · rintro ⟨layout, allowed, markers⟩
    cases read : draft.readParagraph setting content with
    | ok after => exact ⟨after, rfl⟩
    | error error =>
      obtain ⟨fault, failed, -⟩ := refused error read (others error read)
      rw [← markers, Choices.presentAll_of_isAllowed allowed] at failed
      contradiction

/-- A slide without a block that answers has no answer. -/
theorem answer_eq_none {blocks : List Block}
    (read : blocks.zipIdx.foldlM (readBlock setting) (Draft.start setting.fileNumber) = .ok draft)
    (unanswered : (currentSlide blocks).any Block.isAnswer = false) :
    draft.slide.answer = none := by
  have first := ((kept_tells setting).of_readBlocks read).answer
  revert unanswered
  generalize currentSlide blocks = own at first
  intro unanswered
  cases given : draft.slide.answer with
  | none => rfl
  | some answer =>
    rw [given] at first
    cases first with
    | some _ _ => simp [Block.isAnswer] at unanswered

/-- **A paragraph on a slide without an answer** is read if the markers of the slide so far and its
own are those of a layout of choices. -/
theorem takesMarkers_of_unanswered {blocks : List Block}
    (read : blocks.zipIdx.foldlM (readBlock setting) (Draft.start setting.fileNumber) = .ok draft)
    (unanswered : (currentSlide blocks).any Block.isAnswer = false) (content : String) :
    TakesMarkers setting draft.slide.number ((currentSlide blocks).flatMap Block.markers)
      (Block.markers (.text content)) (draft.readBlock setting (.text content, blocks.length)) := by
  have answer := answer_eq_none read unanswered
  have presented := (kept_choices setting).of_readBlocks read
  have paragraph (slide : SlideDraft W) (place : slide.number = draft.slide.number)
      (given : slide.answer = draft.slide.answer) (choices : slide.choices = draft.slide.choices) :
      TakesMarkers setting draft.slide.number ((currentSlide blocks).flatMap Block.markers)
        (Block.markers (.text content))
        ((draft.withSlide slide).readPart setting (.text content)) := by
    have bare := SlideDraft.bare_closeList slide
    rw [← choices, ← SlideDraft.choices_of_bare bare] at presented
    rw [← given, ← SlideDraft.answer_of_bare bare] at answer
    rw [← place, ← (SlideDraft.SamePlace.of_bare bare).number]
    have takes : TakesMarkers setting (draft.withSlide slide.closeList).slide.number _ _
        ((draft.withSlide slide.closeList).readParagraph setting content) :=
      takesMarkers_of_readParagraph answer presented content
    exact takes
  unfold readBlock
  dsimp only
  split
  · exact paragraph _ rfl rfl rfl
  · exact paragraph draft.slide rfl rfl rfl

end Draft

end LectureDeck
