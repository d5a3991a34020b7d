import LectureDeck.Proofs.Deck.SlideEnd

/-!
# What lasts while a file is read

A property of drafts that every block preserves, and that the end of a slide turns into a property
of the file, holds of every file that is read (`LectureDeck.Draft.LastingByPart.of_readFile`). It is
enough that every move preserves it (`LectureDeck.Draft.Lasting.byPart`). So only links that are
left over are reported as such (`LectureDeck.Draft.warnsOfSlides_of_readFile`).
-/

namespace LectureDeck

namespace Draft

variable {W : Type} [Weight W] {setting : Setting} {draft after : Draft W}

/-- A property that lasts while blocks are read, and one of the file whenever a slide has ended. -/
structure LastingByPart (setting : Setting) (reading : Draft W → Prop)
    (ended : FileDraft W → Prop) : Prop where
  start : reading (start setting.fileNumber)
  part : ∀ {draft after block}, readPart setting draft block = .ok after → reading draft →
    reading after
  noteContent : ∀ {draft} block, reading draft → reading (draft.noteContent block)
  close : ∀ {draft after endBlock}, closeSlide setting draft endBlock = .ok after →
    reading draft → ended after.file
  next : ∀ {draft : Draft W} (endBlock : Nat), ended draft.file → reading (draft.withSlide
    (.start setting.fileNumber (draft.file.slides.length + 1) endBlock))

/-- A property that lasts because every move keeps it. -/
structure Lasting (setting : Setting) (reading : Draft W → Prop) (ended : FileDraft W → Prop) :
    Prop where
  start : reading (start setting.fileNumber)
  move : ∀ {draft after}, Move setting draft after → reading draft → reading after
  turned : ∀ {draft} block, reading draft → reading (draft.turned block)
  noteContent : ∀ {draft} block, reading draft → reading (draft.noteContent block)
  close : ∀ {draft after endBlock}, closeSlide setting draft endBlock = .ok after →
    reading draft → ended after.file
  next : ∀ {draft : Draft W} (endBlock : Nat), ended draft.file → reading (draft.withSlide
    (.start setting.fileNumber (draft.file.slides.length + 1) endBlock))

variable {reading : Draft W → Prop} {ended : FileDraft W → Prop}

namespace LastingByPart

/-- What lasts by parts holds of the next slide, of which nothing is read, because it held when the
slide before it was closed. -/
theorem of_nextSlide (lasting : LastingByPart setting reading ended) {endBlock : Nat}
    (opened : draft.nextSlide setting endBlock = .ok after) (holds : reading draft) :
    reading after := by
  obtain ⟨last, closed, rfl⟩ := exists_of_nextSlide opened
  exact lasting.next endBlock (lasting.close closed holds)

/-- What lasts by parts holds after every block, whether it is part of the slide or begins the next
one. -/
theorem of_readBlock (lasting : LastingByPart setting reading ended) {place : Block × Nat}
    (read : draft.readBlock setting place = .ok after) (holds : reading draft) :
    reading after := by
  cases blockRead_of_readBlock read with
  | ends _ _ opened => exact lasting.of_nextSlide opened holds
  | starts _ _ _ next part =>
    exact lasting.part part (lasting.noteContent place.1 (lasting.of_nextSlide next holds))
  | continues _ _ _ part => exact lasting.part part (lasting.noteContent place.1 holds)
  | quoted _ part => exact lasting.part part holds

/-- **What lasts holds of a file that is read to its end.** -/
theorem of_readFile (lasting : LastingByPart setting reading ended)
    (read : readFile setting = .ok after) : ended after.file := by
  unfold readFile at read
  obtain ⟨last, blocks, closed⟩ := bind_eq_ok.1 read
  refine lasting.close closed (foldlM_induction ?_ blocks lasting.start)
  exact fun read holds => lasting.of_readBlock read holds

end LastingByPart

namespace Lasting

/-- What every move preserves is preserved by a block, for a block is a copy or a sequence of
moves. -/
theorem byPart (lasting : Lasting setting reading ended) :
    LastingByPart setting reading ended where
  start := lasting.start
  part := fun {draft _ block} read holds => by
    have begun := (moves_beforeBlock draft block).preserve lasting.move holds
    exact (moves_of_readContent read).preserve lasting.move (lasting.turned block begun)
  noteContent := lasting.noteContent
  close := lasting.close
  next := lasting.next

/-- What lasts holds of every file that is read to its end. -/
theorem of_readFile (lasting : Lasting setting reading ended)
    (read : readFile setting = .ok after) : ended after.file :=
  lasting.byPart.of_readFile read

end Lasting

/-- All warnings so far are of what was found while slides were read. -/
def WarnsOfSlides (file : FileDraft W) : Prop :=
  ∀ warning ∈ file.warnings, warning.finding.isOfSlide = true

section Warnings

variable {file : FileDraft W}

omit [Weight W] in
/-- A warning of a slide is one more of those. -/
theorem warnsOfSlides_warn (given : WarnsOfSlides draft.file) {finding : Finding}
    (own : finding.isOfSlide = true) : WarnsOfSlides (draft.warn setting finding).file :=
  List.forall_mem_append.2 ⟨given, List.forall_mem_singleton.2 own⟩

/-- Links that are settled give no warnings. -/
theorem warnings_of_settle (settled : draft.settle setting = .ok after) :
    after.file.warnings = draft.file.warnings := by
  unfold settle at settled
  split at settled
  · contradiction
  · cases settled
    rfl

/-- A definition warns at most of an identifier that is taken. -/
theorem warnsOfSlides_of_define (given : WarnsOfSlides draft.file) {id counter : String}
    {kind : ReferenceKind} {result : Draft W × Reference.Defined}
    (made : draft.define setting id kind counter = .ok result) : WarnsOfSlides result.1.file := by
  unfold define at made
  dsimp only at made
  split at made
  · obtain ⟨settled, settles, same⟩ := bind_eq_ok.1 made
    cases same
    rw [WarnsOfSlides, warnings_of_settle settles]
    exact given
  · cases made
    exact warnsOfSlides_warn given rfl

/-- Every move warns of slides only. -/
theorem Move.warnsOfSlides (move : Move setting draft after) (given : WarnsOfSlides draft.file) :
    WarnsOfSlides after.file := by
  cases move with
  | warn finding own => exact warnsOfSlides_warn given own
  | follow id =>
    unfold Draft.follow
    split <;> exact given
  | define made => exact warnsOfSlides_of_define given made
  | number level content =>
    unfold numberHeading
    dsimp only
    split
    · exact given
    · split <;> exact given
  | _ => exact given

omit [Weight W] in
/-- Calls of plugins that are not embedded are warned of as findings of their slide. -/
theorem warnsOfSlides_warnOfCalls (given : WarnsOfSlides draft.file) :
    WarnsOfSlides (warnOfCalls setting draft).file := by
  unfold warnOfCalls
  generalize (distinct draft.slide.calls).filter _ = plugins
  induction plugins generalizing draft with
  | nil => exact given
  | cons plugin rest later => exact later (warnsOfSlides_warn given rfl)

/-- A question is recorded without warnings. -/
theorem warnings_of_recordQuestion {question : Option Nat}
    (recorded : draft.recordQuestion setting = .ok (after, question)) :
    after.file.warnings = draft.file.warnings := by
  rw [recordQuestion_eq, bind_eq_ok] at recorded
  obtain ⟨_, -, recorded⟩ := recorded
  cases recorded
  cases draft.slideQuestion setting <;> rfl

/-- The end of a slide warns of slides only. -/
theorem warnsOfSlides_of_closeSlide (given : WarnsOfSlides draft.file) {endBlock : Nat}
    (closed : draft.closeSlide setting endBlock = .ok after) : WarnsOfSlides after.file := by
  unfold closeSlide at closed
  obtain ⟨⟨recorded, question⟩, records, settled⟩ := bind_eq_ok.1 closed
  have same := warnings_of_recordQuestion records
  have given : WarnsOfSlides recorded.file := by rwa [WarnsOfSlides, same]
  rw [WarnsOfSlides, warnings_of_settle settled]
  exact warnsOfSlides_warnOfCalls given

/-- While a file is read there are no warnings but those of slides. -/
theorem lasting_warnsOfSlides (setting : Setting) :
    Lasting setting (fun draft : Draft W => WarnsOfSlides draft.file) WarnsOfSlides where
  start := nofun
  move := fun move given => move.warnsOfSlides given
  turned := fun {draft} block given => (file_turned draft block).symm ▸ given
  noteContent := fun _ given => given
  close := fun closed given => warnsOfSlides_of_closeSlide given closed
  next := fun _ given => given

/-- While a file is read it is warned of slides only. -/
theorem warnsOfSlides_of_readFile (read : readFile setting = .ok after) :
    WarnsOfSlides after.file :=
  (lasting_warnsOfSlides setting).of_readFile read

/-- While a file is read nothing is said of links that are left over. -/
theorem isSilent_of_readFile (read : readFile setting = .ok after) :
    ∀ warning ∈ after.file.warnings, warning.finding.unresolved? = none := by
  intro warning member
  have own := warnsOfSlides_of_readFile read warning member
  cases found : warning.finding with
  | unresolvedLink id =>
    rw [found] at own
    contradiction
  | _ => rfl

end Warnings

end Draft

end LectureDeck
