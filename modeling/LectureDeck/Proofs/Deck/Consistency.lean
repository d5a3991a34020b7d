import LectureDeck.Proofs.Deck.Known
import LectureDeck.Proofs.Deck.Lasting

/-!
# Consistency of what is known of a file

While a file is read, what is known of it comes in many lists. The slides that have ended and the
questions on them tell the same (`LectureDeck.FileDraft.Matches`), and whatever points to a slide
points to one that has begun (`LectureDeck.FileDraft.PointsWithin`). So it is when the file is read
to its end (`LectureDeck.Draft.isConsistent_of_readFile`).
-/

namespace LectureDeck

/-- What an index has to know of a slide that has tags. -/
def Slide.occurrence? (file : String) (slide : Slide) : Option Occurrence :=
  if slide.tags.isEmpty then none
  else some ⟨file, slide.number, slide.id, slide.header.getD "", slide.tags, slide.question⟩

/-- The occurrence of a slide is told by the slide as it is in the model. -/
theorem Draft.occurrences_eq {W : Type} (setting : Setting) (slide : SlideDraft W)
    (question : Option Nat) (endBlock : Nat) :
    occurrences setting slide question =
      ((finished slide question endBlock).occurrence? setting.file).toList := by
  unfold occurrences Slide.occurrence? finished
  cases slide.tags with
  | none => rfl
  | some tags =>
    dsimp only [Option.getD_some]
    split <;> rfl

section Matching

variable {W : Type} [Weight W] {setting : Setting} {file after : FileDraft W}

/-- The slides of a file, the questions on them and what an index knows of them tell the same. -/
structure FileDraft.Matches (setting : Setting) (file : FileDraft W) : Prop where
  numbers : file.slides.map Slide.number = List.range' 1 file.slides.length
  ids : ∀ slide ∈ file.slides, slide.id = slideId setting.fileNumber slide.number
  listed : Listed file.questions file.ledger (file.slides.length + 1)
  positive : ∀ question ∈ file.questions, 1 ≤ question.slide
  slideIds : ∀ question ∈ file.questions,
    question.slideId = slideId setting.fileNumber question.slide
  asked : ∀ slide ∈ file.slides, ∀ number, slide.question = some number ↔
    ∃ question ∈ file.questions, question.number = number ∧ question.slide = slide.number
  occurrences : file.occurrences = file.slides.filterMap (Slide.occurrence? setting.file)

omit [Weight W] in
/-- A slide that has ended is numbered by its place among the slides. -/
theorem FileDraft.number_le_of_mem (numbers : file.slides.map Slide.number =
    List.range' 1 file.slides.length) {slide : Slide} (member : slide ∈ file.slides) :
    slide.number ≤ file.slides.length := by
  have inside := List.mem_map_of_mem (f := Slide.number) member
  rw [numbers, List.mem_range'_1] at inside
  omega

/-- What a reader may skip does not matter to what slides and questions tell. -/
theorem FileDraft.Matches.of_sameSlides (agrees : file.Matches setting)
    (same : file.SameSlides after) : after.Matches setting where
  numbers := same.slides ▸ agrees.numbers
  ids := same.slides ▸ agrees.ids
  listed := by
    rw [same.slides, same.ledger]
    exact agrees.listed.of_bare same.questions
  positive := by
    intro question member
    obtain ⟨other, known, same⟩ := same.exists_mem member
    rw [same]
    exact agrees.positive other known
  slideIds := by
    intro question member
    obtain ⟨other, known, same⟩ := same.exists_mem member
    rw [same]
    exact agrees.slideIds other known
  asked := by
    intro slide member number
    rw [same.slides] at member
    rw [agrees.asked slide member number]
    -- Questions are found in both files, told by their numbers and slides.
    have moved {first second : FileDraft W} (same : first.SameSlides second) :
        (∃ question ∈ second.questions, question.number = number ∧
            question.slide = slide.number) →
          ∃ question ∈ first.questions, question.number = number ∧
            question.slide = slide.number := by
      rintro ⟨question, member, told, on⟩
      obtain ⟨other, known, same⟩ := same.exists_mem member
      rw [same] at told on
      exact ⟨other, known, told, on⟩
    exact ⟨moved same.symm, moved same⟩
  occurrences := by rw [same.occurrences, same.slides, agrees.occurrences]

end Matching

namespace Draft

variable {W : Type} [Weight W] {setting : Setting} {draft after : Draft W}

/-- A question is asked on its slide, after those before it. -/
theorem place_of_mem_slideQuestion {question : Question W}
    (asked : question ∈ draft.slideQuestion setting) :
    question.number = draft.file.ledger.size + 1 ∧ question.slide = draft.slide.number ∧
      question.slideId = draft.slide.id := by
  obtain ⟨answer, -, rfl⟩ := Option.map_eq_some_iff.1 asked
  exact ⟨rfl, rfl, rfl⟩

omit [Weight W] in
/-- A slide is asked what the question on it is if it is asked on no other slide. -/
theorem asked_concat {questions : List (Question W)} {slides : List Slide} {last : Slide}
    {question : Option (Question W)}
    (asked : ∀ slide ∈ slides, ∀ number, slide.question = some number ↔
      ∃ question ∈ questions, question.number = number ∧ question.slide = slide.number)
    (earlier : ∀ slide ∈ slides, slide.number < last.number)
    (ended : ∀ question ∈ questions, question.slide < last.number)
    (on : ∀ asked ∈ question, asked.slide = last.number)
    (told : last.question = question.map Question.number) :
    ∀ slide ∈ slides ++ [last], ∀ number, slide.question = some number ↔
      ∃ asked ∈ questions ++ question.toList,
        asked.number = number ∧ asked.slide = slide.number := by
  simp only [List.mem_append, Option.mem_toList, or_and_right, exists_or]
  refine fun slide member number => member.elim (fun before => ?_) fun same => ?_
  · rw [asked slide before, iff_self_or]
    rintro ⟨new, given, -, there⟩
    have below := earlier slide before
    rw [← there, on new given] at below
    exact absurd below (Nat.lt_irrefl _)
  · obtain rfl := List.mem_singleton.1 same
    rw [told, Option.map_eq_some_iff, or_iff_right]
    · exact exists_congr fun new =>
        ⟨fun ⟨given, same⟩ => ⟨given, same, on new given⟩, fun ⟨given, same, _⟩ => ⟨given, same⟩⟩
    · rintro ⟨old, known, -, there⟩
      exact absurd there (Nat.ne_of_lt (ended old known))

/-- The slide that ends tells what its question tells. -/
theorem matches_of_closeSlide (agrees : draft.file.Matches setting)
    (number : draft.slide.number = draft.file.slides.length + 1)
    (id : draft.slide.id = slideId setting.fileNumber draft.slide.number) {endBlock : Nat}
    (closed : draft.closeSlide setting endBlock = .ok after) : after.file.Matches setting := by
  obtain ⟨question, warnings, asks, settled⟩ := exists_of_closeSlide closed
  refine FileDraft.Matches.of_sameSlides ?_ (stays_of_settle settled).file
  have place := SlideDraft.SamePlace.of_bare (SlideDraft.bare_closeAll draft.slide)
  have number : draft.slide.closeAll.number = draft.file.slides.length + 1 :=
    place.number.trans number
  have id : draft.slide.closeAll.id = slideId setting.fileNumber draft.slide.closeAll.number := by
    rw [place.id, id, place.number]
  have new : ∀ asked ∈ question, asked.number = draft.file.ledger.size + 1 ∧
      asked.slide = draft.slide.closeAll.number ∧ asked.slideId = draft.slide.closeAll.id :=
    fun asked member => place_of_mem_slideQuestion (asks ▸ member)
  unfold withEnded
  constructor
  all_goals
    dsimp only
    simp only [record_slides, record_slide, record_questions]
    dsimp only [withSlide]
  · rw [List.map_append, agrees.numbers, List.length_append, List.length_singleton,
      List.range'_concat, Nat.one_mul, Nat.add_comm 1, ← number]
    rfl
  · exact List.forall_mem_append.2 ⟨agrees.ids, List.forall_mem_singleton.2 id⟩
  · rw [List.length_append, List.length_singleton]
    cases question with
    | none =>
      rw [Option.toList_none, List.append_nil]
      exact agrees.listed.later
    | some asked =>
      obtain ⟨counts, on, -⟩ := new asked rfl
      have pushed := agrees.listed.push counts (on.trans number)
      rwa [← number] at pushed ⊢
  · refine List.forall_mem_append.2 ⟨agrees.positive, fun asked member => ?_⟩
    rw [(new asked (Option.mem_toList.1 member)).2.1, number]
    exact Nat.le_add_left ..
  · refine List.forall_mem_append.2 ⟨agrees.slideIds, fun asked member => ?_⟩
    obtain ⟨-, on, same⟩ := new asked (Option.mem_toList.1 member)
    rw [same, on, id]
  · refine asked_concat agrees.asked ?_ ?_ (fun asked given => (new asked given).2.1) rfl
    · intro slide member
      have inside := FileDraft.number_le_of_mem agrees.numbers member
      exact Nat.lt_of_lt_of_eq (Nat.lt_succ_of_le inside) number.symm
    · intro asked member
      exact Nat.lt_of_lt_of_eq (agrees.listed.ended asked member) number.symm
  · rw [List.filterMap_append, ← agrees.occurrences, occurrences_eq setting _ _ endBlock]
    rw [record_occurrences]
    refine congrArg (draft.file.occurrences ++ ·) ?_
    rw [List.filterMap_cons, List.filterMap_nil]
    cases (finished draft.slide.closeAll (question.map Question.number) endBlock).occurrence?
      setting.file <;> rfl

end Draft

section Pointing

variable {W : Type} [Weight W] {setting : Setting} {slides : Nat}

/-- Whatever points to a slide of a file points to one of the first slides. -/
structure FileDraft.PointsWithin (fileNumber slides : Nat) (file : FileDraft W) : Prop where
  references : ∀ reference ∈ file.references.references,
    reference.owningSlide ∈ List.range' 1 slides
  links : ∀ link ∈ file.forward.links, ∀ target ∈ link.definedAt, target ∈ List.range' 1 slides
  skips : ∀ question ∈ file.questions, ∀ skip ∈ question.skip,
    skip.targetSlide ∈ List.range' 1 slides
  uses : ∀ use ∈ file.pluginUses, use.slide ∈ List.range' 1 slides
  sections : ∀ entry ∈ file.sections, ∃ number ∈ List.range' 1 slides,
    entry.1 = slideId fileNumber number

omit [Weight W] in
/-- What points to one of the slides points to one of more slides. -/
theorem FileDraft.PointsWithin.mono {fileNumber : Nat} {file : FileDraft W}
    (points : file.PointsWithin fileNumber slides) {more : Nat} (within : slides ≤ more) :
    file.PointsWithin fileNumber more := by
  have every {number : Nat} (inside : number ∈ List.range' 1 slides) :
      number ∈ List.range' 1 more := by
    rw [List.mem_range'_1] at inside ⊢
    omega
  refine ⟨fun reference member => every (points.references reference member),
    fun link member target defined => every (points.links link member target defined),
    fun question member skip told => every (points.skips question member skip told),
    fun use member => every (points.uses use member), fun entry member => ?_⟩
  obtain ⟨number, inside, same⟩ := points.sections entry member
  exact ⟨number, every inside, same⟩

/-- What may be skipped on the way of a link leads to where its name was defined. -/
theorem ForwardLink.definedAt_of_skip? {link : ForwardLink} {ledger : Ledger W}
    {skip : Nat × Skip W} (skips : link.skip? ledger = .ok (some skip)) :
    link.definedAt = some skip.2.targetSlide := by
  unfold skip? at skips
  split at skips
  · rename_i place
    split at skips
    · cases skips
    · dsimp only at skips
      split at skips
      · cases skips
        exact place
      · contradiction
  · cases skips

namespace Draft

variable {draft after : Draft W}

/-- A draft whose file tells of slides what is so, and points only to slides that have begun. -/
structure IsConsistent (setting : Setting) (draft : Draft W) : Prop where
  number : draft.slide.number = draft.file.slides.length + 1
  id : draft.slide.id = slideId setting.fileNumber draft.slide.number
  agrees : draft.file.Matches setting
  points : draft.file.PointsWithin setting.fileNumber draft.slide.number

/-- Links that are settled point to slides that have begun. -/
theorem pointsWithin_of_settle (points : draft.file.PointsWithin setting.fileNumber slides)
    (settled : draft.settle setting = .ok after) :
    after.file.PointsWithin setting.fileNumber slides := by
  unfold settle at settled
  rcases draft.file.forward.settle_cases draft.file.ledger with
    ⟨skips, same, -, found⟩ | ⟨_, _, _, _, _, same⟩
  · rw [same] at settled
    cases settled
    refine ⟨points.references, fun link member => ?_, ?_, points.uses, points.sections⟩
    · exact points.links link (List.mem_filter.1 member).1
    · dsimp only
      rw [foldl_map_annotate]
      refine List.forall_mem_map.2 fun question member skip told => ?_
      rcases annotateAll_cases skips question with ⟨-, same⟩ | ⟨made, listed, -, same⟩
      · rw [same] at told
        exact points.skips question member skip told
      · rw [same] at told
        cases told
        obtain ⟨link, waits, -, skips⟩ := (found made).1 listed
        exact points.links link waits _ (ForwardLink.definedAt_of_skip? skips)
  · rw [same] at settled
    contradiction

/-- A definition points to the slide that it is on. -/
theorem pointsWithin_of_define (points : draft.file.PointsWithin setting.fileNumber slides)
    (here : draft.slide.number ∈ List.range' 1 slides) {id counter : String}
    {kind : ReferenceKind} {result : Draft W × Reference.Defined}
    (made : draft.define setting id kind counter = .ok result) :
    result.1.file.PointsWithin setting.fileNumber slides := by
  have references : ∀ reference ∈ (draft.file.references.define id kind counter
      draft.slide.number).1.references, reference.owningSlide ∈ List.range' 1 slides :=
    List.forall_mem_append.2 ⟨points.references, List.forall_mem_singleton.2 here⟩
  unfold define at made
  dsimp only at made
  split at made
  · obtain ⟨settled, settles, same⟩ := bind_eq_ok.1 made
    cases same
    refine pointsWithin_of_settle ?_ settles
    refine ⟨references, List.forall_mem_map.2 fun link member target defined => ?_, points.skips,
      points.uses, points.sections⟩
    rw [ForwardLink.define_definedAt] at defined
    split at defined
    · rcases Option.or_eq_some_iff.1 defined with earlier | ⟨-, now⟩
      · exact points.links link member target earlier
      · exact Option.some.inj now ▸ here
    · exact points.links link member target defined
  · cases made
    exact ⟨references, points.links, points.skips, points.uses, points.sections⟩

/-- A move points to the slide that is read. -/
theorem Move.pointsWithin (move : Move setting draft after)
    (points : draft.file.PointsWithin setting.fileNumber slides)
    (here : draft.slide.number ∈ List.range' 1 slides)
    (id : draft.slide.id = slideId setting.fileNumber draft.slide.number) :
    after.file.PointsWithin setting.fileNumber slides := by
  obtain ⟨references, links, skips, uses, sections⟩ := points
  cases move with
  | follow target =>
    unfold Draft.follow
    split
    · exact ⟨references, links, skips, uses, sections⟩
    · refine ⟨references, ?_, skips, uses, sections⟩
      exact List.forall_mem_append.2 ⟨links, List.forall_mem_singleton.2 nofun⟩
  | define made =>
    exact pointsWithin_of_define ⟨references, links, skips, uses, sections⟩ here made
  | number level content =>
    unfold numberHeading
    dsimp only
    split
    · exact ⟨references, links, skips, uses, sections⟩
    · split
      · refine ⟨references, links, skips, uses, ?_⟩
        exact List.forall_mem_append.2 ⟨sections, List.forall_mem_singleton.2 ⟨_, here, id⟩⟩
      · exact ⟨references, links, skips, uses, sections⟩
  | usePlugin =>
    refine ⟨references, links, skips, ?_, sections⟩
    exact List.forall_mem_append.2 ⟨uses, List.forall_mem_singleton.2 here⟩
  | _ => exact ⟨references, links, skips, uses, sections⟩

/-- Every move keeps a draft consistent: the slides that have ended stay, and what it adds points to
the slide that is read. -/
theorem Move.isConsistent (move : Move setting draft after)
    (consistent : draft.IsConsistent setting) : after.IsConsistent setting := by
  obtain ⟨number, id, agrees, points⟩ := consistent
  have stays := move.stays
  have here : draft.slide.number ∈ List.range' 1 draft.slide.number := by
    rw [List.mem_range'_1]
    omega
  refine ⟨?_, ?_, agrees.of_sameSlides stays.file, ?_⟩
  · rw [stays.place.number, stays.file.slides, number]
  · rw [stays.place.id, stays.place.number, id]
  · rw [stays.place.number]
    exact move.pointsWithin points here id

/-- A file whose slides, questions and references tell the same. -/
structure IsConsistentFile (setting : Setting) (file : FileDraft W) : Prop where
  agrees : file.Matches setting
  points : file.PointsWithin setting.fileNumber file.slides.length

/-- At the end of a slide the slide, its question and its occurrence are added together, so that
they match. -/
theorem IsConsistent.of_closeSlide (consistent : draft.IsConsistent setting) {endBlock : Nat}
    (closed : draft.closeSlide setting endBlock = .ok after) :
    IsConsistentFile setting after.file := by
  obtain ⟨number, id, agrees, points⟩ := consistent
  refine ⟨matches_of_closeSlide agrees number id closed, ?_⟩
  obtain ⟨question, warnings, asks, settled⟩ := exists_of_closeSlide closed
  have slides : after.file.slides.length = draft.slide.number := by
    rw [(stays_of_settle settled).file.slides, withEnded]
    dsimp only
    rw [record_slides, List.length_append, List.length_singleton, number]
    rfl
  rw [slides]
  refine pointsWithin_of_settle ?_ settled
  obtain ⟨references, links, skips, uses, sections⟩ := points
  unfold withEnded
  constructor
  all_goals dsimp only
  · cases question <;> exact references
  · have forward : ((draft.withSlide draft.slide.closeAll).record question).file.forward =
        draft.file.forward := by cases question <;> rfl
    rw [forward]
    refine List.forall_mem_map.2 fun link member target defined => ?_
    rw [ForwardLink.close_definedAt] at defined
    exact links link member target defined
  · rw [record_questions]
    refine List.forall_mem_append.2 ⟨skips, fun asked member => ?_⟩
    rw [asks] at member
    obtain ⟨answer, -, rfl⟩ := Option.map_eq_some_iff.1 (Option.mem_toList.1 member)
    intro skip given
    cases given
  · cases question <;> exact uses
  · cases question <;> exact sections

/-- Nothing is known before the first block. -/
theorem isConsistent_start (setting : Setting) :
    (start setting.fileNumber : Draft W).IsConsistent setting where
  number := rfl
  id := rfl
  agrees := {
    numbers := rfl
    ids := fun _ member => absurd member List.not_mem_nil
    listed := .nil
    positive := fun _ member => absurd member List.not_mem_nil
    slideIds := fun _ member => absurd member List.not_mem_nil
    asked := fun _ member => absurd member List.not_mem_nil
    occurrences := rfl }
  points := {
    references := fun _ member => absurd member List.not_mem_nil
    links := fun _ member => absurd member List.not_mem_nil
    skips := fun _ member => absurd member List.not_mem_nil
    uses := fun _ member => absurd member List.not_mem_nil
    sections := fun _ member => absurd member List.not_mem_nil }

/-- Consistency lasts while a whole file is read. -/
theorem lasting_isConsistent (setting : Setting) :
    Lasting setting (IsConsistent (W := W) setting) (IsConsistentFile setting) where
  start := isConsistent_start setting
  move := fun move consistent => move.isConsistent consistent
  turned := by
    intro draft block consistent
    obtain ⟨script, same⟩ := exists_turned_eq draft block
    rw [same]
    exact ⟨consistent.number, consistent.id, consistent.agrees, consistent.points⟩
  noteContent := fun _ consistent =>
    ⟨consistent.number, consistent.id, consistent.agrees, consistent.points⟩
  close := fun closed consistent => consistent.of_closeSlide closed
  next := fun _ consistent =>
    { number := rfl
      id := rfl
      agrees := consistent.agrees
      points := consistent.points.mono (Nat.le_succ _) }

/-- **What is known of a file is consistent** when it is read to its end. -/
theorem isConsistent_of_readFile (read : readFile setting = .ok after) :
    IsConsistentFile setting after.file := (lasting_isConsistent setting).of_readFile read

end Draft

end Pointing

end LectureDeck
