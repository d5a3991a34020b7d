import LectureDeck.Proofs.Deck.Known

/-!
# Landings of forward links

What is known while a file is read agrees with the mentions so far (`LectureDeck.Known.Agrees`):
links wait that lead forward, every question tells what a reader may skip from it, and no link skips
a grade. This stays so when a mention is heard (`LectureDeck.Known.Agrees.hear`) and when a slide
ends (`LectureDeck.Known.Agrees.endSlide`). A mention that is refused lets a link land over a grade
(`LectureDeck.Offends`).
-/

namespace LectureDeck

variable {W : Type} [Weight W]

/-- A question tells what a reader may skip from it: the way to the farthest slide on which a link
of its own slide lands. -/
structure Question.TellsSkip (fileNumber : Nat) (mentions : List (Nat × Reference.Mention))
    (questions : List (Question W)) (question : Question W) : Prop where
  isSome_iff : question.skip.isSome = true ↔
    ∃ id target, Lands fileNumber mentions id question.slide target ∧ question.slide < target
  ahead : ∀ skip ∈ question.skip, question.slide < skip.targetSlide
  lands : ∀ skip ∈ question.skip,
    ∃ id, Lands fileNumber mentions id question.slide skip.targetSlide
  farthest : ∀ skip ∈ question.skip, ∀ id target,
    Lands fileNumber mentions id question.slide target → target ≤ skip.targetSlide
  slidesSkipped : ∀ skip ∈ question.skip,
    skip.slidesSkipped = skip.targetSlide - question.slide
  scoreWeight : ∀ skip ∈ question.skip,
    skip.scoreWeight = weightBetween Question.weight questions question.slide skip.targetSlide

namespace Question

variable {fileNumber : Nat} {mentions later : List (Nat × Reference.Mention)}
  {questions others : List (Question W)} {question : Question W}

/-- What a question tells stays right while links land from its slide where they landed, and the
score on the way is the same. -/
theorem TellsSkip.of_same (tells : question.TellsSkip fileNumber mentions questions)
    (lands : ∀ id target, Lands fileNumber later id question.slide target ↔
      Lands fileNumber mentions id question.slide target)
    (weighs : ∀ skip ∈ question.skip,
      weightBetween weight others question.slide skip.targetSlide =
        weightBetween weight questions question.slide skip.targetSlide) :
    question.TellsSkip fileNumber later others where
  isSome_iff := by simpa only [lands] using tells.isSome_iff
  ahead := tells.ahead
  lands := by simpa only [lands] using tells.lands
  farthest := by simpa only [lands] using tells.farthest
  slidesSkipped := tells.slidesSkipped
  scoreWeight := fun skip told => (tells.scoreWeight skip told).trans (weighs skip told).symm

/-- A question from which no link leads ahead tells nothing. -/
theorem tellsSkip_of_none (none : question.skip = none)
    (nowhere : ∀ id target, Lands fileNumber mentions id question.slide target →
      target ≤ question.slide) : question.TellsSkip fileNumber mentions questions := by
  have nothing : ∀ skip ∈ question.skip, False := fun _ told => by rw [none] at told; contradiction
  refine ⟨iff_of_false (by simp [none]) ?_, ?_, ?_, ?_, ?_, ?_⟩
  · rintro ⟨id, target, lands, ahead⟩
    exact Nat.not_lt.2 (nowhere id target lands) ahead
  all_goals exact fun skip told => (nothing skip told).elim

/-- A question may tell the way to the farthest slide on which a link lands. -/
theorem tellsSkip_of_farthest {id : String} {target : Nat} (ahead : question.slide < target)
    (landed : Lands fileNumber mentions id question.slide target)
    (farthest : ∀ id other, Lands fileNumber mentions id question.slide other → other ≤ target) :
    TellsSkip fileNumber mentions questions { question with
      skip := some ⟨target, target - question.slide,
        weightBetween weight questions question.slide target⟩ } := by
  refine ⟨iff_of_true rfl ⟨id, target, landed, ahead⟩, ?_, ?_, ?_, ?_, ?_⟩
  all_goals
    intro skip told
    cases told
  · exact ahead
  · exact ⟨id, landed⟩
  · exact farthest
  · rfl
  · rfl

end Question

/-- No link from a slide with a question lands past a question that has a grade. -/
def SkipsNoGrade (fileNumber : Nat) (mentions : List (Nat × Reference.Mention))
    (questions : List (Question W)) : Prop :=
  ∀ id origin target, Lands fileNumber mentions id origin target → origin < target →
    (∃ question ∈ questions, question.slide = origin) →
      ∀ between ∈ questions, origin < between.slide → between.slide < target →
        between.grade = Weight.zero

/-- Of questions that are the same but for what they tell, each has its counterpart. -/
theorem exists_of_bare {before after : List (Question W)}
    (same : after.map Question.bare = before.map Question.bare) {question : Question W}
    (member : question ∈ after) :
    ∃ other ∈ before, other.slide = question.slide ∧ other.grade = question.grade := by
  have found := List.mem_map_of_mem (f := Question.bare) member
  rw [same] at found
  obtain ⟨other, inside, equal⟩ := List.mem_map.1 found
  have slide : other.bare.slide = question.bare.slide := congrArg Question.slide equal
  have grade : other.bare.grade = question.bare.grade := congrArg Question.grade equal
  exact ⟨other, inside, slide, grade⟩

/-- What a question tells does not matter to whether grades are skipped. -/
theorem SkipsNoGrade.of_bare {fileNumber : Nat} {mentions : List (Nat × Reference.Mention)}
    {before after : List (Question W)}
    (grades : SkipsNoGrade fileNumber mentions before)
    (same : after.map Question.bare = before.map Question.bare) :
    SkipsNoGrade fileNumber mentions after := by
  intro id origin target lands ahead ⟨question, near, on⟩ between among above below
  obtain ⟨question', near', on', -⟩ := exists_of_bare same near
  obtain ⟨between', among', slide, grade⟩ := exists_of_bare same among
  rw [← grade]
  exact grades id origin target lands ahead ⟨question', near', on'.trans on⟩ between' among'
    (slide ▸ above) (slide ▸ below)

/-- A link from a slide with a question lands past a question that has a grade. -/
structure Offends (fileNumber : Nat) (mentions : List (Nat × Reference.Mention))
    (questions : List (Question W)) (violation : SkipViolation W) (target : Nat) : Prop where
  lands : Lands fileNumber mentions violation.target violation.originSlide target
  ahead : violation.originSlide < target
  question : ∃ question ∈ questions, question.slide = violation.originSlide
  graded : ∃ between ∈ questions, violation.originSlide < between.slide ∧
    between.slide < target ∧ between.grade ≠ Weight.zero
  weight : violation.weight =
    weightBetween Question.grade questions violation.originSlide target

/-- A link that has landed past a grade offends whatever is mentioned later. -/
theorem Offends.append {fileNumber target : Nat} {mentions : List (Nat × Reference.Mention)}
    {questions : List (Question W)} {violation : SkipViolation W}
    (offends : Offends fileNumber mentions questions violation target)
    (later : List (Nat × Reference.Mention)) :
    Offends fileNumber (mentions ++ later) questions violation target :=
  ⟨offends.lands.append later, offends.ahead, offends.question, offends.graded, offends.weight⟩

/-- What questions tell does not matter to whether a link offends. -/
theorem Offends.of_bare {fileNumber target : Nat} {mentions : List (Nat × Reference.Mention)}
    {before after : List (Question W)} {violation : SkipViolation W}
    (offends : Offends fileNumber mentions before violation target)
    (same : after.map Question.bare = before.map Question.bare) :
    Offends fileNumber mentions after violation target where
  lands := offends.lands
  ahead := offends.ahead
  question := by
    obtain ⟨question, member, on⟩ := offends.question
    obtain ⟨other, among, slide, -⟩ := exists_of_bare same.symm member
    exact ⟨other, among, slide.trans on⟩
  graded := by
    obtain ⟨between, member, above, below, graded⟩ := offends.graded
    obtain ⟨other, among, slide, grade⟩ := exists_of_bare same.symm member
    exact ⟨other, among, slide ▸ above, slide ▸ below, grade ▸ graded⟩
  weight := (weightBetween_of_bare Question.grade (fun _ => rfl) same _ _).symm ▸ offends.weight

namespace Known

/-- The links that wait are those that lead forward to names that are not defined, and perhaps some
that have landed on their own slide, which has not ended. -/
structure Waits (fileNumber : Nat) (mentions : List (Nat × Reference.Mention))
    (known : Known W) : Prop where
  isForward : ∀ link ∈ known.forward.links,
    IsForward fileNumber mentions link.target link.originSlide
  lands : ∀ link ∈ known.forward.links, ∀ target ∈ link.definedAt,
    Lands fileNumber mentions link.target link.originSlide target
  kept : ∀ id slide, IsForward fileNumber mentions id slide →
    known.references.contains id = false →
      ∃ link ∈ known.forward.links, link.target = id ∧ link.originSlide = slide
  closed : ∀ link ∈ known.forward.links,
    link.originClosed = decide (link.originSlide < known.slide)
  question : ∀ link ∈ known.forward.links, link.originSlide < known.slide → ∀ number,
    link.originQuestion = some number ↔
      (link.originSlide, number) ∈ known.questions.map fun question =>
        (question.slide, question.number)
  waiting : ∀ link ∈ known.forward.links, link.isReady = false

/-- What is known agrees with the mentions so far. -/
structure Agrees (fileNumber : Nat) (mentions : List (Nat × Reference.Mention))
    (known : Known W) : Prop where
  table : known.references = tableAfter fileNumber mentions
  behind : ∀ mention ∈ mentions, mention.1 ≤ known.slide
  recorded : Recorded known.questions known.ledger known.slide
  waits : known.Waits fileNumber mentions
  skips : ∀ question ∈ known.questions,
    question.TellsSkip fileNumber mentions known.questions
  grades : SkipsNoGrade fileNumber mentions known.questions

variable {fileNumber : Nat} {mentions : List (Nat × Reference.Mention)} {known after : Known W}
  {mention : Reference.Mention} {id : String}

/-- A link lands on a slide that has begun. -/
theorem Agrees.target_le (agrees : known.Agrees fileNumber mentions) {origin target : Nat}
    (lands : Lands fileNumber mentions id origin target) : target ≤ known.slide := by
  obtain ⟨mention, member⟩ := lands.exists_mem
  exact agrees.behind _ member

theorem Agrees.behind_concat (agrees : known.Agrees fileNumber mentions)
    (mention : Reference.Mention) :
    ∀ other ∈ mentions ++ [(known.slide, mention)], other.1 ≤ known.slide :=
  List.forall_mem_append.2 ⟨agrees.behind, List.forall_mem_singleton.2 (Nat.le_refl _)⟩

omit [Weight W] in
theorem lands_concat_of_old
    (old : ∀ id, mention.defines? = some id → (tableAfter fileNumber mentions).contains id = true)
    (slide : Nat) (id : String) (origin target : Nat) :
    Lands fileNumber (mentions ++ [(slide, mention)]) id origin target ↔
      Lands fileNumber mentions id origin target := by
  rw [lands_concat_iff, or_iff_left]
  rintro ⟨-, defines, free, -⟩
  rw [old id defines] at free
  contradiction

omit [Weight W] in
/-- A mention that is no new forward link leaves the links that wait. -/
theorem Waits.of_old (waits : known.Waits fileNumber mentions)
    (old : ∀ id, mention = .link id → known.references.contains id = true) :
    Waits fileNumber (mentions ++ [(known.slide, mention)])
      { known with references := mention.enter known.slide known.references } where
  isForward := fun link member => isForward_concat_iff.2 (.inl (waits.isForward link member))
  lands := fun link member target defined => (waits.lands link member target defined).append _
  kept := by
    intro id slide forward free
    have before : known.references.contains id = false := by
      by_contra contained
      rw [mention.contains_enter (by simpa using contained)] at free
      contradiction
    rcases isForward_concat_iff.1 forward with forward | ⟨same, -, -⟩
    · exact waits.kept id slide forward before
    · rw [old id same] at before
      contradiction
  closed := waits.closed
  question := waits.question
  waiting := waits.waiting

/-- A mention by which nothing lands leaves what questions tell. -/
theorem Agrees.of_old (agrees : known.Agrees fileNumber mentions)
    (old : ∀ id, mention.defines? = some id → known.references.contains id = true)
    {forward : ForwardLinks}
    (waits : Waits fileNumber (mentions ++ [(known.slide, mention)]) { known with
      references := mention.enter known.slide known.references, forward := forward }) :
    Agrees fileNumber (mentions ++ [(known.slide, mention)]) { known with
      references := mention.enter known.slide known.references, forward := forward } where
  table := by rw [tableAfter_concat, agrees.table]
  behind := agrees.behind_concat mention
  recorded := agrees.recorded
  waits := waits
  skips := by
    rw [agrees.table] at old
    intro question member
    exact (agrees.skips question member).of_same
      (fun id target => lands_concat_of_old old known.slide id question.slide target)
      fun _ _ => rfl
  grades := by
    rw [agrees.table] at old
    have same := lands_concat_of_old old known.slide
    intro id origin target lands
    exact agrees.grades id origin target ((same id origin target).1 lands)

/-- A link heard. It waits if its name is not defined. -/
theorem Agrees.link (agrees : known.Agrees fileNumber mentions) (id : String) :
    Agrees fileNumber (mentions ++ [(known.slide, .link id)])
      (if known.references.contains id then known
        else { known with forward := known.forward.add id known.slide }) := by
  have nothing : ∀ other, (Reference.Mention.link id).defines? = some other →
      known.references.contains other = true := fun _ defines => nomatch defines
  split
  · rename_i contained
    refine agrees.of_old nothing (agrees.waits.of_old ?_)
    intro other same
    cases same
    exact contained
  · rename_i free
    have free : known.references.contains id = false := by simpa using free
    have waits := agrees.waits
    refine agrees.of_old nothing ⟨?_, ?_, ?_, ?_, ?_, ?_⟩
    all_goals dsimp only [ForwardLinks.add]
    · rw [List.forall_mem_append, List.forall_mem_singleton]
      exact ⟨fun link member => isForward_concat_iff.2 (.inl (waits.isForward link member)),
        isForward_concat_iff.2 (.inr ⟨rfl, rfl, agrees.table ▸ free⟩)⟩
    · rw [List.forall_mem_append, List.forall_mem_singleton]
      exact ⟨fun link member target defined => (waits.lands link member target defined).append _,
        fun _ defined => nomatch defined⟩
    · intro other slide forward unknown
      rcases isForward_concat_iff.1 forward with forward | ⟨same, rfl, -⟩
      · obtain ⟨link, member, found⟩ := waits.kept other slide forward unknown
        exact ⟨link, List.mem_append_left _ member, found⟩
      · cases same
        exact ⟨_, List.mem_append_right _ (List.mem_singleton_self _), rfl, rfl⟩
    · rw [List.forall_mem_append, List.forall_mem_singleton]
      exact ⟨waits.closed, by simp⟩
    · rw [List.forall_mem_append, List.forall_mem_singleton]
      exact ⟨waits.question, fun before => absurd before (Nat.lt_irrefl _)⟩
    · rw [List.forall_mem_append, List.forall_mem_singleton]
      exact ⟨waits.waiting, rfl⟩

section Definition

variable {link : ForwardLink}

omit [Weight W] in
/-- A link that is ready once a name is defined leads to this name from a slide that has ended. -/
theorem Waits.of_isReady (waits : known.Waits fileNumber mentions)
    (member : link ∈ (known.forward.define id known.slide).links) (ready : link.isReady = true) :
    link.target = id ∧ link.originSlide < known.slide ∧ link.definedAt = some known.slide ∧
      IsForward fileNumber mentions id link.originSlide ∧ ∀ number,
        link.originQuestion = some number ↔
          (link.originSlide, number) ∈ known.questions.map fun question =>
            (question.slide, question.number) := by
  obtain ⟨before, kept, rfl⟩ := List.mem_map.1 member
  obtain ⟨closed, place, landed⟩ := (ForwardLink.isReady_iff _).1 ready
  rw [ForwardLink.define_originClosed, waits.closed before kept] at closed
  have ended : before.originSlide < known.slide := of_decide_eq_true closed
  -- It waited, though its slide had ended: its name was not defined.
  have undefined : before.definedAt = none := by
    have waiting := waits.waiting before kept
    rw [ForwardLink.isReady, waits.closed before kept, closed, Bool.true_and] at waiting
    exact Option.not_isSome_iff_eq_none.1 (Bool.eq_false_iff.1 waiting)
  rw [ForwardLink.define_definedAt, undefined] at landed
  split at landed
  · rename_i target
    rw [ForwardLink.define_target, ForwardLink.define_originSlide, ForwardLink.define_definedAt,
      ForwardLink.define_originQuestion, if_pos target, undefined]
    exact ⟨target, ended, rfl, target ▸ waits.isForward before kept,
      waits.question before kept ended⟩
  · contradiction

omit [Weight W] in
/-- A forward link whose name is defined now is ready if its slide has ended. -/
theorem Waits.exists_isReady (waits : known.Waits fileNumber mentions)
    (free : known.references.contains id = false) {origin : Nat}
    (forward : IsForward fileNumber mentions id origin) (ended : origin < known.slide) :
    ∃ link ∈ (known.forward.define id known.slide).links,
      link.isReady = true ∧ link.originSlide = origin := by
  obtain ⟨link, member, rfl, rfl⟩ := waits.kept id origin forward free
  refine ⟨_, List.mem_map_of_mem member, (ForwardLink.isReady_iff _).2 ⟨?_, ?_⟩,
    ForwardLink.define_originSlide ..⟩
  · rw [ForwardLink.define_originClosed, waits.closed link member]
    exact decide_eq_true ended
  · rw [ForwardLink.define_definedAt, if_pos rfl]
    cases link.definedAt <;> exact ⟨_, rfl⟩

/-- What a link skips whose name is defined now. -/
theorem Agrees.skip?_of_isReady [ExactWeight W] (agrees : known.Agrees fileNumber mentions)
    (member : link ∈ (known.forward.define id known.slide).links) (ready : link.isReady = true) :
    (link.skip? known.ledger = .ok none ∧
        ∀ question ∈ known.questions, question.slide ≠ link.originSlide) ∨
      ∃ question ∈ known.questions, question.slide = link.originSlide ∧
        link.skip? known.ledger =
          if Weight.isZero (weightBetween Question.grade known.questions question.slide known.slide)
          then .ok (some (question.number, ⟨known.slide, known.slide - question.slide,
            weightBetween Question.weight known.questions question.slide known.slide⟩))
          else .error ⟨id, question.slide,
            weightBetween Question.grade known.questions question.slide known.slide⟩ := by
  obtain ⟨target, ended, place, -, told⟩ := agrees.waits.of_isReady member ready
  cases found : link.originQuestion with
  | none =>
    refine .inl ⟨by rw [ForwardLink.skip?, found], fun question among same => ?_⟩
    have number := (told question.number).2 (same ▸ List.mem_map_of_mem among)
    rw [found] at number
    contradiction
  | some number =>
    obtain ⟨question, among, same⟩ := List.mem_map.1 ((told number).1 found)
    obtain ⟨slide, rfl⟩ := Prod.mk.inj same
    refine .inr ⟨question, among, slide, ?_⟩
    rw [agrees.recorded.skip?_eq among slide.symm found place, target]

omit [Weight W] in
/-- The links that are left when a name is defined wait. -/
theorem Waits.of_new (waits : known.Waits fileNumber mentions)
    (defines : mention.defines? = some id)
    (table : known.references = tableAfter fileNumber mentions)
    (free : known.references.contains id = false) {questions : List (Question W)}
    (same : questions.map Question.bare = known.questions.map Question.bare) :
    Waits fileNumber (mentions ++ [(known.slide, mention)]) { known with
      references := mention.enter known.slide known.references
      forward := ⟨(known.forward.define id known.slide).links.filter fun link => !link.isReady⟩
      questions := questions } where
  isForward := ForwardLinks.forall_waiting fun link kept => by
    rw [ForwardLink.define_target, ForwardLink.define_originSlide]
    exact isForward_concat_iff.2 (.inl (waits.isForward link kept))
  lands := ForwardLinks.forall_waiting fun link kept target landed => by
    rw [ForwardLink.define_target, ForwardLink.define_originSlide]
    rw [ForwardLink.define_definedAt] at landed
    split at landed
    · rename_i here
      rcases Option.or_eq_some_iff.1 landed with earlier | ⟨-, now⟩
      · exact (waits.lands link kept target earlier).append _
      · refine lands_concat_iff.2 (.inr ⟨Option.some.inj now, here ▸ defines, ?_,
          waits.isForward link kept⟩)
        rw [here, ← table, free]
    · exact (waits.lands link kept target landed).append _
  kept := by
    intro other slide forward unknown
    have different : other ≠ id := by
      rintro rfl
      rw [mention.contains_enter_of_defines defines] at unknown
      contradiction
    have before : known.references.contains other = false := by
      by_contra contained
      rw [mention.contains_enter (by simpa using contained)] at unknown
      contradiction
    rcases isForward_concat_iff.1 forward with forward | ⟨same, -, -⟩
    · obtain ⟨link, member, target, origin⟩ := waits.kept other slide forward before
      -- A link to another name is as it was, so it waits on.
      have stays : link.define id known.slide = link := by
        simp [ForwardLink.define, target, different]
      refine ⟨link, List.mem_filter.2 ⟨List.mem_map.2 ⟨link, member, stays⟩, ?_⟩, target, origin⟩
      rw [waits.waiting link member]
      rfl
    · rw [same] at defines
      contradiction
  closed := ForwardLinks.forall_waiting fun link kept => by
    rw [ForwardLink.define_originClosed, ForwardLink.define_originSlide]
    exact waits.closed link kept
  question := ForwardLinks.forall_waiting fun link kept => by
    rw [ForwardLink.define_originSlide, ForwardLink.define_originQuestion,
      map_eq_of_bare (fun question : Question W => (question.slide, question.number))
        (fun _ => rfl) same]
    exact waits.question link kept
  waiting := ForwardLinks.isReady_of_waiting _

omit [Weight W] in
/-- A name defined anew lets the links land that lead forward to it. -/
theorem lands_concat_of_new (defines : mention.defines? = some id)
    (free : (tableAfter fileNumber mentions).contains id = false) (slide : Nat) {other : String}
    {origin target : Nat} :
    Lands fileNumber (mentions ++ [(slide, mention)]) other origin target ↔
      Lands fileNumber mentions other origin target ∨
        (slide = target ∧ id = other ∧ IsForward fileNumber mentions id origin) := by
  rw [lands_concat_iff, defines, Option.some.injEq]
  constructor
  · rintro (earlier | ⟨here, rfl, -, forward⟩)
    · exact .inl earlier
    · exact .inr ⟨here, rfl, forward⟩
  · rintro (earlier | ⟨here, rfl, forward⟩)
    · exact .inl earlier
    · exact .inr ⟨here, rfl, free, forward⟩

/-- When all links can be settled, those that lead forward to a name defined now skip no grade. -/
theorem Agrees.isZero_of_forward [ExactWeight W] (agrees : known.Agrees fileNumber mentions)
    (free : known.references.contains id = false)
    (settled : ∀ link ∈ (known.forward.define id known.slide).links, link.isReady = true →
      ∃ skip, link.skip? known.ledger = .ok skip)
    {question : Question W} (among : question ∈ known.questions)
    (forward : IsForward fileNumber mentions id question.slide) :
    Weight.isZero (weightBetween Question.grade known.questions question.slide known.slide) = true ∧
      ∃ link ∈ (known.forward.define id known.slide).links, link.isReady = true ∧
        link.skip? known.ledger = .ok (some (question.number,
          ⟨known.slide, known.slide - question.slide,
            weightBetween Question.weight known.questions question.slide known.slide⟩)) := by
  obtain ⟨link, member, ready, origin⟩ :=
    agrees.waits.exists_isReady free forward (agrees.recorded.ended question among)
  rcases agrees.skip?_of_isReady member ready with ⟨-, nowhere⟩ | ⟨other, known, on, skips⟩
  · exact absurd origin.symm (nowhere question among)
  · obtain rfl := agrees.recorded.eq_of_slide among known (origin.symm.trans on.symm)
    obtain ⟨skip, succeeds⟩ := settled link member ready
    split at skips
    · rename_i zero
      exact ⟨zero, link, member, ready, skips⟩
    · rw [skips] at succeeds
      contradiction

/-- A name defined anew lets links land. Each question tells of those on its own slide. -/
theorem Agrees.tellsSkip_of_new [ExactWeight W] (agrees : known.Agrees fileNumber mentions)
    (defines : mention.defines? = some id) (free : known.references.contains id = false)
    {skips : List (Nat × Skip W)}
    (settled : ∀ link ∈ (known.forward.define id known.slide).links, link.isReady = true →
      ∃ skip, link.skip? known.ledger = .ok skip)
    (found : ∀ skip, skip ∈ skips ↔ ∃ link ∈ (known.forward.define id known.slide).links,
      link.isReady = true ∧ link.skip? known.ledger = .ok (some skip))
    {question : Question W} (among : question ∈ known.questions) :
    (annotateAll skips question).TellsSkip fileNumber (mentions ++ [(known.slide, mention)])
      (known.questions.map (annotateAll skips)) := by
  have lands {other : String} {origin target : Nat} :
      Lands fileNumber (mentions ++ [(known.slide, mention)]) other origin target ↔
        Lands fileNumber mentions other origin target ∨
          (known.slide = target ∧ id = other ∧ IsForward fileNumber mentions id origin) :=
    lands_concat_of_new defines (agrees.table ▸ free) known.slide
  have weighs := weightBetween_of_bare Question.weight (fun _ => rfl)
    (map_bare_annotateAll skips known.questions)
  have tells := agrees.skips question among
  rcases annotateAll_cases skips question with ⟨none, same⟩ | ⟨skip, member, number, same⟩
  -- No link of the slide leads to the name: it would be ready, and there would be a skip.
  · have nowhere : ¬ IsForward fileNumber mentions id question.slide := by
      intro forward
      obtain ⟨-, link, member, ready, skips⟩ :=
        agrees.isZero_of_forward free settled among forward
      exact none _ ((found _).2 ⟨link, member, ready, skips⟩) rfl
    rw [same]
    refine tells.of_same (fun other target => ?_) fun _ _ => weighs _ _
    rw [lands, or_iff_left]
    exact fun new => nowhere new.2.2
  -- The skip leads to the slide that is read, and none leads farther.
  · obtain ⟨link, inside, ready, skips⟩ := (found skip).1 member
    obtain ⟨-, -, -, forward, -⟩ := agrees.waits.of_isReady inside ready
    rcases agrees.skip?_of_isReady inside ready with ⟨nothing, -⟩ | ⟨other, near, on, told⟩
    · cases nothing.symm.trans skips
    rw [told] at skips
    split at skips
    case isFalse => contradiction
    cases skips
    obtain rfl := agrees.recorded.eq_of_number near among number
    rw [← on] at forward
    have ahead := agrees.recorded.ended other among
    have landed :
        Lands fileNumber (mentions ++ [(known.slide, mention)]) id other.slide known.slide :=
      lands.2 (.inr ⟨rfl, rfl, forward⟩)
    rw [same, ← weighs]
    refine Question.tellsSkip_of_farthest ahead landed fun name target arrives => ?_
    obtain ⟨later, heard⟩ := arrives.exists_mem
    exact agrees.behind_concat mention _ heard

/-- A name defined anew lets links land, none of them past a grade. -/
theorem Agrees.skipsNoGrade_of_new [ExactWeight W] (agrees : known.Agrees fileNumber mentions)
    (defines : mention.defines? = some id) (free : known.references.contains id = false)
    (settled : ∀ link ∈ (known.forward.define id known.slide).links, link.isReady = true →
      ∃ skip, link.skip? known.ledger = .ok skip) :
    SkipsNoGrade fileNumber (mentions ++ [(known.slide, mention)]) known.questions := by
  intro other origin target lands ahead on between among above below
  rcases (lands_concat_of_new defines (agrees.table ▸ free) known.slide).1 lands with
    earlier | ⟨rfl, rfl, forward⟩
  · exact agrees.grades other origin target earlier ahead on between among above below
  · obtain ⟨question, near, rfl⟩ := on
    obtain ⟨zero, -⟩ := agrees.isZero_of_forward free settled near forward
    exact (agrees.recorded.isZero_iff _ _).1 zero between among above below

/-- A name defined anew: what is known agrees with the mentions still, or a link lands past a
grade. -/
theorem Agrees.settle_of_new [ExactWeight W] (agrees : known.Agrees fileNumber mentions)
    (defines : mention.defines? = some id) (free : known.references.contains id = false) :
    (∃ after, settle { known with
        references := mention.enter known.slide known.references
        forward := known.forward.define id known.slide } = .ok after ∧
      after.slide = known.slide ∧
      after.questions.map Question.bare = known.questions.map Question.bare ∧
      after.Agrees fileNumber (mentions ++ [(known.slide, mention)])) ∨
    ∃ violation, settle { known with
        references := mention.enter known.slide known.references
        forward := known.forward.define id known.slide } = .error violation ∧
      Offends fileNumber (mentions ++ [(known.slide, mention)]) known.questions violation
        known.slide := by
  rcases ForwardLinks.settle_cases (known.forward.define id known.slide) known.ledger with
    ⟨skips, same, settled, found⟩ | ⟨link, member, ready, violation, failed, same⟩
  -- Every link that is ready skips no grade, so all that have landed are told.
  · have bare := map_bare_annotateAll skips known.questions
    refine .inl ⟨_, settle_eq_ok same, rfl, bare, ?_⟩
    exact {
      table := by rw [tableAfter_concat, agrees.table]
      behind := agrees.behind_concat mention
      recorded := agrees.recorded.of_bare bare
      waits := agrees.waits.of_new defines agrees.table free bare
      skips := by
        intro question member
        obtain ⟨before, among, rfl⟩ := List.mem_map.1 member
        exact agrees.tellsSkip_of_new defines free settled found among
      grades := (agrees.skipsNoGrade_of_new defines free settled).of_bare bare }
  -- A link that is ready has landed just now, so what it skips lies before the current slide.
  · refine .inr ⟨violation, settle_eq_error same, ?_⟩
    obtain ⟨-, -, -, forward, -⟩ := agrees.waits.of_isReady member ready
    rcases agrees.skip?_of_isReady member ready with ⟨nothing, -⟩ | ⟨question, among, on, told⟩
    · cases nothing.symm.trans failed
    rw [told] at failed
    split at failed
    · contradiction
    rename_i nonzero
    cases failed
    rw [← on] at forward
    refine ⟨(lands_concat_of_new defines (agrees.table ▸ free) known.slide).2
      (.inr ⟨rfl, rfl, forward⟩), agrees.recorded.ended question among, ⟨question, among, rfl⟩,
      ?_, rfl⟩
    by_contra nowhere
    refine nonzero ((agrees.recorded.isZero_iff _ _).2 fun between inside above below => ?_)
    by_contra graded
    exact nowhere ⟨between, inside, above, below, graded⟩

end Definition

/-- A definition heard. A name that is taken lets nothing land. -/
theorem Agrees.define [ExactWeight W] (agrees : known.Agrees fileNumber mentions)
    (defines : mention.defines? = some id) {kind : ReferenceKind} {counter : String}
    (enters : mention.enter known.slide known.references =
      (known.references.define id kind counter known.slide).1) :
    (∃ after, known.define id kind counter = .ok after ∧ after.slide = known.slide ∧
      after.questions.map Question.bare = known.questions.map Question.bare ∧
      after.Agrees fileNumber (mentions ++ [(known.slide, mention)])) ∨
    ∃ violation, known.define id kind counter = .error violation ∧
      Offends fileNumber (mentions ++ [(known.slide, mention)]) known.questions violation
        known.slide := by
  unfold Known.define
  dsimp only
  rw [← enters]
  cases contained : known.references.contains id with
  | true =>
    have taken : (known.references.define id kind counter known.slide).2.isNew = false := by
      simp [Reference.Table.define, contained]
    rw [taken, if_neg Bool.false_ne_true]
    refine .inl ⟨_, rfl, rfl, rfl, agrees.of_old ?_ (agrees.waits.of_old ?_)⟩
    · rintro other same
      rw [defines] at same
      cases same
      exact contained
    · rintro other rfl
      contradiction
  | false =>
    have new : (known.references.define id kind counter known.slide).2.isNew = true := by
      simp [Reference.Table.define, contained]
    rw [new, if_pos rfl]
    exact agrees.settle_of_new defines contained

/-- **A mention heard.** What is known agrees with the mentions still, or the mention is refused
because a link lands past a grade. -/
theorem Agrees.hear [ExactWeight W] (agrees : known.Agrees fileNumber mentions)
    (mention : Reference.Mention) :
    (∃ after, known.hear mention = .ok after ∧ after.slide = known.slide ∧
      after.questions.map Question.bare = known.questions.map Question.bare ∧
      after.Agrees fileNumber (mentions ++ [(known.slide, mention)])) ∨
    ∃ violation, known.hear mention = .error violation ∧
      Offends fileNumber (mentions ++ [(known.slide, mention)]) known.questions violation
        known.slide := by
  cases mention with
  | link id => exact .inl ⟨_, rfl, by split <;> rfl, by split <;> rfl, agrees.link id⟩
  | definition id kind counter => exact agrees.define rfl rfl
  | heading id counter =>
    rw [Known.hear]
    split
    · rename_i contained
      refine .inl ⟨_, rfl, rfl, rfl, ?_⟩
      have stays : (Reference.Mention.heading id counter).enter known.slide known.references =
          known.references := if_pos contained
      have same : Agrees fileNumber (mentions ++ [(known.slide, .heading id counter)])
          { known with
            references := (Reference.Mention.heading id counter).enter known.slide
              known.references } := by
        refine agrees.of_old ?_ (agrees.waits.of_old fun _ same => nomatch same)
        rintro other same
        cases same
        exact contained
      rwa [stays] at same
    · rename_i free
      exact agrees.define rfl (if_neg free)

section SlideEnd

variable {question : Option (Question W)}

/-- A question of the slide that ends is recorded after those before it. -/
structure Fits (known : Known W) (question : Question W) : Prop where
  number : question.number = known.ledger.size + 1
  slide : question.slide = known.slide
  admissible : Weight.admissible question.grade = true
  skip : question.skip = none

/-- A link that is ready when a slide ends has landed on this slide, and skips nothing. -/
theorem Agrees.skip?_of_closed (agrees : known.Agrees fileNumber mentions) {number : Option Nat}
    {link : ForwardLink} (member : link ∈ (known.forward.closeSlide known.slide number).links)
    (ready : link.isReady = true) (ledger : Ledger W) : link.skip? ledger = .ok none := by
  obtain ⟨before, kept, rfl⟩ := List.mem_map.1 member
  by_cases here : before.originSlide = known.slide
  · rw [ForwardLink.skip?, ForwardLink.close_definedAt]
    split
    · rename_i question target _ place
      have landed := agrees.target_le (agrees.waits.lands before kept target place)
      rw [ForwardLink.close_originSlide, here, if_pos landed]
    · rfl
  · have same : before.close known.slide number = before := if_neg here
    rw [same, agrees.waits.waiting before kept] at ready
    contradiction

theorem record_questions (known : Known W) (question : Option (Question W)) :
    (known.record question).questions = known.questions ++ question.toList := by
  cases question with
  | none => exact (List.append_nil _).symm
  | some question => rfl

theorem record_references (known : Known W) (question : Option (Question W)) :
    (known.record question).references = known.references := by
  cases question <;> rfl

/-- The links that are left when a slide ends wait. -/
theorem Agrees.waits_endSlide (agrees : known.Agrees fileNumber mentions)
    (fits : ∀ recorded ∈ question, known.Fits recorded) :
    Waits fileNumber mentions { known.record question with
      slide := known.slide + 1
      forward := ⟨(known.forward.closeSlide known.slide
        (question.map Question.number)).links.filter fun link => !link.isReady⟩ } where
  isForward := ForwardLinks.forall_waiting fun link kept => by
    rw [ForwardLink.close_target, ForwardLink.close_originSlide]
    exact agrees.waits.isForward link kept
  lands := ForwardLinks.forall_waiting fun link kept => by
    rw [ForwardLink.close_target, ForwardLink.close_originSlide, ForwardLink.close_definedAt]
    exact agrees.waits.lands link kept
  kept := by
    intro id slide forward free
    rw [record_references] at free
    obtain ⟨link, member, rfl, rfl⟩ := agrees.waits.kept id slide forward free
    have undefined : link.definedAt = none := by
      by_contra defined
      obtain ⟨target, landed⟩ := Option.ne_none_iff_exists'.1 defined
      have contained := (agrees.waits.lands link member target landed).contains
      rw [← agrees.table, free] at contained
      contradiction
    refine ⟨link.close known.slide (question.map Question.number),
      List.mem_filter.2 ⟨List.mem_map_of_mem member, ?_⟩, ForwardLink.close_target ..,
      ForwardLink.close_originSlide ..⟩
    simp [ForwardLink.isReady, undefined]
  closed := ForwardLinks.forall_waiting fun link kept => by
    rw [ForwardLink.close_originClosed, ForwardLink.close_originSlide,
      agrees.waits.closed link kept, ← Bool.decide_or]
    dsimp only
    exact decide_eq_decide.2 (by omega)
  question := ForwardLinks.forall_waiting fun link kept => by
    intro ended number
    rw [ForwardLink.close_originSlide] at ended ⊢
    rw [ForwardLink.close_originQuestion, record_questions, List.map_append, List.mem_append]
    split
    -- The link stands on the slide that ends: only the question recorded now is on it.
    · rename_i here
      have nowhere : (known.slide, number) ∉ known.questions.map fun question =>
          (question.slide, question.number) := by
        intro among
        obtain ⟨other, inside, same⟩ := List.mem_map.1 among
        have ahead := agrees.recorded.ended other inside
        rw [(Prod.mk.inj same).1] at ahead
        exact Nat.lt_irrefl _ ahead
      rw [here, or_iff_right nowhere]
      cases question with
      | none => simp
      | some recorded => simp [(fits recorded rfl).slide, eq_comm]
    -- It stands on an earlier slide, where nothing is recorded any more.
    · rename_i elsewhere
      have earlier : link.originSlide < known.slide :=
        Nat.lt_of_le_of_ne (Nat.lt_succ_iff.1 ended) elsewhere
      rw [agrees.waits.question link kept earlier number, or_iff_left]
      intro last
      obtain ⟨other, inside, same⟩ := List.mem_map.1 last
      obtain ⟨slide, -⟩ := Prod.mk.inj same
      rw [(fits other (Option.mem_toList.1 inside)).slide] at slide
      exact elsewhere slide.symm
  waiting := ForwardLinks.isReady_of_waiting _

theorem Agrees.recorded_endSlide (agrees : known.Agrees fileNumber mentions)
    (fits : ∀ recorded ∈ question, known.Fits recorded) :
    Recorded (known.record question).questions (known.record question).ledger
      (known.slide + 1) := by
  cases question with
  | none => exact agrees.recorded.later
  | some recorded =>
    obtain ⟨number, slide, admissible, -⟩ := fits recorded rfl
    exact agrees.recorded.push number slide admissible

/-- A question tells what it told when more questions are recorded. -/
theorem Agrees.tellsSkip_endSlide (agrees : known.Agrees fileNumber mentions)
    (fits : ∀ recorded ∈ question, known.Fits recorded) :
    ∀ told ∈ (known.record question).questions,
      told.TellsSkip fileNumber mentions (known.record question).questions := by
  intro told member
  rw [record_questions] at member
  rcases List.mem_append.1 member with earlier | last
  · have tells := agrees.skips told earlier
    refine tells.of_same (fun _ _ => Iff.rfl) fun skip leads => ?_
    obtain ⟨id, lands⟩ := tells.lands skip leads
    cases question with
    | none => rfl
    | some recorded =>
      refine weightBetween_concat _ _ _ ?_
      rw [(fits recorded rfl).slide]
      exact agrees.target_le lands
  · obtain ⟨-, slide, -, skip⟩ := fits told (Option.mem_toList.1 last)
    refine Question.tellsSkip_of_none skip fun id target lands => ?_
    rw [slide]
    exact agrees.target_le lands

theorem Agrees.skipsNoGrade_endSlide (agrees : known.Agrees fileNumber mentions)
    (fits : ∀ recorded ∈ question, known.Fits recorded) :
    SkipsNoGrade fileNumber mentions (known.record question).questions := by
  have earlier {told : Question W} (member : told ∈ (known.record question).questions)
      (before : told.slide < known.slide) : told ∈ known.questions := by
    rw [record_questions] at member
    rcases List.mem_append.1 member with earlier | last
    · exact earlier
    · rw [(fits told (Option.mem_toList.1 last)).slide] at before
      exact absurd before (Nat.lt_irrefl _)
  rintro id origin target lands ahead ⟨told, member, on⟩ between among above below
  have landed := agrees.target_le lands
  exact agrees.grades id origin target lands ahead ⟨told, earlier member (by omega), on⟩ between
    (earlier among (by omega)) above below

/-- **A slide that ends.** What is known agrees with the mentions still. -/
theorem Agrees.endSlide (agrees : known.Agrees fileNumber mentions)
    (fits : ∀ recorded ∈ question, known.Fits recorded) :
    ∃ after, known.endSlide question = .ok after ∧ after.slide = known.slide + 1 ∧
      after.Agrees fileNumber mentions := by
  let closed : Known W := { known.record question with
    forward := known.forward.closeSlide known.slide (question.map Question.number) }
  rcases ForwardLinks.settle_cases closed.forward closed.ledger with
    ⟨skips, same, -, found⟩ | ⟨link, member, ready, violation, failed, -⟩
  -- A link that is ready now has landed on its own slide or before it: nothing is skipped.
  · have nothing : skips = [] := by
      refine List.eq_nil_iff_forall_not_mem.2 fun skip listed => ?_
      obtain ⟨link, member, ready, skips⟩ := (found skip).1 listed
      cases (agrees.skip?_of_closed member ready _).symm.trans skips
    rw [nothing] at same
    have settles := settle_eq_ok same
    have unchanged : closed.questions.map (annotateAll []) = (known.record question).questions :=
      List.map_id _
    refine ⟨{ known.record question with
        slide := known.slide + 1
        forward := ⟨closed.forward.links.filter fun link => !link.isReady⟩ }, ?_, rfl, ?_⟩
    · have forward : (known.record question).forward = known.forward := by cases question <;> rfl
      rw [unchanged] at settles
      unfold Known.endSlide
      dsimp only
      rw [forward]
      exact (congrArg (· >>= _) settles).trans rfl
    · exact {
        table := (record_references known question).trans agrees.table
        behind := fun mention member => Nat.le_succ_of_le (agrees.behind mention member)
        recorded := agrees.recorded_endSlide fits
        waits := agrees.waits_endSlide fits
        skips := agrees.tellsSkip_endSlide fits
        grades := agrees.skipsNoGrade_endSlide fits }
  · cases (agrees.skip?_of_closed member ready _).symm.trans failed

end SlideEnd

end Known

end LectureDeck
