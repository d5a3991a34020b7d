import LectureDeck.Proofs.Deck.Frame
import LectureDeck.Proofs.Question.Recorded
import LectureDeck.Proofs.Reference.Forward
import LectureDeck.Proofs.Reference.Mentions

/-!
# What is known while a file is read

Of a file that is read, this is what decides which questions may be skipped: the table of
references, the links that wait, and the questions with their weights (`LectureDeck.Known`). It
changes when a mention is heard and when a slide ends. Links are settled then that are ready, and
the questions are annotated with what they skip (`LectureDeck.annotateAll_cases`).
-/

namespace LectureDeck

/-- What is known of references and questions while a file is read. -/
structure Known (W : Type) where
  references : Reference.Table
  forward : ForwardLinks
  ledger : Ledger W
  questions : List (Question W)
  /-- The number of the slide that is read. -/
  slide : Nat

namespace Known

variable {W : Type} [Weight W]

/-- All forward links settled that can be. -/
def settle (known : Known W) : Except (SkipViolation W) (Known W) := do
  let (forward, skips) ← known.forward.settle known.ledger
  return { known with
    forward := forward
    questions := skips.foldl (fun questions skip => questions.map (Draft.annotate skip))
      known.questions }

/-- A name defined on the slide. -/
def define (known : Known W) (id : String) (kind : ReferenceKind) (counter : String) :
    Except (SkipViolation W) (Known W) :=
  let (references, defined) := known.references.define id kind counter known.slide
  if defined.isNew then
    settle { known with references := references, forward := known.forward.define id known.slide }
  else .ok { known with references := references }

/-- A mention heard on the slide. -/
def hear (known : Known W) : Reference.Mention → Except (SkipViolation W) (Known W)
  | .link id =>
    .ok (if known.references.contains id then known
      else { known with forward := known.forward.add id known.slide })
  | .definition id kind counter => known.define id kind counter
  | .heading id counter =>
    if known.references.contains id then .ok known else known.define id .plain counter

/-- The question of the slide recorded, if it has one. -/
def record (known : Known W) : Option (Question W) → Known W
  | none => known
  | some question => { known with
      ledger := known.ledger.push known.slide question.weight question.gradeWeight
      questions := known.questions ++ [question] }

/-- The slide ended. -/
def endSlide (known : Known W) (question : Option (Question W)) :
    Except (SkipViolation W) (Known W) := do
  let recorded := known.record question
  let settled ← settle { recorded with
    forward := recorded.forward.closeSlide known.slide (question.map Question.number) }
  return { settled with slide := known.slide + 1 }

end Known

section Settling

variable {W : Type} [Weight W]

/-- A question annotated with skips one after another. -/
def annotateAll (skips : List (Nat × Skip W)) (question : Question W) : Question W :=
  skips.foldl (fun question skip => Draft.annotate skip question) question

omit [Weight W] in
/-- Questions are annotated with one skip after another as each of them is annotated with all. -/
theorem foldl_map_annotate (skips : List (Nat × Skip W)) (questions : List (Question W)) :
    skips.foldl (fun questions skip => questions.map (Draft.annotate skip)) questions =
      questions.map (annotateAll skips) := by
  induction skips generalizing questions with
  | nil => exact (List.map_id questions).symm
  | cons skip rest later =>
    rw [List.foldl_cons, later, List.map_map]
    rfl

omit [Weight W] in
/-- A question keeps what it told, unless there is a skip from it. -/
theorem annotateAll_cases (skips : List (Nat × Skip W)) (question : Question W) :
    ((∀ skip ∈ skips, skip.1 ≠ question.number) ∧ annotateAll skips question = question) ∨
      ∃ skip ∈ skips, skip.1 = question.number ∧
        annotateAll skips question = { question with skip := some skip.2 } := by
  -- A later skip takes the place of an earlier one, so the last skip decides.
  induction skips using List.reverseRecOn with
  | nil => exact .inl ⟨fun _ member => absurd member List.not_mem_nil, rfl⟩
  | append_singleton skips last earlier =>
    have step : annotateAll (skips ++ [last]) question =
        Draft.annotate last (annotateAll skips question) := by
      rw [annotateAll, List.foldl_append]
      rfl
    rw [step]
    rcases earlier with ⟨none, same⟩ | ⟨skip, member, number, same⟩
    · by_cases here : last.1 = question.number
      · refine .inr ⟨last, by simp, here, ?_⟩
        rw [same, Draft.annotate, if_pos here.symm]
      · refine .inl ⟨List.forall_mem_append.2 ⟨none, List.forall_mem_singleton.2 here⟩, ?_⟩
        rw [same, Draft.annotate, if_neg (Ne.symm here)]
    · by_cases here : last.1 = question.number
      · refine .inr ⟨last, by simp, here, ?_⟩
        rw [same, Draft.annotate, if_pos here.symm]
      · refine .inr ⟨skip, by simp [member], number, ?_⟩
        rw [same, Draft.annotate, if_neg (Ne.symm here)]

namespace Known

variable {known : Known W} {forward : ForwardLinks} {skips : List (Nat × Skip W)}

/-- When the links settle, the questions that they are on are annotated with what is skipped. -/
theorem settle_eq_ok (settles : known.forward.settle known.ledger = .ok (forward, skips)) :
    settle known = .ok { known with
      forward := forward, questions := known.questions.map (annotateAll skips) } := by
  rw [settle, settles, ← foldl_map_annotate]
  rfl

/-- What is known refuses the skips that the links refuse. -/
theorem settle_eq_error {violation : SkipViolation W}
    (settles : known.forward.settle known.ledger = .error violation) :
    settle known = .error violation := by
  rw [settle, settles]
  rfl

end Known

end Settling

section Bare

variable {W : Type} [Weight W] {before after : List (Question W)}

omit [Weight W] in
/-- A view that does not look at skips is the same of questions that differ in them alone. -/
theorem map_eq_of_bare {α : Type} (f : Question W → α)
    (plain : ∀ question, f question.bare = f question)
    (same : after.map Question.bare = before.map Question.bare) : after.map f = before.map f := by
  have whole := congrArg (List.map f) same
  rwa [List.map_map, List.map_map, (funext plain : f ∘ Question.bare = f)] at whole

/-- The weight between two questions does not depend on what may be skipped. -/
theorem weightBetween_of_bare (weigh : Question W → W)
    (plain : ∀ question, weigh question.bare = weigh question)
    (same : after.map Question.bare = before.map Question.bare) (first last : Nat) :
    weightBetween weigh after first last = weightBetween weigh before first last := by
  have bare (questions : List (Question W)) :
      weightBetween weigh (questions.map Question.bare) first last =
        weightBetween weigh questions first last := by
    rw [weightBetween, List.filter_map, List.map_map,
      (funext plain : weigh ∘ Question.bare = weigh)]
    rfl
  rw [← bare after, same, bare]

/-- What a reader may skip does not matter to how questions are listed. -/
theorem Listed.of_bare {ledger : Ledger W} {slide : Nat} (listed : Listed before ledger slide)
    (same : after.map Question.bare = before.map Question.bare) : Listed after ledger slide where
  numbers := by
    have length := congrArg List.length same
    rw [List.length_map, List.length_map] at length
    rw [map_eq_of_bare Question.number (fun _ => rfl) same, listed.numbers, length]
  sorted := map_eq_of_bare Question.slide (fun _ => rfl) same ▸ listed.sorted
  ended := by
    intro question member
    have found := List.mem_map_of_mem (f := Question.slide) member
    rw [map_eq_of_bare Question.slide (fun _ => rfl) same] at found
    obtain ⟨other, known, slide⟩ := List.mem_map.1 found
    exact slide ▸ listed.ended other known
  ledger := by
    rw [map_eq_of_bare Question.weight (fun _ => rfl) same,
      map_eq_of_bare Question.grade (fun _ => rfl) same,
      map_eq_of_bare Question.slide (fun _ => rfl) same]
    exact listed.ledger

/-- Whether questions are recorded in a ledger does not depend on what may be skipped. -/
theorem Recorded.of_bare {ledger : Ledger W} {slide : Nat} (recorded : Recorded before ledger slide)
    (same : after.map Question.bare = before.map Question.bare) : Recorded after ledger slide where
  toListed := recorded.toListed.of_bare same
  admissible := by
    intro question member
    have found := List.mem_map_of_mem (f := Question.grade) member
    rw [map_eq_of_bare Question.grade (fun _ => rfl) same] at found
    obtain ⟨other, known, grade⟩ := List.mem_map.1 found
    exact grade ▸ recorded.admissible other known

omit [Weight W] in
/-- Annotations change what may be skipped and nothing else. -/
theorem map_bare_annotateAll (skips : List (Nat × Skip W)) (questions : List (Question W)) :
    (questions.map (annotateAll skips)).map Question.bare = questions.map Question.bare := by
  rw [← foldl_map_annotate]
  exact Draft.map_bare_annotate skips questions

end Bare

end LectureDeck
