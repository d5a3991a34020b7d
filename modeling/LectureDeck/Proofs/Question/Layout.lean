import LectureDeck.Proofs.Result
import LectureDeck.Question.Choices
import Mathlib.Data.List.Infix

/-!
# Layouts of choices

The markers of a slide that are accepted are those of a layout
(`LectureDeck.Choices.presentAll_eq_ok_iff`): restatements of the question, and then the choices in
the order of their letters, each followed by its further versions. Other markers fail at the first
one with which no layout goes on (`LectureDeck.Choices.offends_of_presentAll`).
-/

namespace LectureDeck

/-- How the choices of a slide are laid out. A flag tells whether a marker is starred. -/
structure ChoiceLayout where
  /-- The restatements of the question, which come first. -/
  restatements : List Bool := []
  /-- The choices: whether the marker of each is starred, and how many further versions it has. -/
  items : List (Bool × Nat) := []

namespace ChoiceLayout

open Choices (letter restatement)

/-- The markers of the choice after `place` others. Those of further versions are starred. -/
def itemMarkers (item : (Bool × Nat) × Nat) : List (Char × Bool) :=
  (letter item.2, item.1.1) :: List.replicate item.1.2 (letter item.2, true)

/-- The markers of a layout, in order. -/
def markers (layout : ChoiceLayout) : List (Char × Bool) :=
  layout.restatements.map (Prod.mk restatement) ++ layout.items.zipIdx.flatMap itemMarkers

/-- The letters of the further versions of choices, in order. -/
def alternatives (layout : ChoiceLayout) : List Char :=
  layout.items.zipIdx.flatMap fun item => List.replicate item.1.2 (letter item.2)

/-- The choices that a layout presents. -/
def choices (layout : ChoiceLayout) : Choices where
  count := layout.items.length
  restatements := layout.restatements.length
  alternatives := layout.alternatives

/-- A slide may have these choices: at most two restatements and sixteen choices, and further
versions only where these are allowed. -/
structure IsAllowed (multiplicity : Bool) (layout : ChoiceLayout) : Prop where
  restatements : layout.restatements.length ≤ 2
  items : layout.items.length ≤ 16
  versions : ∀ item ∈ layout.items, 0 < item.2 → multiplicity = true

/-- What is wrong with a marker with which a layout does not go on. A starred repetition of the
letter just presented is a further version that is not allowed. Else another letter was expected. -/
def fault (multiplicity : Bool) (layout : ChoiceLayout) (marker : Char × Bool) : SlideFault :=
  if marker.2 = true ∧ layout.items ≠ [] ∧ marker.1 = letter (layout.items.length - 1) ∧
      multiplicity = false then
    .alternativeChoice marker.1
  else .choiceOutOfSequence (letter layout.items.length) marker.1

/-- A layout with one more choice, which has further versions. -/
def addItem (layout : ChoiceLayout) (item : Bool × Nat) : ChoiceLayout :=
  { layout with items := layout.items ++ [item] }

section Letters

theorem letter_ne_restatement {count : Nat} (inside : count < 16) :
    letter count ≠ restatement := by
  have each : ∀ count < 16, letter count ≠ restatement := by decide
  exact each count inside

theorem letter_ne_letter_succ {count : Nat} (inside : count < 16) :
    letter count ≠ letter (count + 1) := by
  have each : ∀ count < 16, letter count ≠ letter (count + 1) := by decide
  exact each count inside

/-- The letter after sixteen choices is that of restatements. -/
theorem letter_sixteen : letter 16 = restatement := by decide

end Letters

variable {multiplicity starred : Bool} {layout : ChoiceLayout} {item : Bool × Nat}

theorem markers_addItem (layout : ChoiceLayout) (item : Bool × Nat) :
    (layout.addItem item).markers =
      layout.markers ++ itemMarkers (item, layout.items.length) := by
  simp [markers, addItem, List.zipIdx_append]

theorem choices_addItem (layout : ChoiceLayout) (item : Bool × Nat) :
    (layout.addItem item).choices =
      { layout.choices with
        count := layout.items.length + 1
        alternatives :=
          layout.alternatives ++ List.replicate item.2 (letter layout.items.length) } := by
  simp [choices, alternatives, addItem, List.zipIdx_append]

/-- A choice with one more version has one more marker. -/
theorem markers_addVersion (layout : ChoiceLayout) (starred : Bool) (versions : Nat) :
    (layout.addItem (starred, versions + 1)).markers =
      (layout.addItem (starred, versions)).markers ++ [(letter layout.items.length, true)] := by
  simp [markers_addItem, itemMarkers, List.replicate_succ']

theorem isAllowed_addItem_iff (layout : ChoiceLayout) (item : Bool × Nat) :
    (layout.addItem item).IsAllowed multiplicity ↔ layout.IsAllowed multiplicity ∧
      layout.items.length < 16 ∧ (0 < item.2 → multiplicity = true) := by
  constructor
  · rintro ⟨restated, items, versions⟩
    have whole : (layout.items ++ [item]).length ≤ 16 := items
    rw [List.length_append, List.length_singleton] at whole
    refine ⟨⟨restated, by omega, fun other member => versions other ?_⟩, by omega,
      versions item (List.mem_append_right _ List.mem_cons_self)⟩
    exact List.mem_append_left _ member
  · rintro ⟨⟨restated, _, versions⟩, inside, version⟩
    refine ⟨restated, ?_, ?_⟩
    · exact (List.length_append).trans_le inside
    · intro other member
      rcases List.mem_append.1 member with earlier | last
      · exact versions other earlier
      · rw [List.mem_singleton.1 last]
        exact version

end ChoiceLayout

namespace Choices

open ChoiceLayout

variable {multiplicity : Bool} {choices after : Choices} {layout : ChoiceLayout}
  {markers : List (Char × Bool)}

theorem presentAll_concat (multiplicity : Bool) (choices : Choices)
    (markers : List (Char × Bool)) (marker : Char × Bool) :
    presentAll multiplicity choices (markers ++ [marker]) =
      presentAll multiplicity choices markers >>= fun middle =>
        middle.present multiplicity marker.1 marker.2 := by
  unfold presentAll
  rw [List.foldlM_append]
  refine bind_congr fun middle => ?_
  rw [List.foldlM_cons]
  exact bind_pure _

/-- Markers are presented one part after the other. -/
theorem presentAll_append (multiplicity : Bool) (choices : Choices)
    (markers later : List (Char × Bool)) :
    presentAll multiplicity choices (markers ++ later) =
      presentAll multiplicity choices markers >>= fun middle =>
        presentAll multiplicity middle later := List.foldlM_append

section Present

variable {found : Char} {starred : Bool}

theorem present_restatement (first : choices.count = 0) (few : choices.restatements < 2) :
    choices.present multiplicity restatement starred =
      .ok { choices with restatements := choices.restatements + 1 } := by
  simp [present, first, few]

theorem present_letter (inside : choices.count < 16) :
    choices.present multiplicity (letter choices.count) starred =
      .ok { choices with count := choices.count + 1 } := by
  simp [present, letter_ne_restatement inside]

/-- A further version of the choice after `place` others, which was presented last. -/
theorem present_version (choices : Choices) {place : Nat} (last : choices.count = place + 1)
    (inside : place < 16) : choices.present true (letter place) true =
      .ok { choices with alternatives := choices.alternatives ++ [letter place] } := by
  simp [present, last, letter_ne_restatement inside, letter_ne_letter_succ inside]

/-- A marker of no other kind fails. -/
theorem present_of_offends (restates : found = restatement →
      0 < choices.count ∨ 2 ≤ choices.restatements)
    (next : found = letter choices.count → found = restatement)
    (again : starred = true → 0 < choices.count → found = letter (choices.count - 1) →
      multiplicity = false)
    (letters : 0 < choices.count → letter (choices.count - 1) ≠ restatement) :
    choices.present multiplicity found starred = .error
      (if starred = true ∧ 0 < choices.count ∧ found = letter (choices.count - 1) ∧
          multiplicity = false then .alternativeChoice found
        else .choiceOutOfSequence (letter choices.count) found) := by
  unfold present
  dsimp only
  by_cases isRestatement : found = restatement
  · subst isRestatement
    have apart : ¬ (starred = true ∧ 0 < choices.count ∧
        restatement = letter (choices.count - 1) ∧ multiplicity = false) :=
      fun all => letters all.2.1 all.2.2.1.symm
    rw [if_pos rfl, if_pos (by simpa using restates rfl), if_neg apart]
  · rw [if_neg isRestatement, if_neg fun same => isRestatement (next same)]
    by_cases repeats : starred = true ∧ 0 < choices.count ∧ found = letter (choices.count - 1)
    · have single := again repeats.1 repeats.2.1 repeats.2.2
      simp [repeats.1, repeats.2.1, ← repeats.2.2, single]
    · rw [if_neg (by simpa [and_assoc] using repeats),
        if_neg fun all => repeats ⟨all.1, all.2.1, all.2.2.1⟩]

end Present

/-- A layout goes on with a marker, or the marker is at fault. -/
theorem present_cases (allowed : layout.IsAllowed multiplicity) (marker : Char × Bool) :
    (∃ next : ChoiceLayout, next.IsAllowed multiplicity ∧
        next.markers = layout.markers ++ [marker] ∧
        layout.choices.present multiplicity marker.1 marker.2 = .ok next.choices) ∨
      layout.choices.present multiplicity marker.1 marker.2 =
        .error (layout.fault multiplicity marker) := by
  obtain ⟨found, starred⟩ := marker
  obtain ⟨restatements, items⟩ := layout
  have counted : items.length ≤ 16 := allowed.items
  by_cases restates : found = restatement ∧ items = [] ∧ restatements.length < 2
  · obtain ⟨rfl, rfl, few⟩ := restates
    refine .inl ⟨⟨restatements ++ [starred], []⟩, ⟨?_, Nat.zero_le _, nofun⟩, ?_, ?_⟩
    · exact List.length_append.trans_le few
    · simp [ChoiceLayout.markers]
    · refine (present_restatement rfl few).trans ?_
      simp [ChoiceLayout.choices, ChoiceLayout.alternatives]
  by_cases next : found = letter items.length ∧ items.length < 16
  · obtain ⟨rfl, inside⟩ := next
    refine .inl ⟨addItem ⟨restatements, items⟩ (starred, 0),
      (isAllowed_addItem_iff _ _).2 ⟨allowed, inside, nofun⟩, markers_addItem _ _, ?_⟩
    refine (present_letter inside).trans ?_
    rw [choices_addItem]
    simp [ChoiceLayout.choices]
  by_cases again : starred = true ∧ items ≠ [] ∧ found = letter (items.length - 1) ∧
      multiplicity = true
  · obtain ⟨rfl, some, rfl, rfl⟩ := again
    -- The last choice gets one more version.
    obtain ⟨earlier, ⟨first, versions⟩, rfl⟩ := (List.eq_nil_or_concat' items).resolve_left some
    have given := (isAllowed_addItem_iff ⟨restatements, earlier⟩ (first, versions)).1 allowed
    refine .inl ⟨addItem ⟨restatements, earlier⟩ (first, versions + 1),
      (isAllowed_addItem_iff _ _).2 ⟨given.1, given.2.1, fun _ => rfl⟩, ?_, ?_⟩
    · rw [markers_addVersion]
      simp [addItem]
    · have presented := present_version (addItem ⟨restatements, earlier⟩ (first, versions)).choices
        (by simp [choices_addItem]) given.2.1
      have last : (earlier ++ [(first, versions)]).length - 1 = earlier.length := by simp
      rw [last]
      refine presented.trans ?_
      rw [choices_addItem, choices_addItem, List.replicate_succ', List.append_assoc]
  refine .inr ?_
  have letters (some : 0 < items.length) : letter (items.length - 1) ≠ restatement :=
    letter_ne_restatement (by omega)
  refine (present_of_offends ?_ ?_ ?_ letters).trans ?_
  · rintro rfl
    by_contra few
    simp only [ChoiceLayout.choices, not_or, Nat.not_lt, Nat.not_le] at few
    exact restates ⟨rfl, List.length_eq_zero_iff.1 (Nat.le_zero.1 few.1), few.2⟩
  · intro same
    have full : items.length = 16 :=
      Nat.le_antisymm counted (Nat.not_lt.1 fun inside => next ⟨same, inside⟩)
    rw [same]
    exact (congrArg letter full).trans letter_sixteen
  · intro isStarred some same
    by_contra multiple
    exact again ⟨isStarred, List.length_pos_iff.1 some, same, by simpa using multiple⟩
  · simp only [fault, ChoiceLayout.choices, List.length_pos_iff]

theorem presentAll_restatements {restatements : List Bool} (few : restatements.length ≤ 2) :
    presentAll multiplicity {} (ChoiceLayout.markers ⟨restatements, []⟩) =
      .ok (ChoiceLayout.choices ⟨restatements, []⟩) := by
  induction restatements using List.reverseRecOn with
  | nil => rfl
  | append_singleton restatements starred earlier =>
    have few : restatements.length < 2 := List.length_append.symm.trans_le few
    have whole : (⟨restatements ++ [starred], []⟩ : ChoiceLayout).markers =
        ChoiceLayout.markers ⟨restatements, []⟩ ++ [(restatement, starred)] := by
      simp [ChoiceLayout.markers]
    rw [whole, presentAll_concat, earlier (Nat.le_of_lt few)]
    change (ChoiceLayout.choices ⟨restatements, []⟩).present multiplicity restatement starred = _
    rw [present_restatement rfl few]
    simp [ChoiceLayout.choices, ChoiceLayout.alternatives]

/-- A layout goes on with one more choice, version by version. -/
theorem presentAll_addItem {item : Bool × Nat}
    (earlier : presentAll multiplicity {} layout.markers = .ok layout.choices)
    (inside : layout.items.length < 16) (multiple : 0 < item.2 → multiplicity = true) :
    presentAll multiplicity {} (layout.addItem item).markers =
      .ok (layout.addItem item).choices := by
  obtain ⟨starred, versions⟩ := item
  induction versions with
  | zero =>
    rw [markers_addItem, itemMarkers, List.replicate_zero, presentAll_concat, earlier]
    change layout.choices.present multiplicity (letter layout.choices.count) starred = _
    rw [present_letter inside, choices_addItem]
    simp [ChoiceLayout.choices]
  | succ versions fewer =>
    obtain rfl := multiple (Nat.succ_pos _)
    rw [markers_addVersion, presentAll_concat, fewer fun _ => rfl]
    refine (present_version _ (by simp [choices_addItem]) inside).trans ?_
    rw [choices_addItem, choices_addItem, List.replicate_succ', List.append_assoc]

/-- The markers of a layout that is allowed are accepted. -/
theorem presentAll_of_isAllowed (allowed : layout.IsAllowed multiplicity) :
    presentAll multiplicity {} layout.markers = .ok layout.choices := by
  obtain ⟨restatements, items⟩ := layout
  induction items using List.reverseRecOn with
  | nil => exact presentAll_restatements allowed.restatements
  | append_singleton items item earlier =>
    obtain ⟨before, inside, multiple⟩ :=
      (isAllowed_addItem_iff ⟨restatements, items⟩ item).1 allowed
    exact presentAll_addItem (earlier before) inside multiple

/-- **The markers that are accepted are those of a layout.** -/
theorem presentAll_eq_ok_iff : presentAll multiplicity {} markers = .ok after ↔
    ∃ layout : ChoiceLayout, layout.IsAllowed multiplicity ∧ layout.markers = markers ∧
      layout.choices = after := by
  constructor
  · intro presented
    induction markers using List.reverseRecOn generalizing after with
    | nil =>
      cases presented
      exact ⟨{}, ⟨Nat.zero_le _, Nat.zero_le _, nofun⟩, rfl, rfl⟩
    | append_singleton markers marker earlier =>
      rw [presentAll_concat, bind_eq_ok] at presented
      obtain ⟨middle, before, last⟩ := presented
      obtain ⟨layout, allowed, rfl, rfl⟩ := earlier before
      rcases present_cases allowed marker with ⟨next, allows, same, goesOn⟩ | failed
      · exact ⟨next, allows, same, Except.ok.inj (goesOn.symm.trans last)⟩
      · cases failed.symm.trans last
  · rintro ⟨layout, allowed, rfl, rfl⟩
    exact presentAll_of_isAllowed allowed

/-- A marker is the first with which no layout goes on. Those before it are the markers of a layout,
and no layout has markers that begin with them and this one. -/
structure Offends (multiplicity : Bool) (markers : List (Char × Bool)) (fault : SlideFault)
    (layout : ChoiceLayout) (marker : Char × Bool) : Prop where
  allowed : layout.IsAllowed multiplicity
  met : layout.markers ++ [marker] <+: markers
  stops : ∀ next : ChoiceLayout, next.IsAllowed multiplicity →
    ¬ layout.markers ++ [marker] <+: next.markers
  fault : fault = layout.fault multiplicity marker

/-- **Markers that are not accepted fail at the first one with which no layout goes on.** -/
theorem exists_offends_of_presentAll {fault : SlideFault}
    (failed : presentAll multiplicity {} markers = .error fault) :
    ∃ layout marker, Offends multiplicity markers fault layout marker := by
  obtain ⟨met, marker, rest, middle, rfl, before, fails⟩ := exists_of_foldlM_eq_error failed
  obtain ⟨layout, allowed, rfl, rfl⟩ := presentAll_eq_ok_iff.1 before
  have offends (next : ChoiceLayout) (allows : next.IsAllowed multiplicity) :
      ¬ layout.markers ++ [marker] <+: next.markers := by
    rintro ⟨later, whole⟩
    have accepted := presentAll_of_isAllowed allows
    rw [← whole, presentAll_append, presentAll_concat, presentAll_of_isAllowed allowed] at accepted
    have blocked : layout.choices.present multiplicity marker.1 marker.2 = .error fault := fails
    simp only [bind, Except.bind, blocked] at accepted
    contradiction
  refine ⟨layout, marker, allowed, ⟨rest, by simp⟩, offends, ?_⟩
  rcases present_cases allowed marker with ⟨next, allows, same, -⟩ | failed
  · exact (offends next allows (same ▸ List.prefix_rfl)).elim
  · exact Except.error.inj (fails.symm.trans failed)

end Choices

end LectureDeck
