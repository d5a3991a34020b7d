import LectureDeck.Proofs.Concept.Combinations
import LectureDeck.Proofs.Concept.Keys
import Mathlib.Data.Finset.Sort

/-!
# Questions with fewer concepts

Questions are compared by the keys of their concepts, which are looked up for one choice of concepts
after another. So a question is related just to those whose concepts are among its own
(`LectureDeck.SubquestionReport.isOf_ofQuestions`), and to those with the same concepts if it has
many.
-/

namespace LectureDeck

open LectureDeck.Text

/-- A question with the tags of the slide that it is on. -/
structure AskedQuestion where
  question : TaggedQuestion
  tags : Tags
deriving DecidableEq

namespace AskedQuestion

/-- The concepts that a question asks for. -/
def concepts (asked : AskedQuestion) : Finset String := (asked.tags.all.map Tags.concept).toFinset

/-- A question is related to others whose concepts are among its own, unless those are more than
eight, and to others with the same concepts. -/
def IsRelated (asked other : AskedQuestion) : Prop :=
  other.concepts.Nonempty ∧ other.concepts ⊆ asked.concepts ∧ asked.concepts.card ≤ 8 ∨
    other.concepts = asked.concepts

/-- Tells whether a related question has the same concepts, and otherwise how many. -/
def mark (asked other : AskedQuestion) : String :=
  if other.concepts = asked.concepts then "*" else Decimal.naturalText other.concepts.card

/-- A question as it is looked up. -/
def indexed (asked : AskedQuestion) : ConceptQuestion :=
  ⟨asked.question, conceptKey asked.tags.concepts⟩

variable {asked other : AskedQuestion}

/-- A question has the concepts of its tags. -/
theorem toFinset_sorted (asked : AskedQuestion) :
    asked.tags.concepts.toFinset = asked.concepts := by
  ext text
  rw [concepts, List.mem_toFinset, List.mem_toFinset, Tags.concepts, mem_sortedSet]

/-- The concepts of a question are in ascending order. -/
theorem pairwise_sorted (asked : AskedQuestion) : asked.tags.concepts.Pairwise (· < ·) :=
  pairwise_sortedSet _

/-- No concept of a question is there twice. -/
theorem nodup_sorted (asked : AskedQuestion) : asked.tags.concepts.Nodup :=
  asked.pairwise_sorted.imp ne_of_lt

/-- A question has as many concepts as there are in its list. -/
theorem card_concepts (asked : AskedQuestion) :
    asked.concepts.card = asked.tags.concepts.length := by
  rw [← toFinset_sorted, List.toFinset_card_of_nodup asked.nodup_sorted]

/-- A question without tags has no concepts, and conversely. -/
theorem sorted_eq_nil_iff : asked.tags.concepts = [] ↔ asked.concepts = ∅ := by
  rw [← toFinset_sorted, List.toFinset_eq_empty_iff]

/-- Questions have the same concepts if and only if they have the same lists of them. -/
theorem sorted_eq_sorted_iff :
    other.tags.concepts = asked.tags.concepts ↔ other.concepts = asked.concepts := by
  constructor
  · intro same
    rw [← toFinset_sorted, same, toFinset_sorted]
  · intro same
    refine other.pairwise_sorted.eq_of_mem_iff asked.pairwise_sorted fun text => ?_
    rw [← List.mem_toFinset, ← List.mem_toFinset, toFinset_sorted, toFinset_sorted, same]

/-- In ascending order a subset is a sublist. -/
theorem sublist_sorted_iff :
    other.tags.concepts.Sublist asked.tags.concepts ↔ other.concepts ⊆ asked.concepts := by
  rw [← toFinset_sorted, ← toFinset_sorted]
  constructor
  · intro inside text member
    exact List.mem_toFinset.2 (inside.subset (List.mem_toFinset.1 member))
  · intro inside
    have subset : other.tags.concepts ⊆ asked.tags.concepts := fun text member =>
      List.mem_toFinset.1 (inside (List.mem_toFinset.2 member))
    exact List.sublist_of_subperm_of_pairwise (other.nodup_sorted.subperm subset)
      other.pairwise_sorted asked.pairwise_sorted

end AskedQuestion

namespace SubquestionReport

open AskedQuestion

section Related

variable {questions : List AskedQuestion} {asked : AskedQuestion}

/-- All sizes up to that of a question are looked up, or its own alone if it has many concepts. -/
theorem mem_sizes_iff {size count : Nat} : size ∈ sizes count ↔
    if maxConcepts < count then size = count else 0 < size ∧ size ≤ count := by
  unfold sizes
  split
  · rw [List.mem_singleton]
  · simp only [List.mem_reverse, List.mem_map, List.mem_range]
    constructor
    · rintro ⟨below, inside, rfl⟩
      omega
    · rintro ⟨some, inside⟩
      exact ⟨size - 1, by omega, by omega⟩

/-- The sizes come in descending order. -/
theorem pairwise_sizes (count : Nat) : (sizes count).Pairwise (· > ·) := by
  unfold sizes
  split
  · exact List.pairwise_singleton _ _
  · rw [List.pairwise_reverse, List.pairwise_map]
    exact List.pairwise_lt_range.imp fun before => Nat.succ_lt_succ before

/-- The questions that are found for choices of a number of concepts. -/
def foundOfSize (questions : List AskedQuestion) (asked : AskedQuestion) (size : Nat) :
    List AskedQuestion :=
  (combinations asked.tags.concepts size).flatMap fun subset =>
    questions.filter fun other =>
      other.tags.concepts = subset ∧ other.question ≠ asked.question

/-- The questions that are found for a question, in the order in which they are found. -/
def found (questions : List AskedQuestion) (asked : AskedQuestion) : List AskedQuestion :=
  (sizes asked.tags.concepts.length).flatMap (foundOfSize questions asked)

/-- Those other questions are found of a size whose concepts are as many, and are among those that
are asked for. -/
theorem mem_foundOfSize_iff {size : Nat} (some : size ≠ 0) {other : AskedQuestion} :
    other ∈ foundOfSize questions asked size ↔ other ∈ questions ∧
      other.question ≠ asked.question ∧ other.tags.concepts.Sublist asked.tags.concepts ∧
        other.tags.concepts.length = size := by
  simp only [foundOfSize, combinations_eq some, List.mem_flatMap, mem_sublistsOfLength,
    List.mem_filter, decide_eq_true_eq]
  constructor
  · rintro ⟨subset, chosen, member, rfl, different⟩
    exact ⟨member, different, chosen⟩
  · rintro ⟨member, different, chosen⟩
    exact ⟨_, chosen, member, rfl, different⟩

/-- No question is found twice of one size. -/
theorem nodup_foundOfSize {size : Nat} (some : size ≠ 0) (distinct : questions.Nodup) :
    (foundOfSize questions asked size).Nodup := by
  rw [foundOfSize, combinations_eq some, List.nodup_flatMap]
  refine ⟨fun _ _ => distinct.filter _, ?_⟩
  apply (nodup_sublistsOfLength asked.nodup_sorted).imp
  intro subset chosen different other first second
  rw [List.mem_filter, decide_eq_true_eq] at first second
  exact different (first.2.1.symm.trans second.2.1)

/-- No question without concepts is looked up. -/
theorem ne_zero_of_mem_sizes {size : Nat} (some : asked.tags.concepts ≠ [])
    (within : size ∈ sizes asked.tags.concepts.length) : size ≠ 0 := by
  have positive := List.length_pos_iff.2 some
  have bounds := mem_sizes_iff.1 within
  split at bounds <;> omega

/-- A question is found if it is another and related. -/
theorem mem_found_iff {other : AskedQuestion} (some : asked.tags.concepts ≠ []) :
    other ∈ found questions asked ↔
      other ∈ questions ∧ other.question ≠ asked.question ∧ asked.IsRelated other := by
  have positive := List.length_pos_iff.2 some
  have looked : other ∈ found questions asked ↔
      other ∈ questions ∧ other.question ≠ asked.question ∧
        other.tags.concepts.Sublist asked.tags.concepts ∧
        other.tags.concepts.length ∈ sizes asked.tags.concepts.length := by
    rw [found, List.mem_flatMap]
    constructor
    · rintro ⟨size, within, member⟩
      obtain ⟨known, different, inside, rfl⟩ :=
        (mem_foundOfSize_iff (ne_zero_of_mem_sizes some within)).1 member
      exact ⟨known, different, inside, within⟩
    · rintro ⟨known, different, inside, within⟩
      exact ⟨_, within, (mem_foundOfSize_iff (ne_zero_of_mem_sizes some within)).2
        ⟨known, different, inside, rfl⟩⟩
  rw [looked, IsRelated, ← sublist_sorted_iff, ← sorted_eq_sorted_iff,
    ← Finset.card_pos, card_concepts, card_concepts, mem_sizes_iff]
  apply and_congr_right
  intro _
  apply and_congr_right
  intro _
  split
  · rename_i many
    constructor
    · rintro ⟨inside, length⟩
      exact .inr (inside.eq_of_length length)
    · rintro (⟨-, -, few⟩ | same)
      · exact absurd many (Nat.not_lt.2 few)
      · rw [same]
        exact ⟨List.Sublist.refl _, rfl⟩
  · rename_i few
    constructor
    · rintro ⟨inside, nonempty, -⟩
      exact .inl ⟨nonempty, inside, Nat.not_lt.1 few⟩
    · rintro (⟨nonempty, inside, -⟩ | same)
      · exact ⟨inside, nonempty, inside.length_le⟩
      · rw [same]
        exact ⟨List.Sublist.refl _, positive, Nat.le_refl _⟩

/-- What is found of a size has as many concepts. -/
theorem card_of_mem_foundOfSize {size : Nat} (some : size ≠ 0) {other : AskedQuestion}
    (member : other ∈ foundOfSize questions asked size) : other.concepts.card = size := by
  rw [card_concepts]
  exact ((mem_foundOfSize_iff some).1 member).2.2.2

/-- No question is found twice. -/
theorem nodup_found (some : asked.tags.concepts ≠ []) (distinct : questions.Nodup) :
    (found questions asked).Nodup := by
  refine List.nodup_flatMap.2 ⟨fun size within => ?_, ?_⟩
  · exact nodup_foundOfSize (ne_zero_of_mem_sizes some within) distinct
  · apply (pairwise_sizes _).imp_of_mem
    intro larger smaller within others later other first second
    have card := card_of_mem_foundOfSize (ne_zero_of_mem_sizes some within) first
    have otherCard := card_of_mem_foundOfSize (ne_zero_of_mem_sizes some others) second
    exact Nat.ne_of_gt later (card.symm.trans otherCard)

/-- Questions with more concepts are found first. -/
theorem pairwise_found (some : asked.tags.concepts ≠ []) :
    (found questions asked).Pairwise
      fun first second => second.concepts.card ≤ first.concepts.card := by
  refine List.pairwise_flatMap.2 ⟨fun size within => ?_, ?_⟩
  · apply List.pairwise_of_forall_mem_list
    intro first member second later
    rw [card_of_mem_foundOfSize (ne_zero_of_mem_sizes some within) member,
      card_of_mem_foundOfSize (ne_zero_of_mem_sizes some within) later]
  · apply (pairwise_sizes _).imp_of_mem
    intro larger smaller within others later first member second inside
    rw [card_of_mem_foundOfSize (ne_zero_of_mem_sizes some within) member,
      card_of_mem_foundOfSize (ne_zero_of_mem_sizes some others) inside]
    exact Nat.le_of_lt later

/-- The questions that are looked up by a key are those with its concepts. -/
theorem sharing_eq (given : ∀ other ∈ questions, other.tags.AreConcepts) (question : TaggedQuestion)
    {subset : List String} (some : subset ≠ []) (valid : ∀ text ∈ subset, IsConcept text) :
    sharing ((questions.filter fun other => other.tags.concepts ≠ []).map indexed) question
        subset =
      (questions.filter fun other =>
        other.tags.concepts = subset ∧ other.question ≠ question).map AskedQuestion.question := by
  have keys : ∀ other ∈ questions, (other.tags.concepts ≠ [] ∧
      other.indexed.key = conceptKey subset) ↔ other.tags.concepts = subset := by
    intro other member
    constructor
    · rintro ⟨nonempty, same⟩
      have own := Tags.isConcept_of_mem_concepts (given other member)
      exact (conceptKey_inj nonempty some own valid).1 same
    · rintro rfl
      exact ⟨some, rfl⟩
  have kept : (questions.filter fun other => other.tags.concepts ≠ []).filter
      (fun other => other.indexed.key = conceptKey subset) =
        questions.filter fun other => other.tags.concepts = subset := by
    rw [List.filter_filter]
    apply List.filter_congr
    intro other member
    rw [← decide_eq_decide.2 (keys other member), Bool.decide_and, Bool.and_comm]
  have others : questions.filter (fun other =>
      other.tags.concepts = subset ∧ other.question ≠ question) =
        (questions.filter fun other => other.tags.concepts = subset).filter
          fun other => other.question ≠ question := by
    rw [List.filter_filter]
    apply List.filter_congr
    intro other _
    rw [Bool.decide_and, Bool.and_comm]
  rw [others, ← kept]
  simp only [sharing, List.filter_map, List.map_map]
  rfl

/-- What a report says of a question is found among those that ask for concepts. -/
theorem related_eq (given : ∀ other ∈ questions, other.tags.AreConcepts) (known : asked ∈ questions)
    (some : asked.tags.concepts ≠ []) :
    related ((questions.filter fun other => other.tags.concepts ≠ []).map indexed) asked.indexed =
      (found questions asked).map fun other => (asked.mark other, other.question) := by
  have valid := Tags.isConcept_of_mem_concepts (given asked known)
  unfold related found
  rw [indexed, conceptsOfKey_conceptKey some valid, List.map_flatMap]
  dsimp only
  apply List.flatMap_congr
  intro size within
  have positive := ne_zero_of_mem_sizes some within
  rw [foundOfSize, List.map_flatMap, combinations_eq positive]
  apply List.flatMap_congr
  intro subset chosen
  obtain ⟨inside, length⟩ := mem_sublistsOfLength.1 chosen
  have nonempty : subset ≠ [] := by
    rintro rfl
    exact positive length.symm
  rw [sharing_eq given asked.question nonempty fun text member =>
    valid text (inside.subset member), List.map_map]
  apply List.map_congr_left
  intro other member
  rw [List.mem_filter, decide_eq_true_eq] at member
  obtain ⟨-, rfl, -⟩ := member
  have whole : size = asked.tags.concepts.length ↔ other.concepts = asked.concepts := by
    rw [← sorted_eq_sorted_iff, ← length]
    exact ⟨inside.eq_of_length, congrArg List.length⟩
  simp only [Function.comp_apply, SubquestionReport.mark, AskedQuestion.mark, whole,
    card_concepts, length]

end Related

/-- An entry of a report tells of a question and of all that are related to it. -/
structure IsOf (questions : List AskedQuestion) (asked : AskedQuestion)
    (entry : SubquestionEntry) : Prop where
  question : entry.question = asked.question
  concepts : entry.concepts = asked.concepts.sort (· ≤ ·)
  /-- Each related question stands there once, those with more concepts first. -/
  related : ∃ others : List AskedQuestion,
    entry.related = others.map (fun other => (asked.mark other, other.question)) ∧
      others.Nodup ∧
      (∀ other, other ∈ others ↔ other ∈ questions ∧ other ≠ asked ∧ asked.IsRelated other) ∧
      others.Pairwise fun first second => second.concepts.card ≤ first.concepts.card

section Reports

variable {questions : List AskedQuestion}

/-- The questions with tags are those with concepts. -/
theorem filter_sorted (questions : List AskedQuestion) :
    (questions.filter fun asked => asked.tags.concepts ≠ []) =
      questions.filter fun asked => asked.concepts.Nonempty := by
  apply List.filter_congr
  intro asked _
  apply decide_eq_decide.2
  rw [Finset.nonempty_iff_ne_empty, ne_eq, sorted_eq_nil_iff]

/-- **A report has an entry for each question that asks for concepts**, in order. -/
theorem isOf_ofQuestions (given : ∀ asked ∈ questions, asked.tags.AreConcepts)
    (distinct : (questions.map AskedQuestion.question).Nodup) :
    List.Forall₂ (IsOf questions) (questions.filter fun asked => asked.concepts.Nonempty)
      (ofQuestions
        ((questions.filter fun asked => asked.concepts.Nonempty).map indexed)).entries := by
  rw [← filter_sorted, ofQuestions, List.map_map, List.forall₂_map_right_iff, List.forall₂_same]
  intro asked member
  obtain ⟨known, some⟩ := List.mem_filter.1 member
  have some : asked.tags.concepts ≠ [] := of_decide_eq_true some
  have valid := Tags.isConcept_of_mem_concepts (given asked known)
  constructor
  · rfl
  · change conceptsOfKey (conceptKey asked.tags.concepts) = _
    rw [conceptsOfKey_conceptKey some valid, ← toFinset_sorted]
    exact ((List.toFinset_sort (· ≤ ·) asked.nodup_sorted).2
      (asked.pairwise_sorted.imp le_of_lt)).symm
  · refine ⟨found questions asked, related_eq given known some,
      nodup_found some (List.Nodup.of_map _ distinct), fun other => ?_, pairwise_found some⟩
    rw [mem_found_iff some]
    apply and_congr_right
    intro member
    have same : other.question = asked.question ↔ other = asked :=
      ⟨List.inj_on_of_nodup_map distinct member known, congrArg _⟩
    rw [ne_eq, ne_eq, same]

/-- The questions with many concepts are told, in order. -/
theorem oversized_ofQuestions (given : ∀ asked ∈ questions, asked.tags.AreConcepts) :
    (ofQuestions ((questions.filter fun asked => asked.concepts.Nonempty).map indexed)).oversized =
      (questions.filter fun asked => maxConcepts < asked.concepts.card).map
        fun asked => (asked.question, asked.concepts.card) := by
  have own : ∀ asked ∈ questions, asked.concepts.Nonempty →
      (conceptsOfKey asked.indexed.key).length = asked.concepts.card := by
    intro asked known some
    rw [Finset.nonempty_iff_ne_empty, ne_eq, ← sorted_eq_nil_iff] at some
    change (conceptsOfKey (conceptKey asked.tags.concepts)).length = _
    rw [conceptsOfKey_conceptKey some (Tags.isConcept_of_mem_concepts (given asked known)),
      card_concepts]
  have kept : (questions.filter fun asked => asked.concepts.Nonempty).filter
      (fun asked => maxConcepts < (conceptsOfKey asked.indexed.key).length) =
        questions.filter fun asked => maxConcepts < asked.concepts.card := by
    rw [List.filter_filter]
    apply List.filter_congr
    intro asked known
    rw [← Bool.decide_and]
    apply decide_eq_decide.2
    constructor
    · rintro ⟨many, some⟩
      rwa [own asked known some] at many
    · intro many
      have some : asked.concepts.Nonempty := Finset.card_pos.1 (Nat.zero_lt_of_lt many)
      exact ⟨(own asked known some).symm ▸ many, some⟩
  have looked (indexes : List AskedQuestion) : (ofQuestions (indexes.map indexed)).oversized =
      (indexes.filter fun asked => maxConcepts < (conceptsOfKey asked.indexed.key).length).map
        fun asked => (asked.question, (conceptsOfKey asked.indexed.key).length) := by
    simp only [ofQuestions, List.filter_map, List.map_map]
    rfl
  rw [looked, ← kept]
  apply List.map_congr_left
  intro asked member
  obtain ⟨member, -⟩ := List.mem_filter.1 member
  obtain ⟨known, some⟩ := List.mem_filter.1 member
  exact Prod.ext rfl (own asked known (of_decide_eq_true some))

end Reports

end SubquestionReport

end LectureDeck
