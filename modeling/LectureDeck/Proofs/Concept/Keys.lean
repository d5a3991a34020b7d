import LectureDeck.Concept.Index
import LectureDeck.Proofs.Text.Fields
import Mathlib.Data.String.Basic

/-!
# Keys of sets of concepts

A set of concepts is looked up by a text that has them in ascending order between semicolons. No
concept has a semicolon, and none is empty, so that the text tells which concepts it is made from
(`LectureDeck.conceptsOfKey_conceptKey`).
-/

namespace LectureDeck

open LectureDeck.Text

namespace Text

section Lowercase

/-- No character but the semicolon has it as its lower-case form. -/
theorem eq_of_lowerChar {c : Char} (same : lowerChar c = ';') : c = ';' := by
  unfold lowerChar at same
  split at same
  · rename_i ascii
    have every : ∀ code < 128, (Char.ofNat code).toLower = ';' → Char.ofNat code = ';' := by
      decide +kernel
    simpa using every c.toNat ascii (by simpa using same)
  · unfold shiftChar at same
    split at same
    · rename_i shift found
      have high : ∀ shift ∈ lowerShifts, 59 < (shift.first : Int) + shift.distance := by
        decide +kernel
      have moved := high shift (List.mem_of_find?_eq_some found)
      have applies := List.find?_some found
      simp only [Shift.applies, Bool.and_eq_true, decide_eq_true_eq] at applies
      have first : (shift.first : Int) ≤ Int.ofNat c.toNat := Int.ofNat_le.2 applies.1.1
      have beyond : 59 < (Int.ofNat c.toNat + shift.distance).toNat := by omega
      generalize (Int.ofNat c.toNat + shift.distance).toNat = code at same beyond
      by_cases valid : code.isValidChar
      · rw [Char.ofNat, dif_pos valid] at same
        exact absurd (congrArg Char.toNat same) (Nat.ne_of_gt beyond)
      · rw [Char.ofNat, dif_neg valid] at same
        exact absurd (congrArg Char.toNat same) (Nat.ne_of_lt (Nat.zero_lt_succ 58))
    · exact same

theorem not_mem_lowercaseAfter {before cs : List Char} (plain : ';' ∉ cs) :
    ';' ∉ lowercaseAfter before cs := by
  induction cs generalizing before with
  | nil => exact List.not_mem_nil
  | cons c rest later =>
    obtain ⟨other, plain⟩ := not_or.1 (List.mem_cons.not.1 plain)
    rw [lowercaseAfter, List.mem_append, not_or]
    refine ⟨?_, later plain⟩
    split
    · split <;> decide
    · split
      · decide
      · rw [List.mem_singleton]
        exact fun same => other (eq_of_lowerChar same.symm).symm

theorem lowercaseAfter_ne_nil {before cs : List Char} (some : cs ≠ []) :
    lowercaseAfter before cs ≠ [] := by
  cases cs with
  | nil => contradiction
  | cons c rest =>
    rw [lowercaseAfter]
    split
    · split <;> simp
    · split <;> simp

end Lowercase

section Sorted

theorem pairwise_insertSorted {set : List String} (ascending : set.Pairwise (· < ·))
    (text : String) : (insertSorted text set).Pairwise (· < ·) := by
  induction set with
  | nil => exact List.pairwise_singleton _ _
  | cons first rest later =>
    obtain ⟨below, ordered⟩ := List.pairwise_cons.1 ascending
    unfold insertSorted
    split
    · rename_i before
      refine List.pairwise_cons.2 ⟨List.forall_mem_cons.2 ⟨before, ?_⟩, ascending⟩
      exact fun other member => before.trans (below other member)
    · rename_i notBefore
      split
      · exact ascending
      · rename_i other
        refine List.pairwise_cons.2 ⟨fun inner member => ?_, later ordered⟩
        rcases mem_insertSorted.1 member with rfl | member
        · exact lt_of_le_of_ne (not_lt.1 notBefore) (Ne.symm other)
        · exact below inner member

/-- A sorted set is in ascending order. -/
theorem pairwise_sortedSet (texts : List String) : (sortedSet texts).Pairwise (· < ·) := by
  induction texts with
  | nil => exact List.Pairwise.nil
  | cons first rest later => exact pairwise_insertSorted later first

end Sorted

end Text

/-- A text that may stand between semicolons: it has none, and is not empty. -/
structure IsConcept (text : String) : Prop where
  plain : ';' ∉ text.toList
  some : text ≠ ""

namespace Tags

/-- All tags may stand between semicolons. -/
def AreConcepts (tags : Tags) : Prop := ∀ tag ∈ tags.all, IsConcept tag

theorem isConcept_of_mem_split {cs : List Char} {tag : String} (member : tag ∈ split cs) :
    IsConcept tag := by
  unfold split at member
  rw [List.mem_filter, List.mem_map] at member
  obtain ⟨⟨field, found, rfl⟩, kept⟩ := member
  simp only [Bool.and_eq_true, Bool.not_eq_true', ne_eq, Bool.eq_false_iff] at kept
  refine ⟨fun inside => ?_, fun empty => kept.1 (String.isEmpty_iff.2 empty)⟩
  rw [String.toList_ofList] at inside
  have inner : trim field <:+: field := by
    unfold trim trimEnd dropEndWhile trimStart
    have suffix := List.dropWhile_suffix isBlank (l := (field.dropWhile isBlank).reverse)
    have start := List.reverse_prefix.2 suffix
    rw [List.reverse_reverse] at start
    exact start.isInfix.trans (List.dropWhile_suffix isBlank).isInfix
  exact not_mem_of_mem_fields found (inner.subset inside)

/-- Tags that are read come from a list with semicolons. -/
theorem exists_mem_split_of_mem_parse {text tag : String} (member : tag ∈ (parse text).all) :
    ∃ cs, tag ∈ split cs := by
  unfold parse all at member
  split at member
  · rcases List.mem_append.1 member with member | member
    · exact ⟨_, member⟩
    · exact ⟨_, member⟩
  · rw [List.append_nil] at member
    exact ⟨_, member⟩

/-- Tags that are read may stand between semicolons. -/
theorem areConcepts_parse (text : String) : (parse text).AreConcepts := by
  intro tag member
  obtain ⟨cs, member⟩ := exists_mem_split_of_mem_parse member
  exact isConcept_of_mem_split member

theorem isConcept_concept {tag : String} (given : IsConcept tag) : IsConcept (concept tag) where
  plain := by
    rw [concept, String.toList_ofList]
    exact not_mem_lowercaseAfter given.plain
  some := by
    intro empty
    have chars := congrArg String.toList empty
    rw [concept, String.toList_ofList] at chars
    refine lowercaseAfter_ne_nil (fun none => given.some ?_) chars
    exact String.toList_eq_nil_iff.1 none

theorem isConcept_of_mem_concepts {tags : Tags} (given : tags.AreConcepts) :
    ∀ text ∈ tags.concepts, IsConcept text := by
  intro text member
  rw [concepts, mem_sortedSet, List.mem_map] at member
  obtain ⟨tag, known, rfl⟩ := member
  exact isConcept_concept (given tag known)

end Tags

theorem toList_conceptKey (concepts : List String) :
    (conceptKey concepts).toList = [';'].intercalate (concepts.map String.toList) :=
  String.toList_intercalate

/-- **A key tells its concepts.** -/
theorem conceptsOfKey_conceptKey {concepts : List String} (some : concepts ≠ [])
    (given : ∀ text ∈ concepts, IsConcept text) :
    conceptsOfKey (conceptKey concepts) = concepts := by
  have plain : ∀ text ∈ concepts.map String.toList, ';' ∉ text := by
    intro text member
    obtain ⟨concept, known, rfl⟩ := List.mem_map.1 member
    exact (given concept known).plain
  have chars : concepts.map String.toList ≠ [] := by simpa using some
  rw [conceptsOfKey, toList_conceptKey, fields_intercalate chars plain, List.map_map]
  simp

/-- Only an empty set has an empty key. -/
theorem isEmpty_conceptKey_iff {concepts : List String}
    (given : ∀ text ∈ concepts, IsConcept text) :
    (conceptKey concepts).isEmpty = true ↔ concepts = [] := by
  constructor
  · intro empty
    by_contra some
    have same := conceptsOfKey_conceptKey some given
    rw [String.isEmpty_iff.1 empty] at same
    exact (given "" (same ▸ List.mem_singleton_self _)).some rfl
  · rintro rfl
    rfl

theorem conceptKey_inj {first second : List String} (some : first ≠ []) (other : second ≠ [])
    (given : ∀ text ∈ first, IsConcept text) (givenOther : ∀ text ∈ second, IsConcept text) :
    conceptKey first = conceptKey second ↔ first = second := by
  constructor
  · intro same
    rw [← conceptsOfKey_conceptKey some given, same, conceptsOfKey_conceptKey other givenOther]
  · exact congrArg conceptKey

end LectureDeck
