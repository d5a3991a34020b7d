import LectureDeck.Proofs.Concept.Entries
import LectureDeck.Proofs.Text.Lowercase
import LectureDeck.Proofs.Text.Percent

/-!
# Anchors of concepts

The anchor of a concept is made from its tag in lower case, with characters that may not stand in
an identifier replaced. It is the same for every spelling of a concept
(`LectureDeck.conceptAnchor_of_concept_eq`). Concepts that differ only in such characters have one
anchor (`LectureDeck.ConceptIndex.views_tell_ids`).
-/

namespace LectureDeck

open LectureDeck.Text LectureDeck.Reference

namespace Reference

/-- The text of an identifier before it is percent-encoded. -/
def idText (name : String) : List Char :=
  dropEndWhile isIdEdge
    ((dashRuns isIdChar (lowercase (trim name.toList))).dropWhile isIdEdge)

/-- Names have one identifier if they have one text. -/
theorem slug_inj {first second : String} :
    slug first = slug second ↔ idText first = idText second :=
  String.ofList_inj.trans percentEncode_inj

/-- A name that may be an identifier as it is. -/
structure IsIdName (name : String) : Prop where
  chars : ∀ c ∈ name.toList, isIdChar c = true
  start : ∀ c ∈ name.toList.head?, isIdEdge c = false
  stop : ∀ c ∈ name.toList.getLast?, isIdEdge c = false

theorem dashRuns_of_forall {p : Char → Bool} {cs : List Char} (every : ∀ c ∈ cs, p c = true) :
    dashRuns p cs = cs := by
  induction cs with
  | nil => rfl
  | cons c rest later =>
    obtain ⟨first, others⟩ := List.forall_mem_cons.1 every
    rw [dashRuns.eq_def]
    dsimp only
    rw [if_pos first, later others]

/-- No blank character may stand in an identifier. -/
theorem isBlank_of_isIdChar {c : Char} (may : isIdChar c = true) : isBlank c = false := by
  rw [Bool.eq_false_iff]
  intro blank
  have not : isIdChar c = false := eq_false_of_isBlank (by decide +kernel) blank
  rw [may] at not
  contradiction

/-- A name in lower case that may be an identifier is its own text. -/
theorem idText_of_isIdName {name : String} (plain : IsIdName name)
    (lower : lowercase name.toList = name.toList) : idText name = name.toList := by
  have trimmed : IsTrimmed name.toList :=
    ⟨fun c first => isBlank_of_isIdChar (plain.chars c (List.mem_of_head? first)),
      fun c last => isBlank_of_isIdChar (plain.chars c (List.mem_of_getLast? last))⟩
  rw [idText, trimmed.trim_eq, lower, dashRuns_of_forall plain.chars, dropWhile_of_head plain.start,
    dropEndWhile_of_last plain.stop]

end Reference

theorem conceptAnchor_inj {index first second : String} :
    conceptAnchor index first = conceptAnchor index second ↔ idText first = idText second := by
  rw [← slug_inj, conceptAnchor, conceptAnchor]
  simp

namespace Tags

end Tags

theorem IndexEntry.idText_concept (entry : IndexEntry) (plain : IsIdName entry.concept) :
    idText entry.concept = entry.concept.toList := by
  refine idText_of_isIdName plain ?_
  rw [concept, Tags.concept, String.toList_ofList, lowercase_lowercase]

/-- The identifiers of entries tell the texts that they are made from, and no more. -/
structure IndexView.TellsIds (view : IndexView) : Prop where
  same : ∀ first ∈ view.entries, ∀ second ∈ view.entries,
    first.id = second.id ↔ idText first.concept = idText second.concept
  /-- Concepts that may be identifiers as they are have identifiers of their own. -/
  plain : ∀ first ∈ view.entries, ∀ second ∈ view.entries, IsIdName first.concept →
    IsIdName second.concept → first.id = second.id → first.concept = second.concept
  /-- No two entries have the same identifier if no two concepts have the same text. -/
  apart : (view.entries.map IndexEntry.id).Nodup ↔
    (view.entries.map fun entry => idText entry.concept).Nodup

namespace ConceptIndex

theorem tellsIds_ofMentions (index : ConceptIndex) (onQuestion : Bool) (page : IndexPage) :
    (IndexView.ofMentions (index.view onQuestion) page).TellsIds := by
  have same : ∀ first ∈ (IndexView.ofMentions (index.view onQuestion) page).entries,
      ∀ second ∈ (IndexView.ofMentions (index.view onQuestion) page).entries,
        first.id = second.id ↔ idText first.concept = idText second.concept := by
    intro first member second other
    rw [(showsConcept_of_mem page member).id, (showsConcept_of_mem page other).id]
    exact conceptAnchor_inj
  refine ⟨same, fun first member second other plain alsoPlain id => ?_, ?_⟩
  · have text := (same first member second other).1 id
    rw [first.idText_concept plain, second.idText_concept alsoPlain] at text
    exact String.toList_inj.1 text
  · rw [List.Nodup, List.pairwise_map, List.Nodup, List.pairwise_map]
    exact List.Pairwise.iff_of_mem fun member other => not_congr (same _ member _ other)

/-- **Two entries of an index have one identifier exactly if their concepts have one text** when
what may not stand in an identifier is replaced by dashes, and dashes and dots at the edges are cut
off. -/
theorem views_tell_ids (steps : List IndexStep) (page : IndexPage) :
    ((ofSteps steps).conceptView page).TellsIds ∧ ((ofSteps steps).questionView page).TellsIds :=
  ⟨tellsIds_ofMentions _ false page, tellsIds_ofMentions _ true page⟩

/-- Two concepts that differ in signs only. -/
def signs : List IndexStep :=
  [.tag ⟨"C++", "a", ⟨"slidoc01-01", ""⟩, true, false⟩,
    .tag ⟨"C#", "a", ⟨"slidoc01-02", ""⟩, true, false⟩]

/-- Different tags can have one identifier. -/
theorem exists_shared_id : ∃ first ∈ ((ofSteps signs).conceptView (.concepts {})).entries,
    ∃ second ∈ ((ofSteps signs).conceptView (.concepts {})).entries,
      first.concept ≠ second.concept ∧ first.id = second.id := by
  decide +kernel

end ConceptIndex

end LectureDeck
