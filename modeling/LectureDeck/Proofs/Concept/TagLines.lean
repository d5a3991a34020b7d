import LectureDeck.Proofs.Concept.Keys
import LectureDeck.Proofs.Text.Edges
import Mathlib.Data.List.Sort

/-!
# Lines of tags

Tags are written in one line, with semicolons between them and a colon before the secondary ones.
They are read back as they are (`LectureDeck.Tags.parse_render`), if they can be read at all
(`LectureDeck.Tags.areWritable_iff`). So a line of tags may be written anew, and its concepts are
told by their key (`LectureDeck.Tags.isReadBack_parse`).
-/

namespace LectureDeck

open LectureDeck.Text

namespace Tags

/-- A tag that is read from a list in which it stands as it is. -/
structure IsTag (tag : String) : Prop extends IsConcept tag where
  trimmed : IsTrimmed tag.toList
  given : tag ≠ "null"

/-- Tags that can be written in a line. A colon ends the primary ones. -/
structure AreWritable (tags : Tags) : Prop where
  each : ∀ tag ∈ tags.all, IsTag tag
  undivided : ∀ tag ∈ tags.primary, ':' ∉ tag.toList

section Lists

variable {cs before after : List Char} {tag : String} {tags : List String}

/-- A semicolon ends a list of tags. -/
theorem split_append_cons (cs rest : List Char) :
    split (cs ++ ';' :: rest) = split cs ++ split rest := by
  rw [split, fields_append_cons, List.map_append, List.filter_append, split, split]

theorem split_of_not_mem (plain : ';' ∉ cs) : split cs =
    [String.ofList (trim cs)].filter fun tag => !tag.isEmpty && tag != "null" := by
  rw [split, fields_of_not_mem plain, List.map_singleton]

theorem split_of_blank (blank : ∀ c ∈ cs, isBlank c = true) : split cs = [] := by
  have plain : ';' ∉ cs := fun member => absurd (blank _ member) (by decide)
  rw [split_of_not_mem plain, trim_of_allBlank (List.all_eq_true.2 blank)]
  rfl

theorem isTag_of_mem_split (member : tag ∈ split cs) : IsTag tag := by
  have isConcept := isConcept_of_mem_split member
  rw [split, List.mem_filter, List.mem_map, Bool.and_eq_true, bne_iff_ne] at member
  obtain ⟨⟨field, -, rfl⟩, -, given⟩ := member
  refine ⟨isConcept, ?_, given⟩
  rw [String.toList_ofList]
  exact isTrimmed_trim field

theorem mem_of_mem_split (member : tag ∈ split cs) {c : Char} (inside : c ∈ tag.toList) :
    c ∈ cs := by
  rw [split, List.mem_filter, List.mem_map] at member
  obtain ⟨⟨field, found, rfl⟩, -⟩ := member
  rw [String.toList_ofList] at inside
  exact mem_of_mem_fields found (mem_of_mem_trim inside)

/-- A tag is read as it is, whatever blank characters are around it. -/
theorem split_tag (isTag : IsTag tag) (gap : ∀ c ∈ before, isBlank c = true)
    (pad : ∀ c ∈ after, isBlank c = true) : split (before ++ tag.toList ++ after) = [tag] := by
  have plain : ';' ∉ before ++ tag.toList ++ after := by
    simp only [List.mem_append, not_or]
    exact ⟨⟨fun member => absurd (gap _ member) (by decide), isTag.plain⟩,
      fun member => absurd (pad _ member) (by decide)⟩
  rw [split_of_not_mem plain, trim_append_blank pad, trim_blank_append gap, isTag.trimmed.trim_eq,
    String.ofList_toList, List.filter_cons_of_pos, List.filter_nil]
  simp [isTag.some, isTag.given]

theorem isBlank_of_mem_space : ∀ c ∈ [' '], isBlank c = true := by
  intro c member
  rw [List.mem_singleton.1 member]
  rfl

/-- The characters of tags that are written in a list. -/
theorem toList_intercalate (tags : List String) : ("; ".intercalate tags).toList =
    [';', ' '].intercalate (tags.map String.toList) := String.toList_intercalate

/-- Tags are read as they are from a list in which they are written. -/
theorem split_intercalate (each : ∀ tag ∈ tags, IsTag tag)
    (gap : ∀ c ∈ before, isBlank c = true) (pad : ∀ c ∈ after, isBlank c = true) :
    split (before ++ ("; ".intercalate tags).toList ++ after) = tags := by
  induction tags generalizing before with
  | nil =>
    refine split_of_blank fun c member => ?_
    rw [toList_intercalate, List.map_nil, List.intercalate_nil, List.append_nil,
      List.mem_append] at member
    exact member.elim (gap c) (pad c)
  | cons tag others later =>
    obtain ⟨first, each⟩ := List.forall_mem_cons.1 each
    cases others with
    | nil =>
      rw [toList_intercalate, List.map_singleton, List.intercalate_singleton]
      exact split_tag first gap pad
    | cons next others =>
      have whole : before ++ ("; ".intercalate (tag :: next :: others)).toList ++ after =
          (before ++ tag.toList ++ []) ++ ';' ::
            ([' '] ++ ("; ".intercalate (next :: others)).toList ++ after) := by
        rw [toList_intercalate, toList_intercalate, List.map_cons, List.map_cons,
          List.intercalate_cons_cons]
        simp
      rw [whole, split_append_cons, split_tag first gap (by simp), later each isBlank_of_mem_space]
      rfl

end Lists

section Lines

variable {tags : Tags} {text : String}

/-- The colon after the primary tags is the first. -/
theorem cut?_render (undivided : ∀ tag ∈ tags.primary, ':' ∉ tag.toList) :
    cut? ':' tags.render.toList = some (("; ".intercalate tags.primary).toList ++ [' '],
      [' '] ++ ("; ".intercalate tags.secondary).toList) := by
  rw [cut?_eq_some_iff, toList_intercalate, List.mem_append, not_or]
  refine ⟨⟨not_mem_intercalate (by decide) ?_, by decide⟩, ?_⟩
  · exact List.forall_mem_map.2 undivided
  · simp [render]

/-- **Tags that can be written in a line are read back from it.** -/
theorem parse_render (writable : tags.AreWritable) : parse (render tags) = tags := by
  obtain ⟨first, second⟩ := List.forall_mem_append.1 writable.each
  have before : split ([] ++ ("; ".intercalate tags.primary).toList ++ [' ']) = tags.primary :=
    split_intercalate first (by simp) isBlank_of_mem_space
  have after : split ([' '] ++ ("; ".intercalate tags.secondary).toList ++ []) = tags.secondary :=
    split_intercalate second isBlank_of_mem_space (by simp)
  rw [List.nil_append] at before
  rw [List.append_nil] at after
  rw [parse, cut?_render writable.undivided]
  exact congrArg₂ Tags.mk before after

/-- Tags that are read can be written in a line. -/
theorem areWritable_parse (text : String) : (parse text).AreWritable := by
  unfold parse
  split
  · rename_i primary secondary cuts
    refine ⟨fun tag member => ?_, fun tag member inside => ?_⟩
    · exact (List.mem_append.1 member).elim isTag_of_mem_split isTag_of_mem_split
    · exact (cut?_eq_some_iff.1 cuts).1 (mem_of_mem_split member inside)
  · rename_i whole
    refine ⟨fun tag member => ?_, fun tag member inside => ?_⟩
    · rw [all, List.append_nil] at member
      exact isTag_of_mem_split member
    · rw [cut?_eq_none_iff] at whole
      exact whole (mem_of_mem_split member inside)

/-- Tags can be written in a line if and only if they are those of one. -/
theorem areWritable_iff : tags.AreWritable ↔ ∃ text, parse text = tags :=
  ⟨fun writable => ⟨_, parse_render writable⟩, fun ⟨_, same⟩ => same ▸ areWritable_parse _⟩

end Lines

end Tags

section Keys

variable {first second : List String}

/-- Keys tell the concepts that they are made from, be there any or none. -/
theorem conceptKey_eq_iff (given : ∀ text ∈ first, IsConcept text)
    (givenOther : ∀ text ∈ second, IsConcept text) :
    conceptKey first = conceptKey second ↔ first = second := by
  constructor
  · intro same
    by_cases empty : first = []
    · have key := (isEmpty_conceptKey_iff given).2 empty
      rw [same, isEmpty_conceptKey_iff givenOther] at key
      rw [empty, key]
    · have key := mt (isEmpty_conceptKey_iff given).1 empty
      rw [same, isEmpty_conceptKey_iff givenOther] at key
      exact (conceptKey_inj empty key given givenOther).1 same
  · exact congrArg conceptKey

end Keys

namespace Tags

variable {tags others : Tags}

theorem AreWritable.areConcepts (writable : tags.AreWritable) : tags.AreConcepts :=
  fun tag member => (writable.each tag member).toIsConcept

/-- Sets of concepts are the same if they have the same concepts. -/
theorem concepts_eq_iff : tags.concepts = others.concepts ↔
    ∀ text, text ∈ tags.all.map concept ↔ text ∈ others.all.map concept := by
  have told (text : String) (tags : Tags) : text ∈ tags.concepts ↔ text ∈ tags.all.map concept :=
    mem_sortedSet
  constructor
  · intro same text
    rw [← told, ← told, same]
  · intro same
    refine (pairwise_sortedSet _).eq_of_mem_iff (pairwise_sortedSet _) fun text => ?_
    exact (told text tags).trans ((same text).trans (told text others).symm)

/-- What is read of a text of tags: what is written of it again is read as the same, and its
concepts are told by their keys. -/
structure IsReadBack (text : String) : Prop where
  again : parse (render (parse text)) = parse text
  writable : (parse text).AreWritable
  /-- Concepts between semicolons are told in their order. -/
  joined : ∀ other, conceptKey ((parse text).all.map concept) =
      conceptKey ((parse other).all.map concept) ↔
    (parse text).all.map concept = (parse other).all.map concept
  /-- In ascending order, they are told as a set. -/
  key : ∀ other, conceptKey (parse text).concepts = conceptKey (parse other).concepts ↔
    ∀ name, name ∈ (parse text).all.map concept ↔ name ∈ (parse other).all.map concept

/-- **Tags are read back from what is written of them, and a set of concepts from its key.** -/
theorem isReadBack_parse (text : String) : IsReadBack text := by
  have writable := areWritable_parse
  have concepts (text : String) : ∀ name ∈ (parse text).all.map concept, IsConcept name :=
    List.forall_mem_map.2 fun tag member =>
      isConcept_concept ((writable text).areConcepts tag member)
  refine ⟨parse_render (writable text), writable text, fun other => ?_, fun other => ?_⟩
  · exact conceptKey_eq_iff (concepts text) (concepts other)
  · rw [conceptKey_eq_iff (isConcept_of_mem_concepts (writable text).areConcepts)
      (isConcept_of_mem_concepts (writable other).areConcepts)]
    exact concepts_eq_iff

/-- An empty side, a colon in a tag and the word for none. -/
example : parse " null ; : a:b ;; c " = ⟨[], ["a:b", "c"]⟩ := by decide +kernel

end Tags

end LectureDeck
