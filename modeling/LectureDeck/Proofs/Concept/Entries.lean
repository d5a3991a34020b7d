import LectureDeck.Proofs.Concept.Listing

/-!
# Entries of index views

A concept index is filled step by step: with single tags, and with all slides of a file. What each
step is to record is told by the tags and the question of every slide
(`LectureDeck.IndexStep.mentions`), and the index keeps it in order
(`LectureDeck.ConceptIndex.mentions_ofSteps`).

An index view has an entry for each concept that a slide without a question mentions, in ascending
order; the view for questions has one for each concept that a question asks for. An entry shows
the tag as it was first written anywhere, and lists the slides (`LectureDeck.IndexView.Shows`).
The tables beside the entries go by tags as they are shown. No two entries have the same tag, so
that nothing is lost in them.
-/

namespace LectureDeck

/-- What is done to a concept index: a tag is recorded, or the tags of the slides of a file. -/
inductive IndexStep where
  | tag (mention : Mention)
  | merge (occurrences : List Occurrence)

/-- What is to be recorded of a tag of a slide: the tag as it is written, the slide, whether the
slide is about the concept, and whether it has a question. -/
def Occurrence.mentionOf (slide : Occurrence) (primary : Bool) (tag : String) : Mention where
  tag := tag
  file := slide.file
  place := ⟨slide.slideId, slide.header⟩
  primary := primary
  onQuestion := slide.question.isSome

/-- What a step is to record: the single tag, or every tag of every slide that is merged. The slides
come in order, and on each slide the primary tags come before the secondary ones. -/
def IndexStep.mentions : IndexStep → List Mention
  | .tag mention => [mention]
  | .merge slides => slides.flatMap fun slide =>
    slide.tags.primary.map (slide.mentionOf true) ++
      slide.tags.secondary.map (slide.mentionOf false)

/-- A slide leaves in an index what is to be recorded of its tags. -/
theorem Occurrence.mentions_eq (slide : Occurrence) :
    slide.mentions = slide.tags.primary.map (slide.mentionOf true) ++
      slide.tags.secondary.map (slide.mentionOf false) := by
  rw [mentions, Tags.ranked, List.map_append, List.map_map, List.map_map]
  rfl

theorem Tags.map_fst_ranked (tags : Tags) : tags.ranked.map Prod.fst = tags.all := by
  rw [ranked, all, List.map_append, List.map_map, List.map_map]
  exact congr (congrArg _ (List.map_id _)) (List.map_id _)

namespace ConceptIndex

def perform (index : ConceptIndex) : IndexStep → ConceptIndex
  | .tag mention => index.mention mention
  | .merge occurrences => index.merge occurrences

/-- The index after some steps. -/
def ofSteps (steps : List IndexStep) : ConceptIndex := steps.foldl perform {}

theorem mentions_merge (index : ConceptIndex) (occurrences : List Occurrence) :
    (index.merge occurrences).mentions =
      index.mentions ++ occurrences.flatMap Occurrence.mentions := by
  induction occurrences generalizing index with
  | nil => exact (List.append_nil _).symm
  | cons occurrence rest later =>
    rw [merge, List.foldl_cons, ← merge, later, List.flatMap_cons, ← List.append_assoc]
    rfl

/-- A step adds its mentions behind those that there are. -/
theorem mentions_perform (index : ConceptIndex) (step : IndexStep) :
    (index.perform step).mentions = index.mentions ++ step.mentions := by
  cases step with
  | tag mention => rfl
  | merge slides =>
    rw [perform, mentions_merge, IndexStep.mentions]
    exact congrArg (index.mentions ++ ·)
      (List.flatMap_congr fun slide _ => slide.mentions_eq)

/-- **An index has the mentions of its steps, in order.** -/
theorem mentions_ofSteps (steps : List IndexStep) :
    (ofSteps steps).mentions = steps.flatMap IndexStep.mentions := by
  have performed (index : ConceptIndex) :
      (steps.foldl perform index).mentions =
        index.mentions ++ steps.flatMap IndexStep.mentions := by
    induction steps generalizing index with
    | nil => exact (List.append_nil _).symm
    | cons step rest later =>
      rw [List.foldl_cons, later, mentions_perform, List.flatMap_cons, List.append_assoc]
  exact performed {}

/-- A concept that has been mentioned has the spelling of the first mention. -/
theorem exists_spelling {index : ConceptIndex} {mention : Mention}
    (member : mention ∈ index.mentions) :
    ∃ first, index.mentions.find? (fun other => other.concept == mention.concept) = some first ∧
      first.tag = index.spelling mention.concept ∧ first.concept = mention.concept := by
  have known : (index.mentions.find? fun other => other.concept == mention.concept).isSome := by
    rw [List.find?_isSome]
    exact ⟨mention, member, beq_self_eq_true _⟩
  obtain ⟨first, found⟩ := Option.isSome_iff_exists.1 known
  have same := List.find?_some found
  refine ⟨first, found, ?_, beq_iff_eq.1 same⟩
  rw [spelling, found]
  rfl

/-- A spelling is one of its concept. -/
theorem concept_spelling {index : ConceptIndex} {mention : Mention}
    (member : mention ∈ index.mentions) :
    Tags.concept (index.spelling mention.concept) = mention.concept := by
  obtain ⟨first, -, spelled, same⟩ := exists_spelling member
  rw [← spelled]
  exact same

end ConceptIndex

open LectureDeck.Text MentionView

/-- The concept of an entry. -/
def IndexEntry.concept (entry : IndexEntry) : String := Tags.concept entry.tag

/-- A mention on slides with a question or without, of a concept. -/
def Mention.tells (onQuestion : Bool) (concept : String) (mention : Mention) : Bool :=
  mention.onQuestion == onQuestion && mention.concept == concept

theorem Mention.tells_iff {onQuestion : Bool} {concept : String} {mention : Mention} :
    mention.tells onQuestion concept = true ↔
      mention.onQuestion = onQuestion ∧ mention.concept = concept := by
  rw [tells, Bool.and_eq_true, beq_iff_eq, beq_iff_eq]

/-- A view shows mentions that were recorded on slides with a question, or on those without. -/
structure IndexView.Shows (view : IndexView) (mentions : List Mention) (onQuestion : Bool) :
    Prop where
  /-- The entries stand in the order of their concepts, and no concept has two. -/
  ascending : (view.entries.map IndexEntry.concept).Pairwise (· < ·)
  /-- The concepts are those of the mentions. -/
  concepts : ∀ concept, concept ∈ view.entries.map IndexEntry.concept ↔
    ∃ mention ∈ mentions, mention.tells onQuestion concept = true
  /-- The tag is shown as any slide wrote it first. -/
  spelling : ∀ entry ∈ view.entries, ∃ first,
    mentions.find? (fun mention => mention.concept == entry.concept) = some first ∧
      entry.tag = first.tag
  /-- The slides are listed. -/
  links : ∀ entry ∈ view.entries,
    IsListing (mentions.filter (Mention.tells onQuestion entry.concept))
      (entry.links.map IndexLink.bare)
  firstTags : (view.firstLinks.map Prod.fst).Pairwise (· < ·)
  /-- For each entry, the first links are told apart. -/
  firstKnown : ∀ tag, tag ∈ view.firstLinks.map Prod.fst ↔ tag ∈ view.entries.map IndexEntry.tag
  firstLinks : ∀ tag firsts, (tag, firsts) ∈ view.firstLinks → ∃ entry ∈ view.entries,
    entry.tag = tag ∧ AreFirst (entry.links.map IndexLink.bare) firsts
  coveredFiles : (view.covered.map Prod.fst).Pairwise (· < ·)
  /-- The files that cover something are those with a slide that is about a concept. -/
  coveredKnown : ∀ file, file ∈ view.covered.map Prod.fst ↔ ∃ mention ∈ mentions,
    mention.onQuestion = onQuestion ∧ mention.primary = true ∧ mention.file = file
  coveredTags : ∀ file tags, (file, tags) ∈ view.covered → (tags.map Prod.fst).Pairwise (· < ·)
  /-- What a file covers has the place of the first slide that is about it. -/
  covered : ∀ file tags, (file, tags) ∈ view.covered → ∀ tag place, (tag, place) ∈ tags ↔
    ∃ entry ∈ view.entries, entry.tag = tag ∧ ∃ first,
      (mentions.filter (Mention.tells onQuestion entry.concept)).find?
        (fun mention => mention.primary && mention.file == file) = some first ∧
      first.place = place

namespace IndexLink

/-- Queries do not change what links lead to. -/
theorem map_bare_withQueries (page : IndexPage) (tag id : String) (links : List IndexLink) :
    (withQueries page tag id links).map bare = links.map bare := by
  refine List.ext_getElem (by simp [withQueries]) fun position _ _ => ?_
  simp [withQueries, bare]

end IndexLink

namespace IndexView

section ByKey

variable {α : Type} {pairs : List (String × α)}

theorem mem_byKey {pair : String × α} : pair ∈ byKey pairs ↔ pair ∈ pairs := List.mem_mergeSort

theorem mem_keys_byKey {key : String} :
    key ∈ (byKey pairs).map Prod.fst ↔ key ∈ pairs.map Prod.fst := by
  simp only [List.mem_map, mem_byKey]

/-- Pairs with different keys are put in strictly ascending order. -/
theorem pairwise_byKey (distinct : (pairs.map Prod.fst).Nodup) :
    ((byKey pairs).map Prod.fst).Pairwise (· < ·) := by
  have iff (first second : String × α) :
      (!decide (second.1 < first.1)) = true ↔ first.1 ≤ second.1 := by
    rw [Bool.not_eq_true', decide_eq_false_iff_not, not_lt]
  have ascending : (byKey pairs).Pairwise fun first second => !(second.1 < first.1) := by
    refine List.pairwise_mergeSort (fun first second third => ?_) (fun first second => ?_) pairs
    · rw [iff, iff, iff]
      exact le_trans
    · rw [Bool.or_eq_true, iff, iff]
      exact le_total first.1 second.1
  have perm : (byKey pairs).Perm pairs := List.mergeSort_perm pairs _
  have apart := (perm.map Prod.fst).nodup_iff.2 distinct
  refine List.pairwise_map.2 ((ascending.and (List.pairwise_map.1 apart)).imp fun both => ?_)
  exact lt_of_le_of_ne ((iff _ _).1 both.1) both.2

end ByKey

end IndexView

/-- The links to the slides that mention a concept. -/
def MentionView.listing (view : MentionView) (concept : String) : List IndexLink :=
  (view.linked concept).flatten.map IndexLink.ofMention

/-- There is an entry for each concept, with its spelling, its anchor and its links. -/
theorem IndexEntry.map_list (view : MentionView) (page : IndexPage)
    (previous : Option (Char × List Char)) (concepts : List String) :
    (list view page previous concepts).map (fun entry =>
        (entry.tag, entry.id, entry.links.map IndexLink.bare)) =
      concepts.map fun concept =>
        (view.spelling concept, conceptAnchor page.id concept, view.listing concept) := by
  induction concepts generalizing previous with
  | nil => rfl
  | cons concept rest later =>
    rw [list, List.map_cons, later, List.map_cons, IndexLink.map_bare_withQueries, List.map_map]
    rfl

/-- An entry shows its concept as a view has it. -/
structure IndexEntry.ShowsConcept (view : MentionView) (page : IndexPage) (entry : IndexEntry) :
    Prop where
  known : entry.concept ∈ view.concepts
  tag : entry.tag = view.spelling entry.concept
  id : entry.id = conceptAnchor page.id entry.concept
  links : entry.links.map IndexLink.bare = view.listing entry.concept

namespace ConceptIndex

variable (index : ConceptIndex) (onQuestion : Bool) (page : IndexPage)

theorem ofConcept_view (concept : String) :
    (index.view onQuestion).ofConcept concept =
      index.mentions.filter (Mention.tells onQuestion concept) := by
  rw [ofConcept, view, List.filter_filter]
  exact List.filter_congr fun mention _ => Bool.and_comm _ _

theorem mem_concepts_view {concept : String} :
    concept ∈ (index.view onQuestion).concepts ↔
      ∃ mention ∈ index.mentions, mention.tells onQuestion concept = true := by
  simp only [concepts, view, mem_sortedSet, List.mem_map, List.mem_filter, Mention.tells_iff,
    beq_iff_eq, and_assoc]

/-- The links of a concept list the slides that mention it. -/
theorem isListing_listing (concept : String) :
    IsListing (index.mentions.filter (Mention.tells onQuestion concept))
      ((index.view onQuestion).listing concept) := by
  rw [listing, linked, ofConcept_view, ← List.flatMap_def]
  exact isListing_inFiles _

theorem areFirst_firstLinksOf (concept : String) :
    AreFirst ((index.view onQuestion).listing concept)
      (IndexView.firstLinksOf (index.view onQuestion) concept) := by
  rw [listing, IndexView.firstLinksOf, linked, ofConcept_view, ← List.flatMap_def]
  exact areFirst_inFiles _

variable {index onQuestion}

/-- The spelling of a concept in a view names it. -/
theorem concept_spelling_of_mem {concept : String}
    (member : concept ∈ (index.view onQuestion).concepts) :
    Tags.concept (index.spelling concept) = concept := by
  obtain ⟨mention, known, tells⟩ := (mem_concepts_view index onQuestion).1 member
  obtain ⟨-, rfl⟩ := Mention.tells_iff.1 tells
  exact concept_spelling known

/-- Concepts are told apart by their spellings. -/
theorem nodup_spellings : ((index.view onQuestion).concepts.map index.spelling).Nodup := by
  refine List.pairwise_map.2 ((pairwise_sortedSet _).imp_of_mem ?_)
  intro first second member other before same
  have concepts := congrArg Tags.concept same
  rw [concept_spelling_of_mem member, concept_spelling_of_mem other] at concepts
  exact absurd concepts (ne_of_lt before)

/-- Every entry shows a concept of the view. -/
theorem showsConcept_of_mem {entry : IndexEntry}
    (member : entry ∈ (IndexView.ofMentions (index.view onQuestion) page).entries) :
    entry.ShowsConcept (index.view onQuestion) page := by
  have made := List.mem_map_of_mem (f := fun entry : IndexEntry =>
    (entry.tag, entry.id, entry.links.map IndexLink.bare)) member
  rw [IndexView.ofMentions, IndexEntry.map_list, List.mem_map] at made
  obtain ⟨concept, known, same⟩ := made
  simp only [Prod.mk.injEq] at same
  obtain ⟨spelled, anchored, listed⟩ := same
  have names : entry.concept = concept := by
    rw [IndexEntry.concept, ← spelled]
    exact concept_spelling_of_mem known
  exact ⟨names ▸ known, names ▸ spelled.symm, names ▸ anchored.symm, names ▸ listed.symm⟩

variable (index onQuestion)

theorem map_tag_entries :
    (IndexView.ofMentions (index.view onQuestion) page).entries.map IndexEntry.tag =
      (index.view onQuestion).concepts.map index.spelling := by
  have same := congrArg (List.map Prod.fst)
    (IndexEntry.map_list (index.view onQuestion) page none (index.view onQuestion).concepts)
  rw [List.map_map, List.map_map] at same
  exact same

/-- The entries are those of the concepts, in order. -/
theorem map_concept_entries :
    (IndexView.ofMentions (index.view onQuestion) page).entries.map IndexEntry.concept =
      (index.view onQuestion).concepts := by
  have named : IndexEntry.concept = Tags.concept ∘ IndexEntry.tag := rfl
  rw [named, ← List.map_map, map_tag_entries, List.map_map]
  exact (List.map_congr_left fun concept member => concept_spelling_of_mem member).trans
    (List.map_id _)

variable {index onQuestion}

theorem exists_entry {concept : String} (member : concept ∈ (index.view onQuestion).concepts) :
    ∃ entry ∈ (IndexView.ofMentions (index.view onQuestion) page).entries,
      entry.concept = concept ∧ entry.tag = index.spelling concept := by
  rw [← map_concept_entries index onQuestion page] at member
  obtain ⟨entry, known, rfl⟩ := List.mem_map.1 member
  exact ⟨entry, known, rfl, (showsConcept_of_mem page known).tag⟩

/-- The tags that slides of a file are about, each with the first such slide. -/
theorem mem_coveredIn {file tag : String} {place : SlidePlace} :
    (tag, place) ∈ IndexView.coveredIn (index.view onQuestion) file ↔
      ∃ entry ∈ (IndexView.ofMentions (index.view onQuestion) page).entries, entry.tag = tag ∧
        ∃ first, (index.mentions.filter (Mention.tells onQuestion entry.concept)).find?
          (fun mention => mention.primary && mention.file == file) = some first ∧
        first.place = place := by
  rw [IndexView.coveredIn, IndexView.mem_byKey, List.mem_filterMap]
  simp only [Option.map_eq_some_iff, Prod.mk.injEq, ofConcept_view]
  constructor
  · rintro ⟨concept, known, first, found, rfl, rfl⟩
    obtain ⟨entry, member, rfl, spelled⟩ := exists_entry page known
    exact ⟨entry, member, spelled, first, found, rfl⟩
  · rintro ⟨entry, member, rfl, first, found, rfl⟩
    have shows := showsConcept_of_mem page member
    exact ⟨entry.concept, shows.known, first, found, shows.tag.symm, rfl⟩

theorem pairwise_coveredIn (file : String) :
    ((IndexView.coveredIn (index.view onQuestion) file).map Prod.fst).Pairwise (· < ·) := by
  have distinct : ((index.view onQuestion).concepts.map index.spelling).Nodup := nodup_spellings
  refine IndexView.pairwise_byKey (List.pairwise_map.2 (List.pairwise_filterMap.2 ?_))
  refine (List.pairwise_map.1 distinct).imp ?_
  intro first second apart pair made other alsoMade
  obtain ⟨mention, -, rfl⟩ := Option.map_eq_some_iff.1 made
  obtain ⟨mention, -, rfl⟩ := Option.map_eq_some_iff.1 alsoMade
  exact apart

variable (index onQuestion)

/-- **A view shows what the index has.** -/
theorem shows_ofMentions :
    (IndexView.ofMentions (index.view onQuestion) page).Shows index.mentions onQuestion where
  ascending := by
    rw [map_concept_entries]
    exact pairwise_sortedSet _
  concepts concept := by
    rw [map_concept_entries]
    exact mem_concepts_view index onQuestion
  spelling := by
    intro entry member
    have shows := showsConcept_of_mem page member
    obtain ⟨mention, inside, tells⟩ := (mem_concepts_view index onQuestion).1 shows.known
    obtain ⟨-, same⟩ := Mention.tells_iff.1 tells
    obtain ⟨first, found, spelled, -⟩ := exists_spelling inside
    rw [same] at found spelled
    exact ⟨first, found, shows.tag.trans spelled.symm⟩
  links := by
    intro entry member
    rw [(showsConcept_of_mem page member).links]
    exact isListing_listing index onQuestion entry.concept
  firstTags := by
    refine IndexView.pairwise_byKey ?_
    rw [List.map_map]
    exact nodup_spellings
  firstKnown tag := by
    rw [map_tag_entries, IndexView.ofMentions, IndexView.mem_keys_byKey, List.map_map]
    rfl
  firstLinks := by
    intro tag firsts member
    obtain ⟨concept, known, same⟩ := List.mem_map.1 (IndexView.mem_byKey.1 member)
    obtain ⟨rfl, rfl⟩ := Prod.mk.inj same
    obtain ⟨entry, inside, rfl, spelled⟩ := exists_entry page known
    refine ⟨entry, inside, spelled, ?_⟩
    rw [(showsConcept_of_mem page inside).links]
    exact areFirst_firstLinksOf index onQuestion entry.concept
  coveredFiles := by
    rw [IndexView.ofMentions, List.map_map]
    exact (List.map_id _).symm ▸ pairwise_sortedSet _
  coveredKnown file := by
    have known : (IndexView.ofMentions (index.view onQuestion) page).covered.map Prod.fst =
        files ((index.view onQuestion).mentions.filter Mention.primary) := by
      rw [IndexView.ofMentions, List.map_map]
      exact List.map_id _
    rw [known, files, mem_sortedSet, view, List.filter_filter]
    simp only [List.mem_map, List.mem_filter, Bool.and_eq_true, beq_iff_eq]
    constructor
    · rintro ⟨mention, ⟨member, primary, kind⟩, place⟩
      exact ⟨mention, member, kind, primary, place⟩
    · rintro ⟨mention, member, kind, primary, place⟩
      exact ⟨mention, ⟨member, primary, kind⟩, place⟩
  coveredTags := by
    intro file tags member
    obtain ⟨known, -, same⟩ := List.mem_map.1 member
    obtain ⟨rfl, rfl⟩ := Prod.mk.inj same
    exact pairwise_coveredIn _
  covered := by
    intro file tags member tag place
    obtain ⟨known, -, same⟩ := List.mem_map.1 member
    obtain ⟨rfl, rfl⟩ := Prod.mk.inj same
    exact mem_coveredIn page

/-- **Whatever is recorded, and in whatever steps, the view of concepts shows all mentions on slides
without a question, and the view of questions those on slides with one.** -/
theorem views_show_mentions (steps : List IndexStep) (page : IndexPage) :
    ((ofSteps steps).conceptView page).Shows (steps.flatMap IndexStep.mentions) false ∧
      ((ofSteps steps).questionView page).Shows (steps.flatMap IndexStep.mentions) true := by
  rw [← mentions_ofSteps]
  exact ⟨shows_ofMentions _ false page, shows_ofMentions _ true page⟩

/-- A single tag, and then a file that has a slide with both kinds of tags and a question. -/
def lesson : List IndexStep :=
  [.tag ⟨"loops", "notes", ⟨"slidoc01-01", "Repeating"⟩, false, false⟩,
    .merge [⟨"unit", 1, "slidoc02-01", "Sorting", ⟨["Sorting"], ["Loops"]⟩, none⟩,
      ⟨"unit", 2, "slidoc02-02", "", ⟨["LOOPS"], ["Arrays"]⟩, some 1⟩]]

/-- Merged slides are in the views: those without a question in one, with their tags of both kinds,
and those with a question in the other. All spell a concept as the single tag did. -/
theorem views_show_mentions_lesson :
    ((ofSteps lesson).conceptView (.concepts {})).Shows
        [⟨"loops", "notes", ⟨"slidoc01-01", "Repeating"⟩, false, false⟩,
          ⟨"Sorting", "unit", ⟨"slidoc02-01", "Sorting"⟩, true, false⟩,
          ⟨"Loops", "unit", ⟨"slidoc02-01", "Sorting"⟩, false, false⟩,
          ⟨"LOOPS", "unit", ⟨"slidoc02-02", ""⟩, true, true⟩,
          ⟨"Arrays", "unit", ⟨"slidoc02-02", ""⟩, false, true⟩] false ∧
      ((ofSteps lesson).conceptView (.concepts {})).entries.map (fun entry =>
          (entry.tag, entry.links.map fun link => (link.file, link.place.slideId, link.primary))) =
        [("loops", [("notes", "slidoc01-01", false), ("unit", "slidoc02-01", false)]),
          ("Sorting", [("unit", "slidoc02-01", true)])] ∧
      ((ofSteps lesson).questionView (.questions {})).entries.map (fun entry =>
          (entry.tag, entry.links.map fun link => (link.file, link.place.slideId, link.primary))) =
        [("Arrays", [("unit", "slidoc02-02", false)]),
          ("loops", [("unit", "slidoc02-02", true)])] :=
  ⟨(views_show_mentions lesson (.concepts {})).1, by decide +kernel, by decide +kernel⟩

end ConceptIndex

end LectureDeck
