import LectureDeck.Proofs.Concept.Entries
import Mathlib.Data.List.Sort

/-!
# Merging files in any order

The views of an index go by files: of the mentions that are recorded, only the order of those in
one file matters (`LectureDeck.IndexView.ofMentions_congr`), and how concepts are spelled. So files
may be merged in any order, if every concept is spelled in one way
(`LectureDeck.ConceptIndex.views_ofFiles_of_perm`).
-/

namespace LectureDeck

open LectureDeck.Text MentionView

/-- What an index is told of a file: its slides that have tags. -/
structure FileConcepts where
  name : String
  occurrences : List Occurrence
  own : ∀ occurrence ∈ occurrences, occurrence.file = name

/-- The mentions of a file. -/
def FileConcepts.mentions (file : FileConcepts) : List Mention :=
  file.occurrences.flatMap Occurrence.mentions

/-- The index of files that are merged one after another. -/
def ConceptIndex.ofFiles (files : List FileConcepts) : ConceptIndex :=
  files.foldl (fun index file => index.merge file.occurrences) {}

/-- The tags that files use. -/
def FileConcepts.tags (files : List FileConcepts) : List String :=
  files.flatMap fun file => file.occurrences.flatMap fun occurrence => occurrence.tags.all

/-- Every concept is spelled in one way. -/
def AreSpelledAlike (tags : List String) : Prop :=
  ∀ first ∈ tags, ∀ second ∈ tags, Tags.concept first = Tags.concept second → first = second

/-- Two records have the same mentions in every file, in the same order. -/
def AgreeByFile (told others : List Mention) : Prop :=
  ∀ file, told.filter (fun mention => mention.file == file) =
    others.filter fun mention => mention.file == file

namespace AgreeByFile

variable {told others : List Mention}

/-- Mentions that agree file by file still do so when some are left out by what they say. -/
theorem filter (agree : AgreeByFile told others) (kept : Mention → Bool) :
    AgreeByFile (told.filter kept) (others.filter kept) := by
  intro file
  rw [List.filter_filter, List.filter_filter]
  simp only [Bool.and_comm _ (kept _)]
  rw [← List.filter_filter, agree file, List.filter_filter]

/-- They are the same mentions, though in another order. -/
theorem mem_iff (agree : AgreeByFile told others) {mention : Mention} :
    mention ∈ told ↔ mention ∈ others := by
  have inFile (among : List Mention) : mention ∈ among ↔
      mention ∈ among.filter fun other => other.file == mention.file := by
    rw [List.mem_filter, and_iff_left (beq_self_eq_true _)]
  rw [inFile told, agree, ← inFile others]

/-- The texts of a kind that occur in mentions are the same. -/
theorem sortedSet_map (agree : AgreeByFile told others) (text : Mention → String) :
    sortedSet (told.map text) = sortedSet (others.map text) := by
  refine (pairwise_sortedSet _).eq_of_mem_iff (pairwise_sortedSet _) fun entry => ?_
  simp only [mem_sortedSet, List.mem_map, agree.mem_iff]

/-- What is told of one file is the same in both. -/
theorem inFile (agree : AgreeByFile told others) (file : String) :
    inFile told file = inFile others file := by
  rw [MentionView.inFile, MentionView.inFile, agree file]

/-- The first mention in a file of which something holds is the same in both. -/
theorem find? (agree : AgreeByFile told others) (seen : Mention → Bool) (file : String) :
    told.find? (fun mention => seen mention && mention.file == file) =
      others.find? fun mention => seen mention && mention.file == file := by
  have inFile (among : List Mention) :
      among.find? (fun mention => seen mention && mention.file == file) =
        (among.filter fun mention => mention.file == file).find? seen := by
    rw [List.find?_filter]
    congr 1
    funext mention
    rw [Bool.decide_and, Bool.decide_eq_true, Bool.decide_eq_true, Bool.and_comm]
  rw [inFile, inFile, agree file]

end AgreeByFile

/-- Two views have the same mentions by file, and spell concepts alike. -/
structure MentionView.Agrees (view other : MentionView) : Prop where
  mentions : AgreeByFile view.mentions other.mentions
  spelling : view.spelling = other.spelling

namespace MentionView.Agrees

variable {view other : MentionView}

/-- Views that agree have the same concepts. -/
theorem concepts (agrees : view.Agrees other) : view.concepts = other.concepts :=
  agrees.mentions.sortedSet_map Mention.concept

/-- They link a concept to the same places. -/
theorem linked (agrees : view.Agrees other) (concept : String) :
    view.linked concept = other.linked concept := by
  have same := agrees.mentions.filter fun mention => mention.concept == concept
  rw [MentionView.linked, MentionView.linked, files, ofConcept, same.sortedSet_map]
  exact List.map_congr_left fun file _ => same.inFile file

/-- They have the same concepts covered in a file. -/
theorem coveredIn (agrees : view.Agrees other) (file : String) :
    IndexView.coveredIn view file = IndexView.coveredIn other file := by
  have first (concept : String) :=
    (agrees.mentions.filter fun mention => mention.concept == concept).find? Mention.primary file
  simp only [IndexView.coveredIn, agrees.concepts, agrees.spelling, ofConcept, first]

/-- They have the same entries, with the same letters and links. -/
theorem list (agrees : view.Agrees other) (page : IndexPage)
    (previous : Option (Char × List Char)) (concepts : List String) :
    IndexEntry.list view page previous concepts = IndexEntry.list other page previous concepts := by
  induction concepts generalizing previous with
  | nil => rfl
  | cons concept rest later =>
    rw [IndexEntry.list, IndexEntry.list, agrees.spelling, agrees.linked, later]

end MentionView.Agrees

/-- **A view goes by files.** Views with the same mentions in every file show the same. -/
theorem IndexView.ofMentions_congr {view other : MentionView} (agrees : view.Agrees other)
    (page : IndexPage) : ofMentions view page = ofMentions other page := by
  have firstLinks (concept : String) : firstLinksOf view concept = firstLinksOf other concept := by
    rw [firstLinksOf, firstLinksOf, agrees.linked]
  have primary := (agrees.mentions.filter Mention.primary).sortedSet_map Mention.file
  unfold ofMentions
  simp only [agrees.concepts, agrees.list page, agrees.spelling, agrees.coveredIn, firstLinks,
    files, primary]

namespace FileConcepts

/-- What is recorded for a file mentions places in that file. -/
theorem file_of_mem_mentions {file : FileConcepts} {mention : Mention}
    (member : mention ∈ file.mentions) : mention.file = file.name := by
  obtain ⟨occurrence, known, member⟩ := List.mem_flatMap.1 member
  obtain ⟨tag, -, rfl⟩ := List.mem_map.1 member
  exact file.own occurrence known

/-- All mentions of a file are in the file. -/
theorem filter_mentions (file : FileConcepts) (name : String) :
    file.mentions.filter (fun mention => mention.file == name) =
      if file.name = name then file.mentions else [] := by
  split
  · rename_i same
    exact List.filter_eq_self.2 fun mention member =>
      beq_iff_eq.2 ((file_of_mem_mentions member).trans same)
  · rename_i other
    refine List.filter_eq_nil_iff.2 fun mention member same => other ?_
    exact (file_of_mem_mentions member).symm.trans (beq_iff_eq.1 same)

/-- Files with different names may change places. -/
theorem agreeByFile_of_perm {files others : List FileConcepts} (perm : files.Perm others)
    (distinct : (files.map name).Nodup) :
    AgreeByFile (files.flatMap mentions) (others.flatMap mentions) := by
  induction perm with
  | nil => exact fun _ => rfl
  | cons file perm later =>
    intro place
    rw [List.flatMap_cons, List.flatMap_cons, List.filter_append, List.filter_append,
      later (List.nodup_cons.1 distinct).2 place]
  | swap first second rest =>
    intro place
    have apart : second.name ≠ first.name := by
      have absent := (List.nodup_cons.1 distinct).1
      exact fun same => absent (same ▸ List.mem_cons_self)
    simp only [List.flatMap_cons, List.filter_append, filter_mentions, ← List.append_assoc]
    refine congrArg (· ++ _) ?_
    -- At most one of the two files is the one in question.
    split
    · rename_i here
      rw [if_neg fun same => apart (here.trans same.symm), List.append_nil, List.nil_append]
    · rw [List.append_nil, List.nil_append]
  | trans perm _ first second =>
    intro place
    exact (first distinct place).trans (second ((perm.map name).nodup_iff.1 distinct) place)

end FileConcepts

namespace ConceptIndex

/-- The mentions of an index are those of its files, one file after another. -/
theorem mentions_ofFiles (files : List FileConcepts) :
    (ofFiles files).mentions = files.flatMap FileConcepts.mentions := by
  have steps : ofFiles files = ofSteps (files.map fun file => .merge file.occurrences) := by
    rw [ofSteps, List.foldl_map]
    rfl
  rw [steps, mentions_ofSteps, List.flatMap_map]
  exact List.flatMap_congr fun file _ =>
    List.flatMap_congr fun slide _ => slide.mentions_eq.symm

/-- The tag of a mention is one of those that files use. -/
theorem tag_mem_of_mem_mentions {files : List FileConcepts} {mention : Mention}
    (member : mention ∈ (ofFiles files).mentions) : mention.tag ∈ FileConcepts.tags files := by
  rw [mentions_ofFiles] at member
  obtain ⟨file, known, member⟩ := List.mem_flatMap.1 member
  obtain ⟨occurrence, inside, member⟩ := List.mem_flatMap.1 member
  obtain ⟨⟨tag, primary⟩, ranked, rfl⟩ := List.mem_map.1 member
  refine List.mem_flatMap.2 ⟨file, known, List.mem_flatMap.2 ⟨occurrence, inside, ?_⟩⟩
  rw [← Tags.map_fst_ranked]
  exact List.mem_map_of_mem ranked

/-- A concept that is spelled in one way has the spelling of any mention. -/
theorem spelling_eq_of_mem {files : List FileConcepts}
    (alike : AreSpelledAlike (FileConcepts.tags files)) {mention : Mention}
    (member : mention ∈ (ofFiles files).mentions) :
    (ofFiles files).spelling mention.concept = mention.tag := by
  obtain ⟨first, found, spelled, same⟩ := exists_spelling member
  rw [← spelled]
  exact alike _ (tag_mem_of_mem_mentions (List.mem_of_find?_eq_some found)) _
    (tag_mem_of_mem_mentions member) same

/-- A concept that is not mentioned is spelled as it is. -/
theorem spelling_of_forall_ne {index : ConceptIndex} {concept : String}
    (unknown : ∀ mention ∈ index.mentions, mention.concept ≠ concept) :
    index.spelling concept = concept := by
  have none : index.mentions.find? (fun mention => mention.concept == concept) = none :=
    List.find?_eq_none.2 fun mention member same => unknown mention member (beq_iff_eq.1 same)
  rw [spelling, none]
  rfl

/-- Concepts that are spelled in one way have the same spelling whatever file is merged first. -/
theorem spelling_ofFiles_of_perm {files others : List FileConcepts} (perm : files.Perm others)
    (alike : AreSpelledAlike (FileConcepts.tags files)) :
    (ofFiles files).spelling = (ofFiles others).spelling := by
  have tags : AreSpelledAlike (FileConcepts.tags others) := by
    intro first member second other
    exact alike first ((perm.flatMap_right _).mem_iff.2 member) second
      ((perm.flatMap_right _).mem_iff.2 other)
  have mem_iff (mention : Mention) :
      mention ∈ (ofFiles files).mentions ↔ mention ∈ (ofFiles others).mentions := by
    rw [mentions_ofFiles, mentions_ofFiles]
    exact (perm.flatMap_right _).mem_iff
  funext concept
  by_cases known : ∃ mention ∈ (ofFiles files).mentions, mention.concept = concept
  · obtain ⟨mention, member, rfl⟩ := known
    rw [spelling_eq_of_mem alike member, spelling_eq_of_mem tags ((mem_iff mention).1 member)]
  · have unknown : ∀ mention ∈ (ofFiles files).mentions, mention.concept ≠ concept :=
      fun mention member same => known ⟨mention, member, same⟩
    rw [spelling_of_forall_ne unknown, spelling_of_forall_ne fun mention member =>
      unknown mention ((mem_iff mention).2 member)]

/-- **Files may be merged in any order.** If their names are distinct and every concept is spelled
in one way, both views are the same. -/
theorem views_ofFiles_of_perm {files others : List FileConcepts} (perm : files.Perm others)
    (distinct : (files.map FileConcepts.name).Nodup)
    (alike : AreSpelledAlike (FileConcepts.tags files)) (page : IndexPage) :
    (ofFiles files).conceptView page = (ofFiles others).conceptView page ∧
      (ofFiles files).questionView page = (ofFiles others).questionView page := by
  have mentions : AgreeByFile (ofFiles files).mentions (ofFiles others).mentions := by
    rw [mentions_ofFiles, mentions_ofFiles]
    exact FileConcepts.agreeByFile_of_perm perm distinct
  have agrees (onQuestion : Bool) :
      ((ofFiles files).view onQuestion).Agrees ((ofFiles others).view onQuestion) :=
    ⟨mentions.filter _, spelling_ofFiles_of_perm perm alike⟩
  exact ⟨IndexView.ofMentions_congr (agrees false) page,
    IndexView.ofMentions_congr (agrees true) page⟩

/-- Two files that share a concept, each with a question. -/
def lecture : FileConcepts where
  name := "lecture"
  occurrences := [⟨"lecture", 1, "slidoc01-01", "Loops", ⟨["Loops"], ["Arrays"]⟩, none⟩,
    ⟨"lecture", 2, "slidoc01-02", "", ⟨["Loops"], []⟩, some 1⟩]
  own := by simp

def recap : FileConcepts where
  name := "recap"
  occurrences := [⟨"recap", 1, "slidoc02-01", "Again", ⟨["Arrays", "Loops"], []⟩, none⟩,
    ⟨"recap", 2, "slidoc02-02", "", ⟨["Arrays"], []⟩, some 1⟩]
  own := by simp

/-- Two files may be merged either way. Their questions are recorded in another order, and the views
are the same. -/
theorem views_ofFiles_of_perm_twoFiles :
    ([lecture, recap].map FileConcepts.name).Nodup ∧
      AreSpelledAlike (FileConcepts.tags [lecture, recap]) ∧
      (ofFiles [lecture, recap]).questions ≠ (ofFiles [recap, lecture]).questions ∧
      (ofFiles [lecture, recap]).conceptView (.concepts {}) =
        (ofFiles [recap, lecture]).conceptView (.concepts {}) ∧
      (ofFiles [lecture, recap]).questionView (.questions {}) =
        (ofFiles [recap, lecture]).questionView (.questions {}) := by
  have distinct : ([lecture, recap].map FileConcepts.name).Nodup := by decide
  have alike : AreSpelledAlike (FileConcepts.tags [lecture, recap]) := by
    unfold AreSpelledAlike
    decide +kernel
  have perm : [lecture, recap].Perm [recap, lecture] := List.Perm.swap recap lecture []
  exact ⟨distinct, alike, by decide +kernel,
    (views_ofFiles_of_perm perm distinct alike (.concepts {})).1,
    (views_ofFiles_of_perm perm distinct alike (.questions {})).2⟩

end ConceptIndex

end LectureDeck
