import LectureDeck.Concept.View
import LectureDeck.Proofs.Concept.Keys
import Mathlib.Data.List.Nodup

/-!
# Listing of mentions

The links of an index entry list the slides that mention a concept. Files are in ascending order,
and in a file the slides about the concept come before those that only mention it. Within each of
these groups the order is that of recording. Every slide has one link
(`LectureDeck.isListing_linked`).
-/

namespace LectureDeck

open LectureDeck.Text

/-- The slide of a mention, among those of all files. -/
def Mention.slide (mention : Mention) : String × String := (mention.file, mention.place.slideId)

namespace IndexLink

/-- The slide that a link leads to, among those of all files. -/
def slide (link : IndexLink) : String × String := (link.file, link.place.slideId)

/-- A link without its query. -/
def bare (link : IndexLink) : IndexLink := { link with query := none }

/-- The mention is one of those that a link is for. -/
def isFor (link : IndexLink) (mention : Mention) : Bool :=
  mention.slide == link.slide && mention.primary == link.primary

theorem isFor_iff {link : IndexLink} {mention : Mention} :
    link.isFor mention = true ↔ mention.slide = link.slide ∧ mention.primary = link.primary := by
  rw [isFor, Bool.and_eq_true, beq_iff_eq, beq_iff_eq]

end IndexLink

/-- At some time, a mention of the first kind had been recorded, and none of the second. -/
def IsRecordedBefore (told : List Mention) (first second : Mention → Bool) : Prop :=
  ∃ past, past <+: told ∧ past.any first = true ∧ past.any second = false

/-- The order of links: by file, then by rank, then by time. -/
def IndexLink.IsBefore (told : List Mention) (first second : IndexLink) : Prop :=
  first.file < second.file ∨ first.file = second.file ∧
    (first.primary = true ∧ second.primary = false ∨
      first.primary = second.primary ∧ IsRecordedBefore told first.isFor second.isFor)

/-- Links list the slides of some mentions. -/
structure IsListing (told : List Mention) (links : List IndexLink) : Prop where
  /-- A slide has one link at most. -/
  distinct : (links.map IndexLink.slide).Nodup
  /-- The slides are those of the mentions. -/
  slides : ∀ slide, slide ∈ links.map IndexLink.slide ↔ slide ∈ told.map Mention.slide
  /-- A slide is about the concept if one of its mentions says so. -/
  primary : ∀ link ∈ links, link.primary = true ↔
    ∃ mention ∈ told, mention.slide = link.slide ∧ mention.primary = true
  /-- The slide is shown as the first mention that the link is for has it. -/
  place : ∀ link ∈ links, ∃ first, told.find? link.isFor = some first ∧ first.place = link.place
  order : links.Pairwise (IndexLink.IsBefore told)

/-- Links are the first ones to each file. -/
structure AreFirst (links firsts : List IndexLink) : Prop where
  files : (firsts.map IndexLink.file).Pairwise (· < ·)
  first : ∀ link, link ∈ firsts ↔ links.find? (fun other => other.file == link.file) = some link

namespace IsRecordedBefore

variable {told : List Mention} {first second : Mention → Bool}

/-- Mentions that are left out are of neither kind. -/
theorem of_filter {kept : Mention → Bool}
    (before : IsRecordedBefore (told.filter kept) first second) :
    IsRecordedBefore told (fun mention => kept mention && first mention)
      (fun mention => kept mention && second mention) := by
  obtain ⟨past, filtered, some, none⟩ := before
  obtain ⟨longer, start, rfl⟩ := List.prefix_filter_iff.1 filtered
  rw [List.any_filter] at some none
  exact ⟨longer, start, some, none⟩

theorem cons {mention : Mention} (before : IsRecordedBefore told first second)
    (other : second mention = false) : IsRecordedBefore (mention :: told) first second := by
  obtain ⟨past, start, some, none⟩ := before
  refine ⟨mention :: past, List.cons_prefix_cons.2 ⟨rfl, start⟩, ?_, ?_⟩
  · rw [List.any_cons, some, Bool.or_true]
  · rw [List.any_cons, none, other, Bool.or_self]

/-- Of two kinds, only one is recorded before the other. -/
theorem asymm (before : IsRecordedBefore told first second) :
    ¬ IsRecordedBefore told second first := by
  obtain ⟨past, start, some, none⟩ := before
  rintro ⟨other, otherStart, otherSome, otherNone⟩
  have within {shorter longer : List Mention} {kind : Mention → Bool} (start : shorter <+: longer)
      (some : shorter.any kind = true) (none : longer.any kind = false) : False := by
    obtain ⟨mention, member, is⟩ := List.any_eq_true.1 some
    exact List.any_eq_false.1 none mention (start.subset member) is
  rcases List.prefix_or_prefix_of_prefix start otherStart with shorter | shorter
  · exact within shorter some otherNone
  · exact within shorter otherSome none

end IsRecordedBefore

namespace MentionView

/-- The mention is on a slide, of those of one file. -/
def isOn (slideId : String) (mention : Mention) : Bool := mention.place.slideId == slideId

theorem isOn_eq_false {slideId : String} {mention : Mention} :
    isOn slideId mention = false ↔ mention.place.slideId ≠ slideId := beq_eq_false_iff_ne

/-- A mention is kept if it is the first on its slide. -/
theorem mem_firstOnSlides {mention : Mention} {told : List Mention} :
    mention ∈ firstOnSlides told ↔ told.find? (isOn mention.place.slideId) = some mention := by
  induction told with
  | nil => simp [firstOnSlides]
  | cons first rest later =>
    rw [firstOnSlides, List.mem_cons, List.mem_filter, later, List.find?_cons]
    by_cases same : first.place.slideId = mention.place.slideId
    · have on : isOn mention.place.slideId first = true := beq_iff_eq.2 same
      simp [on, same, eq_comm]
    · have off : isOn mention.place.slideId first = false := beq_eq_false_iff_ne.2 same
      have apart : mention ≠ first := fun equal => same (equal ▸ rfl)
      simp [off, apart, Ne.symm same]

/-- Kept mentions have the order in which their slides are first mentioned. -/
theorem pairwise_firstOnSlides (told : List Mention) :
    (firstOnSlides told).Pairwise fun first second =>
      IsRecordedBefore told (isOn first.place.slideId) (isOn second.place.slideId) := by
  induction told with
  | nil => exact List.Pairwise.nil
  | cons mention rest later =>
    rw [firstOnSlides, List.pairwise_cons]
    constructor
    · intro other member
      have off := isOn_eq_false.2 (bne_iff_ne.1 (List.mem_filter.1 member).2).symm
      exact ⟨[mention], List.cons_prefix_cons.2 ⟨rfl, List.nil_prefix⟩, by simp [isOn],
        by simp [off]⟩
    · refine (later.sublist List.filter_sublist).imp_of_mem fun {first second} _ member before => ?_
      exact before.cons (isOn_eq_false.2 (bne_iff_ne.1 (List.mem_filter.1 member).2).symm)

/-- Slides that are mentioned already are left out of what comes after. -/
theorem firstOnSlides_append (told more : List Mention) :
    firstOnSlides (told ++ more) = firstOnSlides told ++
      (firstOnSlides more).filter fun mention => !told.any (isOn mention.place.slideId) := by
  induction told with
  | nil => simp [firstOnSlides]
  | cons first rest later =>
    rw [List.cons_append, firstOnSlides, later, List.filter_append, List.filter_filter,
      firstOnSlides, List.cons_append]
    congr 2
    refine List.filter_congr fun mention _ => ?_
    rw [List.any_cons, Bool.not_or]
    congr 1
    simp [isOn, eq_comm, bne]

/-- The mentions of one rank in a file. -/
def ranked (told : List Mention) (file : String) (rank : Bool) : List Mention :=
  told.filter fun mention => mention.file == file && mention.primary == rank

theorem mem_ranked {told : List Mention} {file : String} {rank : Bool} {mention : Mention} :
    mention ∈ ranked told file rank ↔
      mention ∈ told ∧ mention.file = file ∧ mention.primary = rank := by
  rw [ranked, List.mem_filter, Bool.and_eq_true, beq_iff_eq, beq_iff_eq]

theorem isFor_ofMention (mention : Mention) :
    (IndexLink.ofMention mention).isFor = fun other =>
      (other.file == mention.file && other.primary == mention.primary) &&
        isOn mention.place.slideId other := by
  funext other
  exact Bool.and_right_comm (other.file == mention.file) (isOn mention.place.slideId other)
    (other.primary == mention.primary)

/-- Among the mentions of its rank, a mention is looked up by its slide. -/
theorem find?_ranked (told : List Mention) (mention : Mention) :
    (ranked told mention.file mention.primary).find? (isOn mention.place.slideId) =
      told.find? (IndexLink.ofMention mention).isFor := by
  rw [ranked, List.find?_filter, isFor_ofMention]
  congr 1
  funext other
  rw [Bool.decide_and, Bool.decide_coe, Bool.decide_coe]

/-- The mentions of a slide that are about its concept come first. -/
theorem inFile_eq (told : List Mention) (file : String) :
    inFile told file = firstOnSlides (ranked told file true) ++
      (firstOnSlides (ranked told file false)).filter fun mention =>
        !(ranked told file true).any (isOn mention.place.slideId) := by
  rw [← firstOnSlides_append, inFile, List.filter_filter, List.filter_filter]
  congr 2
  · exact List.filter_congr fun mention _ => by simp [Bool.and_comm]
  · exact List.filter_congr fun mention _ => by simp [Bool.and_comm]

/-- What is kept of the mentions in a file: those that are the first of their slide and rank, and
that do not only repeat what the slide is about. -/
theorem mem_inFile {mention : Mention} {told : List Mention} {file : String} :
    mention ∈ inFile told file ↔ mention.file = file ∧
      told.find? (IndexLink.ofMention mention).isFor = some mention ∧
      (mention.primary = false →
        ∀ other ∈ told, other.slide = mention.slide → other.primary = false) := by
  rw [inFile_eq, List.mem_append, List.mem_filter, mem_firstOnSlides, mem_firstOnSlides]
  constructor
  · rintro (found | ⟨found, alone⟩)
    · obtain ⟨-, rfl, rank⟩ := mem_ranked.1 (List.mem_of_find?_eq_some found)
      rw [← rank, find?_ranked] at found
      exact ⟨rfl, found, fun other => absurd other (by simp [rank])⟩
    · obtain ⟨-, rfl, rank⟩ := mem_ranked.1 (List.mem_of_find?_eq_some found)
      rw [← rank, find?_ranked] at found
      refine ⟨rfl, found, fun _ other member same => ?_⟩
      rw [Bool.not_eq_true', List.any_eq_false] at alone
      obtain ⟨file, slideId⟩ := Prod.ext_iff.1 same
      by_contra primary
      exact alone other (mem_ranked.2 ⟨member, file, Bool.not_eq_false _ ▸ primary⟩)
        (beq_iff_eq.2 slideId)
  · rintro ⟨rfl, found, alone⟩
    rw [← find?_ranked] at found
    cases rank : mention.primary with
    | true => exact .inl (rank ▸ found)
    | false =>
      refine .inr ⟨rank ▸ found, ?_⟩
      rw [Bool.not_eq_true', List.any_eq_false]
      intro other member on
      obtain ⟨member, file, primary⟩ := mem_ranked.1 member
      have same : other.slide = mention.slide := Prod.ext file (beq_iff_eq.1 on)
      exact Bool.false_ne_true ((alone rank other member same).symm.trans primary)

/-- The mentions of one rank that are kept are in the order of links. -/
theorem pairwise_ranked (told : List Mention) (file : String) (rank : Bool) :
    (firstOnSlides (ranked told file rank)).Pairwise fun first second =>
      (IndexLink.ofMention first).IsBefore told (IndexLink.ofMention second) := by
  refine (pairwise_firstOnSlides _).imp_of_mem fun {first second} member other before => ?_
  have place {mention : Mention} (kept : mention ∈ firstOnSlides (ranked told file rank)) :
      mention.file = file ∧ mention.primary = rank :=
    (mem_ranked.1 (List.mem_of_find?_eq_some (mem_firstOnSlides.1 kept))).2
  obtain ⟨rfl, rfl⟩ := place member
  obtain ⟨sameFile, sameRank⟩ := place other
  refine .inr ⟨sameFile.symm, .inr ⟨sameRank.symm, ?_⟩⟩
  rw [isFor_ofMention, isFor_ofMention, sameFile, sameRank]
  exact before.of_filter

/-- The mentions that are kept in a file are in the order of links. -/
theorem pairwise_inFile (told : List Mention) (file : String) :
    (inFile told file).Pairwise fun first second =>
      (IndexLink.ofMention first).IsBefore told (IndexLink.ofMention second) := by
  rw [inFile_eq, List.pairwise_append]
  refine ⟨pairwise_ranked told file true,
    (pairwise_ranked told file false).sublist List.filter_sublist, ?_⟩
  intro first member second other
  rw [mem_firstOnSlides] at member
  rw [List.mem_filter, mem_firstOnSlides] at other
  obtain ⟨-, here, primary⟩ := mem_ranked.1 (List.mem_of_find?_eq_some member)
  obtain ⟨-, alsoHere, secondary⟩ := mem_ranked.1 (List.mem_of_find?_eq_some other.1)
  exact .inr ⟨here.trans alsoHere.symm, .inl ⟨primary, secondary⟩⟩

/-- What is kept of the mentions in all files. -/
theorem mem_inFiles {mention : Mention} {told : List Mention} :
    mention ∈ (files told).flatMap (inFile told) ↔
      told.find? (IndexLink.ofMention mention).isFor = some mention ∧
      (mention.primary = false →
        ∀ other ∈ told, other.slide = mention.slide → other.primary = false) := by
  simp only [List.mem_flatMap, mem_inFile, files, mem_sortedSet, List.mem_map]
  constructor
  · rintro ⟨file, -, rfl, kept⟩
    exact kept
  · intro kept
    exact ⟨mention.file, ⟨mention, List.mem_of_find?_eq_some kept.1, rfl⟩, rfl, kept⟩

/-- A mention that is kept is primary if any of its slide is. -/
theorem primary_iff_of_mem_inFiles {mention : Mention} {told : List Mention}
    (kept : mention ∈ (files told).flatMap (inFile told)) :
    mention.primary = true ↔
      ∃ other ∈ told, other.slide = mention.slide ∧ other.primary = true := by
  obtain ⟨found, alone⟩ := mem_inFiles.1 kept
  constructor
  · exact fun primary => ⟨mention, List.mem_of_find?_eq_some found, rfl, primary⟩
  · rintro ⟨other, member, same, primary⟩
    by_contra secondary
    have repeated := alone (Bool.eq_false_iff.2 secondary) other member same
    exact Bool.false_ne_true (repeated.symm.trans primary)

/-- Of every slide, a mention is kept. -/
theorem exists_mem_inFiles {mention : Mention} {told : List Mention} (member : mention ∈ told) :
    ∃ kept ∈ (files told).flatMap (inFile told), kept.slide = mention.slide := by
  -- A primary mention of the slide is kept if there is one.
  obtain ⟨best, known, same, alone⟩ : ∃ best ∈ told, best.slide = mention.slide ∧
      (best.primary = false →
        ∀ other ∈ told, other.slide = mention.slide → other.primary = false) := by
    by_cases about : ∃ best ∈ told, best.slide = mention.slide ∧ best.primary = true
    · obtain ⟨best, known, same, primary⟩ := about
      exact ⟨best, known, same, fun secondary => absurd (secondary.symm.trans primary) nofun⟩
    · refine ⟨mention, member, rfl, fun _ other known same => ?_⟩
      by_contra primary
      exact about ⟨other, known, same, Bool.not_eq_false _ ▸ primary⟩
  have some : (told.find? (IndexLink.ofMention best).isFor).isSome :=
    List.find?_isSome.2 ⟨best, known, IndexLink.isFor_iff.2 ⟨rfl, rfl⟩⟩
  obtain ⟨first, found⟩ := Option.isSome_iff_exists.1 some
  obtain ⟨slide, rank⟩ := IndexLink.isFor_iff.1 (List.find?_some found)
  have slide : first.slide = best.slide := slide
  have rank : first.primary = best.primary := rank
  have kinds : (IndexLink.ofMention first).isFor = (IndexLink.ofMention best).isFor := by
    funext other
    rw [Bool.eq_iff_iff, IndexLink.isFor_iff, IndexLink.isFor_iff]
    exact iff_of_eq (congrArg₂ (fun place rank => other.slide = place ∧ other.primary = rank)
      slide rank)
  refine ⟨first, mem_inFiles.2 ⟨kinds ▸ found, ?_⟩, slide.trans same⟩
  rw [slide, rank, same]
  exact alone

theorem pairwise_inFiles (told : List Mention) :
    ((files told).flatMap (inFile told)).Pairwise fun first second =>
      (IndexLink.ofMention first).IsBefore told (IndexLink.ofMention second) := by
  rw [List.pairwise_flatMap]
  refine ⟨fun file _ => pairwise_inFile told file, ?_⟩
  refine (pairwise_sortedSet _).imp fun before first member second other => ?_
  obtain ⟨rfl, -⟩ := mem_inFile.1 member
  obtain ⟨rfl, -⟩ := mem_inFile.1 other
  exact .inl before

end MentionView

open MentionView

/-- Links in order lead to different slides, if those of one slide agree on its rank. -/
theorem IndexLink.slide_ne_of_isBefore {told : List Mention} {first second : IndexLink}
    (before : first.IsBefore told second)
    (agree : first.slide = second.slide → first.primary = second.primary) :
    first.slide ≠ second.slide := by
  intro same
  rcases before with file | ⟨-, ⟨primary, secondary⟩ | ⟨rank, recorded⟩⟩
  · exact absurd (congrArg Prod.fst same) (ne_of_lt file)
  · exact Bool.false_ne_true (secondary.symm.trans ((agree same).symm.trans primary))
  · have kinds : first.isFor = second.isFor := by
      funext mention
      rw [isFor, isFor, same, rank]
    rw [kinds] at recorded
    exact recorded.asymm recorded

/-- **The links to mentions list them.** -/
theorem isListing_inFiles (told : List Mention) :
    IsListing told (((files told).flatMap (inFile told)).map IndexLink.ofMention) where
  distinct := by
    refine List.pairwise_map.2 (List.pairwise_map.2 ?_)
    refine (pairwise_inFiles told).imp_of_mem fun {first second} member other before => ?_
    refine IndexLink.slide_ne_of_isBefore before fun same => ?_
    have same : first.slide = second.slide := same
    exact Bool.eq_iff_iff.2 ((primary_iff_of_mem_inFiles member).trans
      (same ▸ (primary_iff_of_mem_inFiles other).symm))
  slides := by
    intro slide
    rw [List.map_map, List.mem_map, List.mem_map]
    constructor
    · rintro ⟨mention, kept, rfl⟩
      exact ⟨mention, List.mem_of_find?_eq_some (mem_inFiles.1 kept).1, rfl⟩
    · rintro ⟨mention, member, rfl⟩
      exact exists_mem_inFiles member
  primary := List.forall_mem_map.2 fun _ kept => primary_iff_of_mem_inFiles kept
  place := List.forall_mem_map.2 fun mention kept => ⟨mention, (mem_inFiles.1 kept).1, rfl⟩
  order := List.pairwise_map.2 (pairwise_inFiles told)

/-- All mentions that are kept in a file are from there. -/
theorem MentionView.find?_inFile (told : List Mention) (here file : String) :
    (inFile told here).find? (fun mention => mention.file == file) =
      if here = file then (inFile told file).head? else none := by
  have place {mention : Mention} (kept : mention ∈ inFile told here) : mention.file = here :=
    (mem_inFile.1 kept).1
  split
  · rename_i same
    subst same
    cases kept : inFile told here with
    | nil => rfl
    | cons mention rest =>
      have first := place (kept ▸ List.mem_cons_self)
      exact List.find?_cons_of_pos (beq_iff_eq.2 first)
  · rename_i other
    refine List.find?_eq_none.2 fun mention kept same => other ?_
    exact (place kept).symm.trans (beq_iff_eq.1 same)

/-- Among the mentions of all files, those of one file stand together. -/
theorem MentionView.find?_inFiles {told : List Mention} {among : List String} {file : String}
    (distinct : among.Nodup) (known : file ∈ among) :
    (among.flatMap (inFile told)).find? (fun mention => mention.file == file) =
      (inFile told file).head? := by
  induction among with
  | nil => contradiction
  | cons here rest later =>
    obtain ⟨apart, distinct⟩ := List.nodup_cons.1 distinct
    rw [List.flatMap_cons, List.find?_append, find?_inFile]
    rcases List.mem_cons.1 known with rfl | inside
    · have none : (rest.flatMap (inFile told)).find? (fun mention => mention.file == file) =
          none := by
        refine List.find?_eq_none.2 fun mention kept same => apart ?_
        obtain ⟨other, member, kept⟩ := List.mem_flatMap.1 kept
        exact ((mem_inFile.1 kept).1.symm.trans (beq_iff_eq.1 same)) ▸ member
      rw [if_pos rfl, none, Option.or_none]
    · rw [if_neg (ne_of_mem_of_not_mem inside apart).symm, Option.none_or, later distinct inside]

/-- The first mentions that are kept in each file make the first links. -/
theorem areFirst_inFiles (told : List Mention) :
    AreFirst (((files told).flatMap (inFile told)).map IndexLink.ofMention)
      (((files told).map (inFile told)).filterMap fun mentions =>
        mentions.head?.map IndexLink.ofMention) where
  files := by
    refine List.pairwise_map.2 (List.pairwise_filterMap.2 (List.pairwise_map.2 ?_))
    refine (pairwise_sortedSet _).imp fun before first made second alsoMade => ?_
    obtain ⟨mention, head, rfl⟩ := Option.map_eq_some_iff.1 made
    obtain ⟨other, otherHead, rfl⟩ := Option.map_eq_some_iff.1 alsoMade
    obtain ⟨rfl, -⟩ := mem_inFile.1 (List.mem_of_head? head)
    obtain ⟨rfl, -⟩ := mem_inFile.1 (List.mem_of_head? otherHead)
    exact before
  first := by
    intro link
    have distinct : (files told).Nodup := (pairwise_sortedSet _).imp ne_of_lt
    rw [List.find?_map, Option.map_eq_some_iff, List.mem_filterMap]
    simp only [List.mem_map, exists_exists_and_eq_and, Option.map_eq_some_iff]
    constructor
    · rintro ⟨file, known, mention, head, rfl⟩
      obtain ⟨rfl, -⟩ := mem_inFile.1 (List.mem_of_head? head)
      exact ⟨mention, (find?_inFiles distinct known).trans head, rfl⟩
    · rintro ⟨mention, found, rfl⟩
      obtain ⟨file, known, kept⟩ := List.mem_flatMap.1 (List.mem_of_find?_eq_some found)
      obtain ⟨rfl, -⟩ := mem_inFile.1 kept
      exact ⟨mention.file, known, mention, (find?_inFiles distinct known).symm.trans found, rfl⟩

end LectureDeck
