import LectureDeck.Proofs.Concept.Entries
import Mathlib.Data.List.Chain

/-!
# Letters of an index

The entries of an index view stand in groups, each under a letter, and an entry that follows another
one of its family is shortened (`LectureDeck.ConceptIndex.views_isLettered`). Entries go by their
concepts, in lower case, but letters are taken from spellings, and only ASCII letters are
capitalized. So other letters can have more than one group.
-/

namespace LectureDeck

open LectureDeck.Text MentionView

namespace IndexEntry

/-- The letter and the family that an entry is told by. -/
def position (entry : IndexEntry) : Char × List Char := (initial entry.tag, family entry.concept)

/-- The first character of a tag is the letter, as a capital if it is an ASCII letter. -/
structure StandsUnder (letter : Char) (entry : IndexEntry) : Prop where
  begins : ∀ c ∈ entry.tag.toList.head?, c.toUpper = letter
  empty : entry.tag = "" → letter = '_'

theorem standsUnder_iff {letter : Char} {entry : IndexEntry} :
    entry.StandsUnder letter ↔ initial entry.tag = letter := by
  have empty : entry.tag = "" ↔ entry.tag.toList = [] := String.toList_eq_nil_iff.symm
  rw [initial]
  cases chars : entry.tag.toList with
  | nil => exact ⟨fun under => (under.empty (empty.2 chars)).symm, fun same =>
      ⟨by simp [chars], fun _ => same.symm⟩⟩
  | cons c rest => exact ⟨fun under => under.begins c (by simp [chars]), fun same =>
      ⟨by simpa [chars] using same, fun none => absurd (empty.1 none) (by simp [chars])⟩⟩

/-- An entry is shown behind another one in a group, without the family if that is the same. -/
structure Follows (before entry : IndexEntry) : Prop where
  letter : entry.letter = none
  label : entry.label =
    if family before.concept = family entry.concept then compressed entry.tag else entry.tag
  isSpaced : entry.isSpaced = true ↔ family before.concept ≠ family entry.concept

/-- An entry is shown as the first one of a group. -/
structure Opens (letter : Char) (entry : IndexEntry) : Prop where
  letter : entry.letter = some letter
  label : entry.label = entry.tag
  isSpaced : entry.isSpaced = false

/-- Entries are shown as they are to be behind an entry. -/
inductive AreBehind : IndexEntry → List IndexEntry → Prop
  | nil {before : IndexEntry} : AreBehind before []
  | follow {before entry : IndexEntry} {rest : List IndexEntry} :
      initial before.tag = initial entry.tag → Follows before entry → AreBehind entry rest →
        AreBehind before (entry :: rest)
  | opening {before entry : IndexEntry} {rest : List IndexEntry} :
      initial before.tag ≠ initial entry.tag → Opens (initial entry.tag) entry →
        AreBehind entry rest → AreBehind before (entry :: rest)

end IndexEntry

/-- Entries that stand together under a letter. -/
structure LetterGroup where
  letter : Char
  first : IndexEntry
  others : List IndexEntry

namespace LetterGroup

def entries (group : LetterGroup) : List IndexEntry := group.first :: group.others

structure IsProper (group : LetterGroup) : Prop where
  opens : group.first.Opens group.letter
  follow : group.entries.IsChain IndexEntry.Follows
  under : ∀ entry ∈ group.entries, entry.StandsUnder group.letter

end LetterGroup

/-- No letter is returned to after another one. -/
def NeverReturns (letters : List Char) : Prop :=
  ∀ letter other, [letter, other, letter].Sublist letters → other = letter

/-- The entries of a view stand under letters. -/
structure IndexView.IsLettered (view : IndexView) : Prop where
  /-- Each letter opens one group. Groups under one letter do not stand side by side. -/
  groups : ∃ groups : List LetterGroup, view.entries = groups.flatMap LetterGroup.entries ∧
    view.letters = groups.map LetterGroup.letter ∧ (∀ group ∈ groups, group.IsProper) ∧
    groups.IsChain fun group next => group.letter ≠ next.letter
  /-- A letter has one group exactly if the entries do not return to it. -/
  nodup_iff : view.letters.Nodup ↔
    NeverReturns (view.entries.map fun entry => IndexEntry.initial entry.tag)
  /-- Between two entries under one letter, concepts begin with the same character as theirs, unless
  the first of the two has the empty tag. -/
  between : ∀ first second third, [first, second, third].Sublist view.entries →
    IndexEntry.initial first.tag = IndexEntry.initial third.tag → first.tag ≠ "" →
    second.concept.toList.head? = first.concept.toList.head?
  /-- Tags that begin with ASCII characters have one group for each letter. -/
  ascii : (∀ entry ∈ view.entries, ∃ c ∈ entry.tag.toList.head?, c.toNat < 128) →
    view.letters.Nodup

namespace IndexEntry

section Behind

variable {before entry : IndexEntry} {entries : List IndexEntry}

/-- Entries that stand behind another one are those of its group, and further groups. -/
theorem AreBehind.exists_groups (behind : AreBehind before entries) :
    ∃ (others : List IndexEntry) (groups : List LetterGroup),
      entries = others ++ groups.flatMap LetterGroup.entries ∧
      entries.filterMap letter = groups.map LetterGroup.letter ∧
      (before :: others).IsChain Follows ∧
      (∀ other ∈ others, other.StandsUnder (initial before.tag)) ∧
      (∀ group ∈ groups, group.IsProper) ∧
      (initial before.tag :: groups.map LetterGroup.letter).IsChain (· ≠ ·) := by
  induction behind with
  | nil => exact ⟨[], [], rfl, rfl, .singleton _, nofun, nofun, .singleton _⟩
  | @follow before entry rest same follows _ later =>
    obtain ⟨others, groups, rfl, letters, chain, under, proper, apart⟩ := later
    refine ⟨entry :: others, groups, rfl, ?_, .cons_cons follows chain, ?_, proper, same ▸ apart⟩
    · rw [List.filterMap_cons_none follows.letter, letters]
    · exact List.forall_mem_cons.2 ⟨standsUnder_iff.2 same.symm, same ▸ under⟩
  | @opening before entry rest other opens _ later =>
    obtain ⟨others, groups, rfl, letters, chain, under, proper, apart⟩ := later
    refine ⟨[], ⟨initial entry.tag, entry, others⟩ :: groups, rfl, ?_, .singleton _, nofun, ?_,
      .cons_cons other apart⟩
    · rw [List.filterMap_cons_some opens.letter, letters, List.map_cons]
    · refine List.forall_mem_cons.2 ⟨⟨opens, chain, ?_⟩, proper⟩
      exact List.forall_mem_cons.2 ⟨standsUnder_iff.2 rfl, under⟩

/-- Any letter but that of the entry before is shown if an entry stands under it. -/
theorem AreBehind.mem_letters (behind : AreBehind before entries) {letter : Char}
    (other : letter ≠ initial before.tag) :
    letter ∈ entries.filterMap IndexEntry.letter ↔
      letter ∈ entries.map fun entry => initial entry.tag := by
  induction behind with
  | nil => rfl
  | @follow before entry rest same follows _ later =>
    rw [List.filterMap_cons_none follows.letter, later (same ▸ other), List.map_cons,
      List.mem_cons, or_iff_right (same ▸ other)]
  | @opening before entry rest apart opens _ later =>
    rw [List.filterMap_cons_some opens.letter, List.map_cons, List.mem_cons, List.mem_cons]
    by_cases here : letter = initial entry.tag
    · simp only [here, true_or]
    · rw [later here]

end Behind

end IndexEntry

namespace NeverReturns

variable {first second : Char} {letters : List Char}

theorem cons_self : NeverReturns (first :: first :: letters) ↔ NeverReturns (first :: letters) := by
  refine ⟨fun never letter other returned => never letter other (returned.cons _), ?_⟩
  intro never letter other returned
  rcases List.sublist_cons_iff.1 returned with rest | ⟨rest, same, inside⟩
  · exact never letter other rest
  · obtain ⟨rfl, rfl⟩ := List.cons.inj same
    rcases List.sublist_cons_iff.1 inside with rest | ⟨rest, same, -⟩
    · exact never letter other (rest.cons_cons _)
    · exact (List.cons.inj same).1

/-- A letter before another one must not follow. -/
theorem cons_cons (apart : first ≠ second) : NeverReturns (first :: second :: letters) ↔
    first ∉ letters ∧ NeverReturns (second :: letters) := by
  constructor
  · intro never
    refine ⟨fun member => apart ?_, fun letter other inside => never letter other (inside.cons _)⟩
    exact (never first second (((List.singleton_sublist.2 member).cons_cons _).cons_cons _)).symm
  · rintro ⟨absent, never⟩ letter other returned
    rcases List.sublist_cons_iff.1 returned with rest | ⟨rest, same, inside⟩
    · exact never letter other rest
    · obtain ⟨rfl, rfl⟩ := List.cons.inj same
      have member : letter ∈ letters := by
        rcases List.sublist_cons_iff.1 inside with rest | ⟨rest, same, inside⟩
        · exact rest.subset (by simp)
        · obtain ⟨-, rfl⟩ := List.cons.inj same
          exact List.singleton_sublist.1 inside
      exact absurd member absent

end NeverReturns

namespace IndexEntry

/-- The letters that are shown behind an entry differ from each other and from its own exactly if
the entries never return to a letter. -/
theorem AreBehind.nodup_iff {before : IndexEntry} {entries : List IndexEntry}
    (behind : AreBehind before entries) :
    (initial before.tag :: entries.filterMap letter).Nodup ↔
      NeverReturns (initial before.tag :: entries.map fun entry => initial entry.tag) := by
  induction behind with
  | nil =>
    refine iff_of_true (List.nodup_singleton _) fun letter other returned => ?_
    exact absurd returned.length_le (by simp)
  | @follow before entry rest same follows _ later =>
    rw [List.filterMap_cons_none follows.letter, List.map_cons, same, NeverReturns.cons_self, later]
  | @opening before entry rest apart opens behind later =>
    rw [List.filterMap_cons_some opens.letter, List.map_cons, NeverReturns.cons_cons apart, ← later,
      List.nodup_cons, List.mem_cons, or_iff_right apart]
    by_cases here : initial before.tag = initial entry.tag
    · exact absurd here apart
    · rw [behind.mem_letters here]

section List

variable {view : MentionView} (page : IndexPage) {concept : String} {concepts : List String}

variable (concepts) in
/-- The first entry of a list is shown by the position before. -/
theorem exists_list_cons (named : Tags.concept (view.spelling concept) = concept)
    (previous : Option (Char × List Char)) :
    ∃ entry, list view page previous (concept :: concepts) =
        entry :: list view page (some entry.position) concepts ∧
      entry.letter = (if previous.map Prod.fst = some (initial entry.tag) then none
        else some (initial entry.tag)) ∧
      entry.label = (if previous = some entry.position then compressed entry.tag else entry.tag) ∧
      (entry.isSpaced = true ↔ previous.map Prod.fst = some (initial entry.tag) ∧
        previous ≠ some entry.position) := by
  have position : (initial (view.spelling concept), family concept) =
      (initial (view.spelling concept), family (Tags.concept (view.spelling concept))) := by
    rw [named]
  refine ⟨_, by rw [list, position]; rfl, ?_, ?_, ?_⟩
  · exact (if_congr bne_iff_ne rfl rfl).trans (ite_not ..)
  · exact if_congr beq_iff_eq rfl rfl
  · simp [IndexEntry.position, IndexEntry.concept]

/-- Entries are shown as they are to be behind the one before. -/
theorem areBehind_list {before : IndexEntry}
    (spelled : ∀ concept ∈ concepts, Tags.concept (view.spelling concept) = concept) :
    AreBehind before (list view page (some before.position) concepts) := by
  induction concepts generalizing before with
  | nil => exact .nil
  | cons concept rest later =>
    obtain ⟨named, spelled⟩ := List.forall_mem_cons.1 spelled
    obtain ⟨entry, same, letter, label, spaced⟩ :=
      exists_list_cons page rest named (some before.position)
    rw [same]
    simp only [Option.map_some, Option.some.injEq, ne_eq, position, Prod.mk.injEq]
      at letter label spaced
    by_cases initials : initial before.tag = initial entry.tag
    · simp only [initials, true_and, if_true] at letter label spaced
      exact .follow initials ⟨letter, label, spaced⟩ (later spelled)
    · simp only [initials, false_and, if_false, iff_false] at letter label spaced
      exact .opening initials ⟨letter, label, Bool.eq_false_iff.2 spaced⟩ (later spelled)

/-- The first entry of a view opens a group. -/
theorem list_none_eq
    (spelled : ∀ concept ∈ concepts, Tags.concept (view.spelling concept) = concept) :
    list view page none concepts = [] ∨ ∃ first rest, list view page none concepts = first :: rest ∧
      first.Opens (initial first.tag) ∧ AreBehind first rest := by
  cases concepts with
  | nil => exact .inl rfl
  | cons concept rest =>
    obtain ⟨named, spelled⟩ := List.forall_mem_cons.1 spelled
    obtain ⟨first, same, letter, label, spaced⟩ :=
      exists_list_cons page rest named none
    simp only [Option.map_none, reduceCtorEq, if_false, false_and, iff_false] at letter label spaced
    exact .inr ⟨first, _, same, ⟨letter, label, Bool.eq_false_iff.2 spaced⟩,
      areBehind_list page spelled⟩

variable (view) in
/-- The entries of a view stand in groups. -/
theorem exists_groups_list
    (spelled : ∀ concept ∈ concepts, Tags.concept (view.spelling concept) = concept) :
    ∃ groups : List LetterGroup,
      list view page none concepts = groups.flatMap LetterGroup.entries ∧
      (list view page none concepts).filterMap letter = groups.map LetterGroup.letter ∧
      (∀ group ∈ groups, group.IsProper) ∧
      groups.IsChain fun group next => group.letter ≠ next.letter := by
  rcases list_none_eq page spelled with none | ⟨first, rest, same, opens, behind⟩
  · exact ⟨[], none, by rw [none]; rfl, nofun, .nil⟩
  · obtain ⟨others, groups, rfl, letters, chain, under, proper, apart⟩ := behind.exists_groups
    refine ⟨⟨initial first.tag, first, others⟩ :: groups, same, ?_, ?_, ?_⟩
    · rw [same, List.filterMap_cons_some opens.letter, letters, List.map_cons]
    · refine List.forall_mem_cons.2 ⟨⟨opens, chain, ?_⟩, proper⟩
      exact List.forall_mem_cons.2 ⟨standsUnder_iff.2 rfl, under⟩
    · exact (List.isChain_map _).1 apart

variable (view) in
/-- No two groups of a view have one letter exactly if the entries never return to a letter. -/
theorem nodup_letters_list
    (spelled : ∀ concept ∈ concepts, Tags.concept (view.spelling concept) = concept) :
    ((list view page none concepts).filterMap letter).Nodup ↔
      NeverReturns ((list view page none concepts).map fun entry => initial entry.tag) := by
  rcases list_none_eq page spelled with none | ⟨first, rest, same, opens, behind⟩
  · rw [none]
    exact iff_of_true .nil fun letter other returned => absurd returned.length_le (by simp)
  · rw [same, List.filterMap_cons_some opens.letter, List.map_cons]
    exact behind.nodup_iff

end List

end IndexEntry

section LowerCase

/-- The first character in lower case of a text that begins with a character. -/
def lowerLead (c : Char) : Char :=
  if c = '\u03A3' then '\u03C3' else if c = '\u0130' then 'i' else lowerChar c

theorem head?_lowercase (cs : List Char) : (lowercase cs).head? = cs.head?.map lowerLead := by
  cases cs with
  | nil => rfl
  | cons c rest =>
    have start : meetsCased [] = false := rfl
    rw [lowercase, lowercaseAfter, start, Bool.false_and, if_neg Bool.false_ne_true]
    simp only [List.head?_cons, Option.map_some, lowerLead]
    split
    · rfl
    · split <;> rfl

/-- Capitals of ASCII letters are the same in lower case. -/
theorem lowerLead_toUpper (c : Char) : lowerLead c.toUpper = lowerLead c := by
  have every : ∀ code < 128, lowerLead (Char.ofNat code).toUpper = lowerLead (Char.ofNat code) := by
    decide +kernel
  by_cases ascii : c.toNat < 128
  · simpa using every c.toNat ascii
  · have fixed : c.toUpper = c := by
      refine dif_neg ?_
      rintro ⟨-, last⟩
      exact ascii (Nat.lt_of_le_of_lt last (by decide))
    rw [fixed]

theorem toUpper_lowerLead {c : Char} (ascii : c.toNat < 128) :
    (lowerLead c).toUpper = c.toUpper := by
  have every : ∀ code < 128, (lowerLead (Char.ofNat code)).toUpper = (Char.ofNat code).toUpper := by
    decide +kernel
  simpa using every c.toNat ascii

/-- What stands between texts with the same first character begins with it, too. -/
theorem head?_of_between {first second third : String} {c : Char} (lower : first < second)
    (upper : second < third) (begins : first.toList.head? = some c)
    (ends : third.toList.head? = some c) : second.toList.head? = some c := by
  obtain ⟨firsts, first⟩ := List.head?_eq_some_iff.1 begins
  obtain ⟨thirds, third⟩ := List.head?_eq_some_iff.1 ends
  rw [String.lt_iff_toList_lt, first] at lower
  rw [String.lt_iff_toList_lt, third] at upper
  cases seconds : second.toList with
  | nil =>
    rw [seconds] at lower
    exact absurd lower (List.not_lt_nil _)
  | cons d rest =>
    rw [seconds, List.cons_lt_cons_iff] at lower upper
    have above : c ≤ d := lower.elim le_of_lt fun same => same.1.le
    have below : d ≤ c := upper.elim le_of_lt fun same => same.1.le
    exact congrArg some (le_antisymm below above)

end LowerCase

namespace IndexEntry

variable {entry other : IndexEntry}

theorem head?_concept (entry : IndexEntry) :
    entry.concept.toList.head? = entry.tag.toList.head?.map lowerLead := by
  rw [concept, Tags.concept, String.toList_ofList, head?_lowercase]

theorem exists_head?_of_ne (some : entry.tag ≠ "") :
    ∃ c, entry.tag.toList.head? = Option.some c ∧ initial entry.tag = c.toUpper := by
  rw [initial]
  cases chars : entry.tag.toList with
  | nil => exact absurd (String.toList_eq_nil_iff.1 chars) some
  | cons c rest => exact ⟨c, rfl, rfl⟩

/-- Concepts of entries under one letter begin with the same character. -/
theorem head?_concept_of_initial (same : initial entry.tag = initial other.tag)
    (some : entry.tag ≠ "") (any : other.tag ≠ "") :
    entry.concept.toList.head? = other.concept.toList.head? := by
  obtain ⟨c, first, capital⟩ := exists_head?_of_ne some
  obtain ⟨d, second, also⟩ := exists_head?_of_ne any
  rw [head?_concept, head?_concept, first, second, Option.map_some, Option.map_some,
    ← lowerLead_toUpper c, ← lowerLead_toUpper d, ← capital, ← also, same]

/-- Entries under ASCII letters stand under one letter if their concepts begin with the same
character. -/
theorem initial_of_head?_concept
    (same : entry.concept.toList.head? = other.concept.toList.head?)
    (ascii : ∃ c ∈ entry.tag.toList.head?, c.toNat < 128)
    (also : ∃ c ∈ other.tag.toList.head?, c.toNat < 128) :
    initial entry.tag = initial other.tag := by
  obtain ⟨c, first, ascii⟩ := ascii
  obtain ⟨d, second, also⟩ := also
  have under {entry : IndexEntry} {c : Char} (first : c ∈ entry.tag.toList.head?) :
      initial entry.tag = c.toUpper :=
    ((standsUnder_iff.2 rfl).begins c first).symm
  rw [head?_concept, head?_concept, Option.mem_def.1 first, Option.mem_def.1 second] at same
  rw [under first, under second, ← toUpper_lowerLead ascii, ← toUpper_lowerLead also,
    Option.some.inj same]

end IndexEntry

namespace IndexView

variable {view : IndexView}

/-- Between two entries under one letter, concepts begin with the same character as theirs. -/
theorem head?_concept_of_between
    (ascending : (view.entries.map IndexEntry.concept).Pairwise (· < ·))
    {first second third : IndexEntry} (inside : [first, second, third].Sublist view.entries)
    (same : IndexEntry.initial first.tag = IndexEntry.initial third.tag) (some : first.tag ≠ "") :
    second.concept.toList.head? = first.concept.toList.head? := by
  have order := ascending.sublist (inside.map IndexEntry.concept)
  obtain ⟨lower, upper⟩ : first.concept < second.concept ∧ second.concept < third.concept := by
    simp only [List.map_cons, List.map_nil, List.pairwise_cons] at order
    exact ⟨order.1 _ (by simp), order.2.1 _ (by simp)⟩
  -- The empty tag comes before all others.
  have any : third.tag ≠ "" := by
    intro empty
    rw [IndexEntry.concept, IndexEntry.concept, empty] at upper
    exact absurd (String.lt_iff_toList_lt.1 upper) (List.not_lt_nil _)
  obtain ⟨c, begins, -⟩ := IndexEntry.exists_head?_of_ne some
  have first : first.concept.toList.head? = Option.some (lowerLead c) := by
    rw [IndexEntry.head?_concept, begins, Option.map_some]
  rw [first]
  refine head?_of_between lower upper first ?_
  rw [← IndexEntry.head?_concept_of_initial same some any, first]

/-- Entries that begin with ASCII characters do not return to a letter. -/
theorem neverReturns_of_ascii
    (ascending : (view.entries.map IndexEntry.concept).Pairwise (· < ·))
    (ascii : ∀ entry ∈ view.entries, ∃ c ∈ entry.tag.toList.head?, c.toNat < 128) :
    NeverReturns (view.entries.map fun entry => IndexEntry.initial entry.tag) := by
  intro letter other returned
  obtain ⟨entries, inside, same⟩ := List.sublist_map_iff.1 returned
  obtain ⟨first, rest, rfl, rfl, behind⟩ := List.map_eq_cons_iff.1 same.symm
  obtain ⟨second, last, rfl, rfl, ending⟩ := List.map_eq_cons_iff.1 behind
  obtain ⟨third, others, rfl, again, none⟩ := List.map_eq_cons_iff.1 ending
  obtain rfl := List.map_eq_nil_iff.1 none
  have known := inside.subset
  have some : first.tag ≠ "" := by
    obtain ⟨c, begins, -⟩ := ascii first (known (by simp))
    intro empty
    simp [empty] at begins
  exact IndexEntry.initial_of_head?_concept
    (head?_concept_of_between ascending inside again.symm some)
    (ascii second (known (by simp))) (ascii first (known (by simp)))

end IndexView

namespace ConceptIndex

theorem isLettered_ofMentions (index : ConceptIndex) (onQuestion : Bool) (page : IndexPage) :
    (IndexView.ofMentions (index.view onQuestion) page).IsLettered := by
  have ascending := (shows_ofMentions index onQuestion page).ascending
  have spelled : ∀ concept ∈ (index.view onQuestion).concepts,
      Tags.concept (index.spelling concept) = concept := fun _ => concept_spelling_of_mem
  have nodup := IndexEntry.nodup_letters_list (index.view onQuestion) page spelled
  exact ⟨IndexEntry.exists_groups_list (index.view onQuestion) page spelled, nodup,
    fun first second third => IndexView.head?_concept_of_between ascending,
    fun ascii => nodup.2 (IndexView.neverReturns_of_ascii ascending ascii)⟩

/-- **The entries of a view stand in groups under letters.** -/
theorem views_isLettered (steps : List IndexStep) (page : IndexPage) :
    ((ofSteps steps).conceptView page).IsLettered ∧
      ((ofSteps steps).questionView page).IsLettered :=
  ⟨isLettered_ofMentions _ false page, isLettered_ofMentions _ true page⟩

/-- Concepts that begin with one letter, which is spelled as a capital for some of them. -/
def umlauts : List IndexStep :=
  [.tag ⟨"Äa", "a", ⟨"slidoc01-01", ""⟩, true, false⟩,
    .tag ⟨"äb", "a", ⟨"slidoc01-02", ""⟩, true, false⟩,
    .tag ⟨"Äc", "a", ⟨"slidoc01-03", ""⟩, true, false⟩]

/-- A letter can have two groups. -/
theorem exists_repeated_letter :
    ¬ ((ofSteps umlauts).conceptView (.concepts {})).letters.Nodup := by
  decide +kernel

end ConceptIndex

end LectureDeck
