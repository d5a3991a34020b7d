import LectureDeck.Proofs.Text.Fields
import Mathlib.Data.List.Forall2

/-!
# Globs

A glob is a pattern of paths whose components are matched one to one: a star in a component stands
for any characters, and a component of two stars stands for any components.
-/

namespace LectureDeck.Site

open LectureDeck.Text

/-- A text is matched by a pattern whose stars stand for any characters. -/
inductive StarMatches : List Char → List Char → Prop where
  | nil : StarMatches [] []
  | star {pattern text : List Char} (skipped : List Char) (rest : StarMatches pattern text) :
      StarMatches ('*' :: pattern) (skipped ++ text)
  | char {c : Char} {pattern text : List Char} (other : c ≠ '*') (rest : StarMatches pattern text) :
      StarMatches (c :: pattern) (c :: text)

/-- The component that stands for any components. -/
def twoStars : List Char := ['*', '*']

/-- Components are matched by those of a pattern. No slash is in a component, so that a star stands
for no slash. -/
inductive PartsMatch : List (List Char) → List (List Char) → Prop where
  | nil : PartsMatch [] []
  | stars {patterns parts : List (List Char)} (skipped : List (List Char))
      (rest : PartsMatch patterns parts) : PartsMatch (twoStars :: patterns) (skipped ++ parts)
  | part {pattern part : List Char} {patterns parts : List (List Char)} (other : pattern ≠ twoStars)
      (first : StarMatches pattern part) (rest : PartsMatch patterns parts) :
      PartsMatch (pattern :: patterns) (part :: parts)

/-- A path is matched by a pattern as a glob. -/
def GlobMatches (pattern path : List Char) : Prop :=
  PartsMatch (fields '/' pattern) (fields '/' path)

/-- A pattern without its stars. -/
def unstarred (pattern : List Char) : List Char := pattern.filter (· != '*')

/-- No star is left where stars are left out. -/
theorem not_mem_unstarred (pattern : List Char) : '*' ∉ unstarred pattern := by
  simp [unstarred]

namespace StarMatches

variable {pattern text : List Char}

/-- A star stands for any text. -/
theorem star_iff : StarMatches ('*' :: pattern) text ↔
    ∃ skipped rest, text = skipped ++ rest ∧ StarMatches pattern rest := by
  constructor
  · intro matched
    cases matched with
    | star skipped rest => exact ⟨skipped, _, rfl, rest⟩
    | char other _ => contradiction
  · rintro ⟨skipped, rest, rfl, matched⟩
    exact .star skipped matched

/-- What has no star stands for itself. -/
theorem plain_append_iff {before : List Char} (plain : '*' ∉ before) :
    StarMatches (before ++ pattern) text ↔
      ∃ rest, text = before ++ rest ∧ StarMatches pattern rest := by
  induction before generalizing text with
  | nil => simp
  | cons c before later =>
    obtain ⟨other, plain⟩ := not_or.1 (List.mem_cons.not.1 plain)
    constructor
    · intro matched
      cases matched with
      | star => contradiction
      | char _ matched =>
        obtain ⟨rest, rfl, remains⟩ := (later plain).1 matched
        exact ⟨rest, rfl, remains⟩
    · rintro ⟨rest, rfl, matched⟩
      exact .char (Ne.symm other) ((later plain).2 ⟨rest, rfl, matched⟩)

/-- A pattern without stars stands for itself. -/
theorem plain_iff (plain : '*' ∉ pattern) : StarMatches pattern text ↔ text = pattern := by
  have whole : StarMatches (pattern ++ []) text ↔
      ∃ rest, text = pattern ++ rest ∧ StarMatches [] rest := plain_append_iff plain
  rw [List.append_nil] at whole
  rw [whole]
  constructor
  · rintro ⟨rest, rfl, matched⟩
    cases matched
    exact List.append_nil pattern
  · rintro rfl
    exact ⟨[], (List.append_nil text).symm, .nil⟩

/-- A text is matched by its pattern if each star stands for nothing. -/
theorem unstarred (pattern : List Char) : StarMatches pattern (unstarred pattern) := by
  induction pattern with
  | nil => exact .nil
  | cons c pattern later =>
    by_cases star : c = '*'
    · subst star
      exact .star [] later
    · rw [Site.unstarred, List.filter_cons_of_pos (by simpa using star)]
      exact .char star later

/-- Texts that are matched one after another are matched by the patterns one after another. -/
theorem append {other more : List Char} (first : StarMatches pattern text)
    (second : StarMatches other more) : StarMatches (pattern ++ other) (text ++ more) := by
  induction first with
  | nil => exact second
  | star skipped _ later =>
    rw [List.append_assoc]
    exact .star skipped later
  | char other _ later => exact .char other later

/-- Characters of a pattern other than stars are in the text. -/
theorem count_le (matched : StarMatches pattern text) {c : Char} (other : c ≠ '*') :
    pattern.count c ≤ text.count c := by
  induction matched with
  | nil => exact Nat.le_refl _
  | star skipped _ later =>
    rw [List.count_cons_of_ne (Ne.symm other), List.count_append]
    omega
  | char _ _ later =>
    rw [List.count_cons, List.count_cons]
    omega

/-- A row of stars stands for any text. -/
theorem of_stars (stars : ∀ c ∈ pattern, c = '*') (some : pattern ≠ []) (text : List Char) :
    StarMatches pattern text := by
  induction pattern generalizing text with
  | nil => exact absurd rfl some
  | cons c pattern later =>
    obtain ⟨rfl, others⟩ := List.forall_mem_cons.1 stars
    by_cases last : pattern = []
    · subst last
      have matched := StarMatches.star text .nil
      rwa [List.append_nil] at matched
    · exact .star [] (later others last text)

end StarMatches

namespace PartsMatch

variable {patterns parts : List (List Char)}

/-- A component of two stars stands for any components. -/
theorem stars_iff : PartsMatch (twoStars :: patterns) parts ↔
    ∃ skipped rest, parts = skipped ++ rest ∧ PartsMatch patterns rest := by
  constructor
  · intro matched
    cases matched with
    | stars skipped rest => exact ⟨skipped, _, rfl, rest⟩
    | part other => contradiction
  · rintro ⟨skipped, rest, rfl, matched⟩
    exact .stars skipped matched

/-- Two such components stand for no more than one. -/
theorem stars_stars_iff : PartsMatch (twoStars :: twoStars :: patterns) parts ↔
    PartsMatch (twoStars :: patterns) parts := by
  constructor
  · intro matched
    obtain ⟨skipped, rest, rfl, inner⟩ := stars_iff.1 matched
    obtain ⟨also, last, rfl, remains⟩ := stars_iff.1 inner
    rw [← List.append_assoc]
    exact .stars _ remains
  · exact .stars []

/-- Without such components there is one component for each of the pattern. -/
theorem forall₂_iff (none : twoStars ∉ patterns) :
    PartsMatch patterns parts ↔ List.Forall₂ StarMatches patterns parts := by
  constructor
  · intro matched
    induction matched with
    | nil => exact .nil
    | stars => exact absurd List.mem_cons_self none
    | part _ first _ later => exact .cons first (later fun member => none (.tail _ member))
  · intro matched
    induction matched with
    | nil => exact .nil
    | cons first _ later =>
      obtain ⟨other, none⟩ := not_or.1 (List.mem_cons.not.1 none)
      exact .part (Ne.symm other) first (later none)

/-- Components without stars stand for themselves at the beginning of a path. -/
theorem plain_append_iff {before : List (List Char)} (plain : ∀ pattern ∈ before, '*' ∉ pattern) :
    PartsMatch (before ++ patterns) parts ↔
      ∃ rest, parts = before ++ rest ∧ PartsMatch patterns rest := by
  induction before generalizing parts with
  | nil => simp
  | cons pattern before later =>
    obtain ⟨first, others⟩ := List.forall_mem_cons.1 plain
    have other : pattern ≠ twoStars := fun same => first (same ▸ List.mem_cons_self)
    constructor
    · intro matched
      cases matched with
      | stars => contradiction
      | part _ same matched =>
        obtain rfl := (StarMatches.plain_iff first).1 same
        obtain ⟨rest, rfl, remains⟩ := (later others).1 matched
        exact ⟨rest, rfl, remains⟩
    · rintro ⟨rest, rfl, matched⟩
      exact .part other ((StarMatches.plain_iff first).2 rfl)
        ((later others).2 ⟨rest, rfl, matched⟩)

/-- Components of which none has a star stand for themselves. -/
theorem plain_iff (plain : ∀ pattern ∈ patterns, '*' ∉ pattern) :
    PartsMatch patterns parts ↔ parts = patterns := by
  have whole : PartsMatch (patterns ++ []) parts ↔
      ∃ rest, parts = patterns ++ rest ∧ PartsMatch [] rest := plain_append_iff plain
  rw [List.append_nil] at whole
  rw [whole]
  constructor
  · rintro ⟨rest, rfl, matched⟩
    cases matched
    exact List.append_nil patterns
  · rintro rfl
    exact ⟨[], (List.append_nil parts).symm, .nil⟩

/-- A star may stand for nothing, so that a pattern matches itself without its stars. -/
theorem unstarred (patterns : List (List Char)) :
    PartsMatch patterns (patterns.map Site.unstarred) := by
  induction patterns with
  | nil => exact .nil
  | cons pattern patterns later =>
    by_cases stars : pattern = twoStars
    · subst stars
      exact .stars [[]] later
    · exact .part stars (.unstarred pattern) later

/-- Components that are matched one after another are matched by the patterns one after another. -/
theorem append {more others : List (List Char)} (first : PartsMatch patterns parts)
    (second : PartsMatch more others) : PartsMatch (patterns ++ more) (parts ++ others) := by
  induction first with
  | nil => exact second
  | stars skipped _ later =>
    rw [List.append_assoc]
    exact .stars skipped later
  | part other first _ later => exact .part other first later

/-- Nothing is matched by two stars alone. -/
theorem eq_twoStars_of_nil (matched : PartsMatch patterns []) :
    ∀ pattern ∈ patterns, pattern = twoStars := by
  induction patterns with
  | nil => nofun
  | cons pattern patterns later =>
    by_cases stars : pattern = twoStars
    · subst stars
      obtain ⟨skipped, rest, none, matched⟩ := stars_iff.1 matched
      obtain ⟨rfl, rfl⟩ := List.append_eq_nil_iff.1 none.symm
      exact List.forall_mem_cons.2 ⟨rfl, later matched⟩
    · generalize same : ([] : List (List Char)) = parts at matched
      cases matched with
      | stars => contradiction
      | part => contradiction

end PartsMatch

section Globs

variable {pattern path directory ending : List Char}

/-- A pattern matches the path that is left of it without stars. -/
theorem GlobMatches.unstarred (pattern : List Char) : GlobMatches pattern (unstarred pattern) := by
  rw [GlobMatches, Site.unstarred, fields_filter (by decide)]
  exact .unstarred _

/-- A pattern without stars is matched by itself alone. -/
theorem globMatches_plain_iff (plain : '*' ∉ pattern) :
    GlobMatches pattern path ↔ path = pattern := by
  have each : ∀ part ∈ fields '/' pattern, '*' ∉ part := fun part member inside =>
    plain (mem_of_mem_fields member inside)
  rw [GlobMatches, PartsMatch.plain_iff each, fields_inj]

/-- A pattern without stars has a component to be matched. -/
theorem not_partsMatch_plain (plain : '*' ∉ pattern) : ¬PartsMatch (fields '/' pattern) [] := by
  intro matched
  obtain ⟨first, member⟩ := List.exists_mem_of_ne_nil _ (fields_ne_nil '/' pattern)
  have stars := matched.eq_twoStars_of_nil first member
  exact plain (mem_of_mem_fields member (stars ▸ List.mem_cons_self))

/-- A pattern in any directory. -/
def deep (pattern : List Char) : List Char := '*' :: '*' :: '/' :: pattern

/-- A pattern in any directory has one component more, of two stars. -/
theorem fields_deep (pattern : List Char) :
    fields '/' (deep pattern) = twoStars :: fields '/' pattern := by
  have plain : '/' ∉ twoStars := by decide
  exact fields_append plain pattern

/-- In any directory of any directory is in any directory. -/
theorem globMatches_deep_deep_iff :
    GlobMatches (deep (deep pattern)) path ↔ GlobMatches (deep pattern) path := by
  rw [GlobMatches, GlobMatches, fields_deep, fields_deep, PartsMatch.stars_stars_iff]

/-- What matches in a directory, matches in any. -/
theorem GlobMatches.deep (matched : GlobMatches pattern path) {front : List Char}
    (ends : front = [] ∨ ∃ above, front = above ++ ['/']) :
    GlobMatches (deep pattern) (front ++ path) := by
  rw [GlobMatches, fields_deep]
  rcases ends with rfl | ⟨above, rfl⟩
  · exact .stars [] matched
  · rw [List.append_assoc, List.singleton_append, fields_append_cons]
    exact .stars _ matched

/-- A pattern that is matched by something is matched in any directory. -/
theorem globMatches_deep_iff (some : ¬PartsMatch (fields '/' pattern) []) :
    GlobMatches (deep pattern) path ↔ ∃ front inner, path = front ++ inner ∧
      (front = [] ∨ ∃ above, front = above ++ ['/']) ∧ GlobMatches pattern inner := by
  constructor
  · intro matched
    rw [GlobMatches, fields_deep] at matched
    obtain ⟨skipped, rest, parts, remains⟩ := PartsMatch.stars_iff.1 matched
    by_cases none : skipped = []
    · rw [none, List.nil_append] at parts
      rw [← parts] at remains
      exact ⟨[], path, rfl, .inl rfl, remains⟩
    · have given : rest ≠ [] := fun empty => some (empty ▸ remains)
      obtain ⟨above, inner, whole, -, same⟩ := exists_of_fields_eq_append none given parts
      rw [← same] at remains
      exact ⟨above ++ ['/'], inner, by simp [whole], .inr ⟨above, rfl⟩, remains⟩
  · rintro ⟨front, inner, rfl, ends, matched⟩
    exact matched.deep ends

/-- A directory without stars is matched by itself alone. -/
theorem globMatches_directory_iff (plain : '*' ∉ directory)
    (some : ¬PartsMatch (fields '/' pattern) []) : GlobMatches (directory ++ '/' :: pattern) path ↔
      ∃ inner, path = directory ++ '/' :: inner ∧ GlobMatches pattern inner := by
  have each : ∀ part ∈ fields '/' directory, '*' ∉ part := fun part member inside =>
    plain (mem_of_mem_fields member inside)
  rw [GlobMatches, fields_append_cons, PartsMatch.plain_append_iff each]
  constructor
  · rintro ⟨rest, parts, matched⟩
    have given : rest ≠ [] := fun empty => some (empty ▸ matched)
    obtain ⟨front, inner, whole, same, others⟩ :=
      exists_of_fields_eq_append (fields_ne_nil '/' directory) given parts
    rw [fields_inj.1 same] at whole
    rw [← others] at matched
    exact ⟨inner, whole, matched⟩
  · rintro ⟨inner, rfl, matched⟩
    exact ⟨_, fields_append_cons _ _ _, matched⟩

/-- The ending of a name may have slashes. Then only its first part is behind the star. -/
theorem exists_fields_ending (plain : '*' ∉ ending) : ∃ first others,
    (∀ name, '/' ∉ name → fields '/' (name ++ '.' :: ending) = (name ++ first) :: others) ∧
      '*' :: first ≠ twoStars ∧ '*' ∉ first ∧ ∀ part ∈ others, '*' ∉ part := by
  obtain ⟨first, others, parts⟩ := List.exists_cons_of_ne_nil (fields_ne_nil '/' ('.' :: ending))
  have each : ∀ part ∈ first :: others, '*' ∉ part := fun part member inside =>
    absurd (mem_of_mem_fields (parts ▸ member) inside) (by simpa using plain)
  obtain ⟨firstPlain, othersPlain⟩ := List.forall_mem_cons.1 each
  refine ⟨first, others, fun name inside => fields_append_of_eq_cons inside parts, ?_, firstPlain,
    othersPlain⟩
  intro same
  rw [(List.cons.inj same).2] at firstPlain
  exact firstPlain List.mem_cons_self

/-- A star before an ending stands for the start of a name. -/
theorem globMatches_ending_iff (plain : '*' ∉ ending) : GlobMatches ('*' :: '.' :: ending) path ↔
    ∃ name, '/' ∉ name ∧ path = name ++ '.' :: ending := by
  obtain ⟨first, others, whole, other, firstPlain, othersPlain⟩ := exists_fields_ending plain
  rw [GlobMatches, show fields '/' ('*' :: '.' :: ending) = ('*' :: first) :: others from
    whole ['*'] (by decide)]
  constructor
  · intro matched
    generalize found : fields '/' path = parts at matched
    cases matched with
    | stars => contradiction
    | part _ start rest =>
      obtain rfl := (PartsMatch.plain_iff othersPlain).1 rest
      obtain ⟨name, rest, rfl, same⟩ := StarMatches.star_iff.1 start
      obtain rfl := (StarMatches.plain_iff firstPlain).1 same
      have inside : '/' ∉ name ++ rest := not_mem_of_mem_fields (found ▸ List.mem_cons_self)
      have inside : '/' ∉ name := fun member => inside (List.mem_append_left _ member)
      exact ⟨name, inside, fields_inj.1 (found.trans (whole name inside).symm)⟩
  · rintro ⟨name, inside, rfl⟩
    rw [whole name inside]
    exact .part other (.star name ((StarMatches.plain_iff firstPlain).2 rfl))
      ((PartsMatch.plain_iff othersPlain).2 rfl)

/-- The ending of a name has a component to be matched. -/
theorem not_partsMatch_ending (plain : '*' ∉ ending) :
    ¬PartsMatch (fields '/' ('*' :: '.' :: ending)) [] := by
  obtain ⟨first, others, whole, other, -⟩ := exists_fields_ending plain
  intro matched
  rw [show fields '/' ('*' :: '.' :: ending) = ('*' :: first) :: others from
    whole ['*'] (by decide)] at matched
  exact other (matched.eq_twoStars_of_nil _ List.mem_cons_self)

/-- In any directory, the ending is that of the path. -/
theorem globMatches_deep_ending_iff (plain : '*' ∉ ending) :
    GlobMatches (deep ('*' :: '.' :: ending)) path ↔ '.' :: ending <:+ path := by
  rw [globMatches_deep_iff (not_partsMatch_ending plain)]
  constructor
  · rintro ⟨front, inner, rfl, -, matched⟩
    obtain ⟨name, -, rfl⟩ := (globMatches_ending_iff plain).1 matched
    exact ⟨front ++ name, by simp⟩
  · rintro ⟨before, rfl⟩
    obtain ⟨front, name, rfl, inside, ends⟩ := exists_lastField '/' before
    exact ⟨front, name ++ '.' :: ending, List.append_assoc _ _ _, ends,
      (globMatches_ending_iff plain).2 ⟨name, inside, rfl⟩⟩

end Globs

section Levels

variable {pattern path : List Char}

/-- A pattern of directories and files of a depth, whatever their names are. -/
def IsLevels (pattern : List Char) : Prop :=
  ∀ part ∈ fields '/' pattern, part ≠ [] ∧ part ≠ twoStars ∧ ∀ c ∈ part, c = '*'

/-- Levels have no component of two stars. -/
theorem IsLevels.not_mem (levels : IsLevels pattern) : twoStars ∉ fields '/' pattern :=
  fun member => (levels _ member).2.1 rfl

/-- Components are matched one by one where each pattern stands for anything and there are as many
of them. -/
theorem forall₂_starMatches {patterns parts : List (List Char)}
    (each : ∀ pattern ∈ patterns, ∀ part, StarMatches pattern part)
    (same : patterns.length = parts.length) : List.Forall₂ StarMatches patterns parts := by
  induction patterns generalizing parts with
  | nil =>
    rw [List.length_eq_zero_iff.1 same.symm]
    exact .nil
  | cons pattern patterns later =>
    obtain ⟨first, each⟩ := List.forall_mem_cons.1 each
    obtain ⟨part, parts, rfl⟩ := List.exists_cons_of_length_eq_add_one same.symm
    exact .cons (first part) (later each (Nat.succ.inj same))

/-- What is matched part by part is matched as a whole. -/
theorem StarMatches.intercalate {patterns parts : List (List Char)}
    (each : List.Forall₂ StarMatches patterns parts) :
    StarMatches (['/'].intercalate patterns) (['/'].intercalate parts) := by
  induction each with
  | nil => exact .nil
  | cons first each later =>
    cases each with
    | nil => simpa using first
    | cons second others =>
      rw [List.intercalate_cons_cons, List.intercalate_cons_cons]
      exact (first.append (.char (by decide) .nil)).append later

/-- A path that is matched component by component is matched as a text, in which a star may stand
for slashes too. -/
theorem GlobMatches.starMatches (none : twoStars ∉ fields '/' pattern)
    (matched : GlobMatches pattern path) : StarMatches pattern path := by
  have whole := StarMatches.intercalate ((PartsMatch.forall₂_iff none).1 matched)
  rwa [intercalate_fields, intercalate_fields] at whole

/-- Levels match in any directory what is deep enough. -/
theorem globMatches_deep_levels_iff (levels : IsLevels pattern) :
    GlobMatches (deep pattern) path ↔ pattern.count '/' ≤ path.count '/' := by
  have count (cs : List Char) := length_fields '/' cs
  rw [GlobMatches, fields_deep, PartsMatch.stars_iff]
  constructor
  · rintro ⟨skipped, rest, parts, matched⟩
    have same := ((PartsMatch.forall₂_iff levels.not_mem).1 matched).length_eq
    have whole := congrArg List.length parts
    rw [List.length_append, ← same, count, count] at whole
    omega
  · intro enough
    refine ⟨_, _, (List.take_append_drop (path.count '/' - pattern.count '/') _).symm, ?_⟩
    rw [PartsMatch.forall₂_iff levels.not_mem]
    apply forall₂_starMatches
    · exact fun part member => .of_stars (levels part member).2.2 (levels part member).1
    · rw [List.length_drop, count, count]
      omega

/-- Levels that are added to a path are components of their own. -/
theorem fields_append_replicate (cs : List Char) {c : Char} (other : c ≠ '/') (n : Nat) :
    fields '/' (cs ++ (List.replicate n ['/', c]).flatten) =
      fields '/' cs ++ List.replicate n [c] := by
  have plain : '/' ∉ [c] := by simpa using Ne.symm other
  induction n with
  | zero => simp
  | succ n later =>
    rw [List.replicate_succ', List.flatten_concat, ← List.append_assoc, fields_append_cons, later,
      List.replicate_succ', List.append_assoc, fields_of_not_mem plain]

/-- A pattern that matches names of any letter below some directory has levels only. -/
theorem isLevels_of_globMatches (none : twoStars ∉ fields '/' pattern) {cs : List Char}
    (matched : ∀ c ∈ ['a', 'b'], GlobMatches (deep pattern)
      (cs ++ (List.replicate (fields '/' pattern).length ['/', c]).flatten)) :
    IsLevels pattern := by
  have each (c : Char) (letter : c ∈ ['a', 'b']) :
      ∀ part ∈ fields '/' pattern, StarMatches part [c] := by
    have found := matched c letter
    rw [GlobMatches, fields_deep, PartsMatch.stars_iff,
      fields_append_replicate _ (by rintro rfl; revert letter; decide)] at found
    obtain ⟨skipped, rest, parts, found⟩ := found
    rw [PartsMatch.forall₂_iff none] at found
    have same := found.length_eq
    obtain ⟨-, rfl⟩ := List.append_inj' parts (by rw [List.length_replicate, same])
    intro part member
    obtain ⟨index, inside, rfl⟩ := List.getElem_of_mem member
    have holds := (List.forall₂_iff_get.1 found).2 index inside (by rwa [← same])
    simpa using holds
  intro part member
  have first := each 'a' (by decide) part member
  have second := each 'b' (by decide) part member
  refine ⟨?_, ?_, fun c inside => ?_⟩
  · rintro rfl
    cases first
  · rintro rfl
    exact none member
  · by_contra other
    have a := Nat.lt_of_lt_of_le (List.count_pos_iff.2 inside) (first.count_le other)
    have b := Nat.lt_of_lt_of_le (List.count_pos_iff.2 inside) (second.count_le other)
    rw [List.count_pos_iff, List.mem_singleton] at a b
    rw [a] at b
    contradiction

end Levels

end LectureDeck.Site
