import LectureDeck.Proofs.Site.Patterns
import LectureDeck.Site.Sources

/-!
# Patterns that are globs

Paths, endings of names and depths, in one directory or in any, and single names below a directory
are matched as globs are. All other patterns differ from the globs that they look like, each for
some path (`LectureDeck.Site.matchesPattern_iff_globMatches_iff`). If the patterns of a selection
have such forms, it selects files as globs (`LectureDeck.Site.Selection.selects_iff`).
-/

namespace LectureDeck.Site

open LectureDeck.Text

variable {farther : Prop} {pattern path directory ending : List Char}

section Endings

/-- A path is its last component behind the slash that ends the rest, if there is any. -/
theorem exists_eq_append_lastComponent (path : List Char) : ∃ front,
    path = front ++ lastComponent path ∧ '/' ∉ lastComponent path ∧
      (front = [] ∨ ∃ above, front = above ++ ['/']) := by
  obtain ⟨front, last, rfl, plain, ends⟩ := exists_lastField '/' path
  have same : lastComponent (front ++ last) = last := by
    rw [lastComponent, getLast?_fields plain ends, Option.getD_some]
  exact ⟨front, by rw [same], by rwa [same], ends⟩

/-- The name of a file is the last component of its path. -/
theorem lastComponent_append (plain : '/' ∉ path) (above : List Char) :
    lastComponent (above ++ '/' :: path) = path := by
  have last : (fields '/' (above ++ ['/'] ++ path)).getLast? = some path :=
    getLast?_fields plain (.inr ⟨above, rfl⟩)
  rw [List.append_assoc, List.singleton_append] at last
  rw [lastComponent, last, Option.getD_some]

/-- The last component stands at the end of a path. -/
theorem lastComponent_suffix (path : List Char) : lastComponent path <:+ path := by
  obtain ⟨front, whole, -⟩ := exists_eq_append_lastComponent path
  exact ⟨front, whole.symm⟩

/-- What is found is matched at the end of the path: the whole of it, or its last component. -/
theorem Finds.exists_suffix (found : Finds farther pattern path) : ∃ part, part <:+ path ∧
    matchesPattern pattern part = true ∧ (part = path ∨ farther ∧ '/' ∉ part) := by
  rcases found with matched | ⟨chosen, -, matched⟩
  · exact ⟨path, List.suffix_refl path, matched, .inl rfl⟩
  · obtain ⟨-, -, plain, -⟩ := exists_eq_append_lastComponent path
    exact ⟨_, lastComponent_suffix path, matched, .inr ⟨chosen, plain⟩⟩

end Endings

section Tails

/-- A pattern that is found in any directory as a glob is. If it may be found `farther` below, it is
tried on the last component of a path, too. -/
inductive IsTail (farther : Prop) : List Char → Prop where
  /-- All files. -/
  | all : IsTail farther twoStars
  /-- Files of some depth, or more. -/
  | levels {pattern : List Char} (levels : IsLevels pattern) : IsTail farther pattern
  /-- What is found in any directory, in any directory. -/
  | deep {pattern : List Char} (other : ¬['*', '.'] <+: pattern) (tail : IsTail farther pattern) :
      IsTail farther (deep pattern)
  /-- Files with an ending. -/
  | ending {ending : List Char} (plain : '*' ∉ ending) :
      IsTail farther (Site.deep ('*' :: '.' :: ending))
  /-- Files with a name. -/
  | name {pattern : List Char} (chosen : farther) (plain : '*' ∉ pattern) (single : '/' ∉ pattern) :
      IsTail farther pattern
  /-- Files whose names have an ending. -/
  | nameEnding {ending : List Char} (chosen : farther) (plain : '*' ∉ ending)
      (single : '/' ∉ ending) : IsTail farther ('*' :: '.' :: ending)

/-- A pattern without stars matches itself alone. -/
theorem matchesPattern_plain (plain : '*' ∉ pattern) :
    matchesPattern pattern path = true ↔ path = pattern := by
  cases isRead pattern with
  | ending => exact absurd List.mem_cons_self plain
  | deep => exact absurd List.mem_cons_self plain
  | below => exact absurd (by simp) plain
  | between => exact absurd (by simp [deep]) plain
  | name _ _ reads => rw [reads, matchesName_plain plain]

/-- Two stars match every path. -/
theorem matchesPattern_twoStars (path : List Char) : matchesPattern twoStars path = true :=
  matchesPattern_of_not_deep (by decide)

/-- As a glob, two stars match every path as well. -/
theorem globMatches_twoStars (path : List Char) : GlobMatches twoStars path := by
  have matched := PartsMatch.stars (fields '/' path) .nil
  rwa [List.append_nil] at matched

/-- An ending matches the names that end so, in no directory. -/
theorem matchesPattern_ending (plain : '*' ∉ ending) :
    matchesPattern ('*' :: '.' :: ending) path = true ↔ '/' ∉ path ∧ '.' :: ending <:+ path := by
  have few : ('*' :: '.' :: ending).count '*' = 1 := by
    simp [List.count_eq_zero.2 plain]
  generalize whole : '*' :: '.' :: ending = pattern at few
  cases isRead pattern with
  | ending => exact absurd (List.cons.inj (List.cons.inj whole).2).1 (by decide)
  | deep => exact absurd (List.cons.inj (List.cons.inj whole).2).1 (by decide)
  | below =>
    rw [List.count_append] at few
    exact absurd few (by simp)
  | between =>
    rw [List.count_append] at few
    simp only [deep, List.count_cons_self, List.count_cons] at few
    omega
  | name _ _ reads => rw [reads, ← whole, matchesName_ending]

/-- An ending without a slash is matched as a glob is. -/
theorem matchesPattern_ending_iff (plain : '*' ∉ ending) (single : '/' ∉ ending) :
    matchesPattern ('*' :: '.' :: ending) path = true ↔
      GlobMatches ('*' :: '.' :: ending) path := by
  rw [matchesPattern_ending plain, globMatches_ending_iff plain]
  constructor
  · rintro ⟨inside, name, rfl⟩
    exact ⟨name, fun member => inside (List.mem_append_left _ member), rfl⟩
  · rintro ⟨name, inside, rfl⟩
    exact ⟨by simpa [inside] using single, List.suffix_append name _⟩

/-- Levels need components to match. -/
theorem IsLevels.not_partsMatch_nil (levels : IsLevels pattern) :
    ¬PartsMatch (fields '/' pattern) [] := by
  obtain ⟨first, member⟩ := List.exists_mem_of_ne_nil _ (fields_ne_nil '/' pattern)
  exact fun matched => (levels first member).2.1 (matched.eq_twoStars_of_nil first member)

/-- Levels are counted by the slashes. -/
theorem matchesPattern_levels (levels : IsLevels pattern) :
    matchesPattern pattern path = true ↔ pattern.count '/' ≤ path.count '/' := by
  have reads : matchesPattern pattern path = matchesName pattern path := by
    cases isRead pattern with
    | ending ending => exact absurd (fields_deep _ ▸ List.mem_cons_self) levels.not_mem
    | deep rest => exact absurd (fields_deep _ ▸ List.mem_cons_self) levels.not_mem
    | below directory =>
      refine absurd ?_ levels.not_mem
      rw [fields_append_cons]
      exact List.mem_append_right _ (by decide)
    | between directory rest =>
      refine absurd ?_ levels.not_mem
      rw [fields_append_cons, fields_deep]
      exact List.mem_append_right _ List.mem_cons_self
    | name _ _ reads => exact reads path
  have starred : '*' ∈ pattern := by
    obtain ⟨first, member⟩ := List.exists_mem_of_ne_nil _ (fields_ne_nil '/' pattern)
    obtain ⟨some, -, stars⟩ := levels first member
    obtain ⟨c, rest, rfl⟩ := List.exists_cons_of_ne_nil some
    exact mem_of_mem_fields member (stars c List.mem_cons_self ▸ List.mem_cons_self)
  have other : ¬['*', '.'] <+: pattern := by
    intro start
    have dot : '.' ∈ pattern := start.subset (by decide)
    rw [← intercalate_fields '/' pattern] at dot
    refine not_mem_intercalate (by decide) (fun part member inside => ?_) dot
    exact absurd ((levels part member).2.2 '.' inside) (by decide)
  rw [reads, matchesName_starred starred other]
  constructor
  · intro matched
    have counted := matched.count_le (c := '/') (by decide)
    simpa using counted
  · intro enough
    have found : GlobMatches (deep pattern) path := (globMatches_deep_levels_iff levels).2 enough
    obtain ⟨front, inner, rfl, -, matched⟩ :=
      (globMatches_deep_iff levels.not_partsMatch_nil).1 found
    refine .star front ?_
    rw [← List.append_nil inner]
    exact (matched.starMatches levels.not_mem).append (.star [] .nil)

/-- A pattern that exactly matches single components is found wherever it matches the last. -/
theorem finds_iff_of_single (some : ¬PartsMatch (fields '/' pattern) [])
    (exactly : ∀ path, matchesPattern pattern path = true ↔ GlobMatches pattern path)
    (single : ∀ path, GlobMatches pattern path → '/' ∉ path) (chosen : farther) :
    Finds farther pattern path ↔ GlobMatches (deep pattern) path := by
  rw [globMatches_deep_iff some]
  constructor
  · rintro (matched | ⟨-, -, matched⟩)
    · exact ⟨[], path, rfl, .inl rfl, (exactly path).1 matched⟩
    · obtain ⟨front, whole, -, ends⟩ := exists_eq_append_lastComponent path
      exact ⟨front, _, whole, ends, (exactly _).1 matched⟩
  · rintro ⟨front, inner, rfl, ends, matched⟩
    rcases ends with rfl | ⟨above, rfl⟩
    · exact .inl ((exactly inner).2 matched)
    · rw [List.append_assoc, List.singleton_append]
      refine .inr ⟨chosen, by simp, ?_⟩
      rw [lastComponent_append (single inner matched)]
      exact (exactly inner).2 matched

/-- What is found by such a pattern is what it matches as a glob in any directory. -/
theorem IsTail.finds_iff (tail : IsTail farther pattern) :
    Finds farther pattern path ↔ GlobMatches (Site.deep pattern) path := by
  induction tail with
  | all =>
    refine iff_of_true (.inl (matchesPattern_twoStars path)) ?_
    rw [← List.nil_append path]
    exact (globMatches_twoStars path).deep (.inl rfl)
  | levels levels =>
    rw [globMatches_deep_levels_iff levels, Finds, matchesPattern_levels levels,
      matchesPattern_levels levels]
    refine or_iff_left_of_imp fun found => Nat.le_trans found.2.2 ?_
    exact (lastComponent_suffix path).sublist.count_le _
  | deep other _ later =>
    rw [globMatches_deep_deep_iff, ← later, Finds, matchesPattern_deep other,
      matchesPattern_deep other, Finds]
  | ending plain =>
    rw [globMatches_deep_deep_iff, globMatches_deep_ending_iff plain, Finds,
      matchesPattern_deep_ending, matchesPattern_deep_ending, hasExtension, hasExtension,
      List.isSuffixOf_iff_suffix, List.isSuffixOf_iff_suffix]
    exact or_iff_left_of_imp fun found => found.2.2.trans (lastComponent_suffix path)
  | name chosen plain single =>
    refine finds_iff_of_single (not_partsMatch_plain plain) (fun path => ?_)
      (fun path matched => ?_) chosen
    · rw [matchesPattern_plain plain, globMatches_plain_iff plain]
    · rwa [(globMatches_plain_iff plain).1 matched]
  | nameEnding chosen plain single =>
    refine finds_iff_of_single (not_partsMatch_ending plain)
      (fun path => matchesPattern_ending_iff plain single) (fun path matched => ?_) chosen
    obtain ⟨name, inside, rfl⟩ := (globMatches_ending_iff plain).1 matched
    simpa [inside] using single

end Tails

section Others

/-- A pattern without its stars is matched in any directory. So what is found as globs match has no
star in it, whatever the pattern is. -/
theorem exists_matchesPattern_unstarred
    (agrees : ∀ path, Finds farther pattern path ↔ GlobMatches (deep pattern) path) :
    ∃ part, '*' ∉ part ∧ matchesPattern pattern part = true := by
  have found := (agrees (unstarred pattern)).2 ((GlobMatches.unstarred pattern).deep (.inl rfl))
  obtain ⟨part, ends, matched, -⟩ := found.exists_suffix
  exact ⟨part, fun member => not_mem_unstarred pattern (ends.subset member), matched⟩

/-- A path that begins with a letter more than a directory has is not below the directory. -/
theorem not_prefix_replicate (directory rest : List Char) :
    ¬directory ++ ['/'] <+: List.replicate (directory.length + 1) 'a' ++ rest := by
  intro start
  have inside := List.prefix_of_prefix_length_le start (List.prefix_append _ rest) (by simp)
  have slash : '/' ∈ List.replicate (directory.length + 1) 'a' := inside.subset (by simp)
  exact absurd (List.eq_of_mem_replicate slash) (by decide)

/-- What is to be found in any directory does not begin with one. -/
theorem not_forall_below (directory : List Char)
    (agrees : ∀ path, Finds farther pattern path ↔ GlobMatches (deep pattern) path) :
    ¬∀ path, matchesPattern pattern path = true → directory ++ ['/'] <+: path := by
  intro starts
  have found := (agrees (List.replicate (directory.length + 1) 'a' ++ ['/'] ++ unstarred pattern)).2
    ((GlobMatches.unstarred pattern).deep (.inr ⟨_, rfl⟩))
  obtain ⟨part, -, matched, rfl | ⟨-, plain⟩⟩ := found.exists_suffix
  · have start := starts _ matched
    rw [List.append_assoc] at start
    exact not_prefix_replicate directory _ start
  · exact plain ((starts part matched).subset (by simp))

/-- Of the patterns that are matched as names, those are found that have only stars, or none. -/
theorem isTail_of_matchesName (given : farther ∨ ¬['*', '.'] <+: pattern)
    (single : twoStars ∈ fields '/' pattern → pattern = twoStars)
    (reads : ∀ path, matchesPattern pattern path = matchesName pattern path)
    (agrees : ∀ path, Finds farther pattern path ↔ GlobMatches (deep pattern) path) :
    IsTail farther pattern := by
  by_cases start : ['*', '.'] <+: pattern
  · obtain ⟨ending, rfl⟩ := start
    have chosen := given.resolve_right (not_not_intro (List.prefix_append _ _))
    have plain : '*' ∉ ending := by
      obtain ⟨part, plain, matched⟩ := exists_matchesPattern_unstarred agrees
      have ends := (matchesName_ending.1 ((reads part).symm.trans matched)).2
      exact fun member => plain (ends.subset (List.mem_cons_of_mem _ member))
    have found := (agrees ('.' :: ending)).2
      ((globMatches_deep_ending_iff plain).2 (List.suffix_refl _))
    obtain ⟨part, -, matched, -⟩ := found.exists_suffix
    obtain ⟨inside, ends⟩ := matchesName_ending.1 ((reads part).symm.trans matched)
    exact .nameEnding chosen plain fun member =>
      inside (ends.subset (List.mem_cons_of_mem _ member))
  · by_cases starred : '*' ∈ pattern
    · by_cases all : pattern = twoStars
      · rw [all]
        exact .all
      · -- What follows a match may be anything, so that all components have to match any letter.
        have found (more : List Char) : GlobMatches (deep pattern) (unstarred pattern ++ more) := by
          refine (agrees _).1 (.inl ?_)
          rw [reads, matchesName_starred starred start]
          exact .star [] ((StarMatches.unstarred pattern).append
            (.of_stars (by simp) (List.cons_ne_nil _ _) _))
        exact .levels (isLevels_of_globMatches (mt single all) fun c _ => found _)
    · have below : GlobMatches (deep pattern) (['/'] ++ pattern) :=
        ((globMatches_plain_iff starred).2 rfl).deep (.inr ⟨[], rfl⟩)
      have found := (agrees ('/' :: pattern)).2 below
      rcases found with matched | ⟨chosen, -, matched⟩
      · have same := (matchesPattern_plain starred).1 matched
        exact absurd (congrArg List.length same) (by simp)
      · obtain ⟨-, -, inside, -⟩ := exists_eq_append_lastComponent ('/' :: pattern)
        rw [(matchesPattern_plain starred).1 matched] at inside
        exact .name chosen starred inside

/-- No other patterns are found as they match as globs. -/
theorem isTail_of_finds (given : farther ∨ ¬['*', '.'] <+: pattern)
    (agrees : ∀ path, Finds farther pattern path ↔ GlobMatches (deep pattern) path) :
    IsTail farther pattern := by
  induction size : pattern.length using Nat.strongRecOn generalizing pattern with
  | ind _ later => ?_
  cases isRead pattern with
  | ending ending =>
    obtain ⟨part, plain, matched⟩ := exists_matchesPattern_unstarred agrees
    rw [matchesPattern_deep_ending, hasExtension, List.isSuffixOf_iff_suffix] at matched
    exact .ending fun member => plain (matched.subset (List.mem_cons_of_mem _ member))
  | deep rest other =>
    refine .deep other (later rest.length ?_ (.inr other) ?_ rfl)
    · simp only [← size, Site.deep, List.length_cons]
      omega
    intro path
    rw [← globMatches_deep_deep_iff, ← agrees, Finds, Finds, matchesPattern_deep other,
      matchesPattern_deep other]
  | below directory reads =>
    refine absurd (fun path matched => ?_) (not_forall_below directory agrees)
    rwa [reads, List.isPrefixOf_iff_prefix] at matched
  | between directory rest _ reads =>
    refine absurd (fun path matched => ?_) (not_forall_below directory agrees)
    obtain ⟨inner, rfl, -⟩ := (reads path).1 matched
    exact ⟨inner, by simp⟩
  | name _ single reads => exact isTail_of_matchesName given single reads agrees

end Others

section Exact

/-- The forms of the patterns that match as globs. -/
inductive IsExact : List Char → Prop where
  /-- A path. -/
  | plain {pattern : List Char} (plain : '*' ∉ pattern) : IsExact pattern
  /-- Files whose names have an ending. -/
  | ending {ending : List Char} (plain : '*' ∉ ending) (single : '/' ∉ ending) :
      IsExact ('*' :: '.' :: ending)
  /-- All files. -/
  | all : IsExact twoStars
  /-- Files with an ending, in any directory. -/
  | deepEnding {ending : List Char} (plain : '*' ∉ ending) :
      IsExact (deep ('*' :: '.' :: ending))
  /-- All files, those of some depth, or those with an ending, in any directory. -/
  | deep {pattern : List Char} (other : ¬['*', '.'] <+: pattern) (tail : IsTail False pattern) :
      IsExact (deep pattern)
  /-- Files somewhere below a directory, but not all. -/
  | below {directory pattern : List Char} (plain : '*' ∉ directory)
      (closed : ¬['/', '*', '*'] <:+ directory ++ '/' :: Site.deep pattern)
      (tail : IsTail True pattern) : IsExact (directory ++ '/' :: Site.deep pattern)

/-- A pattern in any directory that does not end with two stars has a component to be matched. -/
theorem not_partsMatch_deep (closed : ¬['/', '*', '*'] <:+ directory ++ '/' :: deep pattern) :
    ¬PartsMatch (fields '/' (deep pattern)) [] := by
  intro matched
  obtain ⟨front, last, whole, plain, ends⟩ := exists_lastField '/' (deep pattern)
  have member : last ∈ fields '/' (deep pattern) :=
    List.mem_of_getLast? (whole ▸ getLast?_fields plain ends)
  rw [whole, matched.eq_twoStars_of_nil last member] at closed
  rcases ends with rfl | ⟨above, rfl⟩
  · exact closed ⟨directory, rfl⟩
  · exact closed ⟨directory ++ '/' :: above, by simp [twoStars]⟩

/-- Nothing is found farther below if nothing is looked for there. -/
theorem finds_false_iff : Finds False pattern path ↔ matchesPattern pattern path = true :=
  or_iff_left fun ⟨impossible, _⟩ => impossible

/-- An exact pattern matches as a glob does. -/
theorem IsExact.matchesPattern_iff (exact : IsExact pattern) :
    matchesPattern pattern path = true ↔ GlobMatches pattern path := by
  cases exact with
  | plain plain => rw [matchesPattern_plain plain, globMatches_plain_iff plain]
  | ending plain single => exact matchesPattern_ending_iff plain single
  | all => exact iff_of_true (matchesPattern_twoStars path) (globMatches_twoStars path)
  | deepEnding plain =>
    rw [matchesPattern_deep_ending, globMatches_deep_ending_iff plain, hasExtension,
      List.isSuffixOf_iff_suffix]
  | deep other tail => rw [matchesPattern_deep other, ← finds_false_iff, tail.finds_iff]
  | @below directory pattern plain closed tail =>
    have shallow : ¬['*', '*', '/'] <+: directory ++ '/' :: Site.deep pattern := by
      intro start
      cases directory with
      | nil => exact absurd (List.cons_prefix_cons.1 start).1 (by decide)
      | cons c directory => exact plain ((List.cons_prefix_cons.1 start).1 ▸ List.mem_cons_self)
    rw [matchesPattern_between shallow closed (cutAt?_plain plain pattern),
      globMatches_directory_iff plain (not_partsMatch_deep closed)]
    simp only [tail.finds_iff]

/-- A directory alone is matched by the pattern of what is in it, as a glob. -/
theorem GlobMatches.append_twoStars (matched : GlobMatches directory path) :
    GlobMatches (directory ++ '/' :: twoStars) path := by
  rw [GlobMatches, fields_append_cons, ← List.append_nil (fields '/' path)]
  exact matched.append (.stars [] .nil)

/-- A pattern that is read as a name is exact if it agrees with the glob. -/
theorem isExact_of_matchesName (single : twoStars ∈ fields '/' pattern → pattern = twoStars)
    (reads : ∀ path, matchesPattern pattern path = matchesName pattern path)
    (agrees : ∀ path, matchesPattern pattern path = true ↔ GlobMatches pattern path) :
    IsExact pattern := by
  have unstarred := GlobMatches.unstarred pattern
  by_cases start : ['*', '.'] <+: pattern
  · obtain ⟨ending, rfl⟩ := start
    have plain : '*' ∉ ending := by
      have matched := (agrees _).2 unstarred
      rw [reads] at matched
      have ends := (matchesName_ending.1 matched).2
      exact fun member => not_mem_unstarred _ (ends.subset (List.mem_cons_of_mem _ member))
    have matched := (agrees _).2 ((globMatches_ending_iff plain).2 ⟨[], List.not_mem_nil, rfl⟩)
    rw [reads] at matched
    have inside := (matchesName_ending.1 matched).1
    exact .ending plain fun member => inside (List.mem_cons_of_mem _ member)
  · by_cases starred : '*' ∈ pattern
    · by_cases all : pattern = twoStars
      · rw [all]
        exact .all
      · -- What follows a match may be anything, also in more components than the pattern has.
        have longer : GlobMatches pattern (Site.unstarred pattern ++ ['/']) := by
          rw [← agrees, reads, matchesName_starred starred start]
          exact .star [] ((StarMatches.unstarred pattern).append
            (.of_stars (by simp) (List.cons_ne_nil _ _) _))
        rw [GlobMatches, PartsMatch.forall₂_iff (mt single all)] at unstarred longer
        have same := longer.length_eq.symm.trans unstarred.length_eq
        rw [length_fields, length_fields, List.count_append] at same
        exact absurd same (by simp)
    · exact .plain starred

/-- **Patterns as globs.** A pattern matches just the paths that it matches as a glob if and only if
it has one of a few forms. -/
theorem matchesPattern_iff_globMatches_iff :
    (∀ path, matchesPattern pattern path = true ↔ GlobMatches pattern path) ↔ IsExact pattern := by
  refine ⟨fun agrees => ?_, fun exact path => exact.matchesPattern_iff⟩
  have unstarred := (agrees _).2 (GlobMatches.unstarred pattern)
  cases isRead pattern with
  | ending ending =>
    rw [matchesPattern_deep_ending, hasExtension, List.isSuffixOf_iff_suffix] at unstarred
    exact .deepEnding fun member =>
      not_mem_unstarred _ (unstarred.subset (List.mem_cons_of_mem _ member))
  | deep rest other =>
    refine .deep other (isTail_of_finds (.inr other) fun path => ?_)
    rw [← agrees, finds_false_iff, matchesPattern_deep other]
  | below directory reads =>
    have matched := (agrees _).2 (GlobMatches.unstarred directory).append_twoStars
    rw [reads, List.isPrefixOf_iff_prefix] at matched
    have shorter := List.length_filter_le (· != '*') directory
    have longer := matched.length_le
    rw [List.length_append, Site.unstarred] at longer
    exact absurd (Nat.le_trans longer shorter) (by simp)
  | between directory rest closed reads =>
    have plain : '*' ∉ directory := by
      obtain ⟨inner, same, -⟩ := (reads _).1 unstarred
      have none := not_mem_unstarred (directory ++ '/' :: Site.deep rest)
      rw [same] at none
      exact fun member => none (List.mem_append_left _ member)
    refine .below plain closed (isTail_of_finds (.inl trivial) fun inner => ?_)
    have whole := agrees (directory ++ '/' :: inner)
    rw [reads, globMatches_directory_iff plain (not_partsMatch_deep closed)] at whole
    simpa using whole
  | name _ single reads => exact isExact_of_matchesName single reads agrees

/-- A file in a directory is not found by its name, and one is by a name that is not its own. -/
theorem exists_not_globMatches :
    (GlobMatches "**/README.md".toList "sub/README.md".toList ∧
      ¬matchesPattern "**/README.md".toList "sub/README.md".toList = true) ∧
    matchesPattern "lecture*.md".toList "lecture/drafts/x.md".toList = true ∧
      ¬GlobMatches "lecture*.md".toList "lecture/drafts/x.md".toList := by
  refine ⟨⟨?_, ?_⟩, ?_, ?_⟩
  · have matched : GlobMatches "README.md".toList "README.md".toList :=
      (globMatches_plain_iff (by decide)).2 rfl
    have below : GlobMatches (deep "README.md".toList) ("sub/".toList ++ "README.md".toList) :=
      matched.deep (.inr ⟨"sub".toList, rfl⟩)
    exact below
  · intro matched
    rw [show "**/README.md".toList = deep "README.md".toList from rfl,
      matchesPattern_deep (by decide), matchesPattern_plain (by decide)] at matched
    contradiction
  · exact matchesPattern_of_not_deep (by decide)
  · intro matched
    rw [GlobMatches, PartsMatch.forall₂_iff (by decide)] at matched
    exact absurd matched.length_eq (by decide)

end Exact

namespace Selection

variable {selection : Selection} {path : String}

/-- A path is matched as a glob by one of some patterns. -/
def GlobMatchesAny (patterns : List String) (path : String) : Prop :=
  ∃ pattern ∈ patterns, GlobMatches (withSlashes pattern.toList) (withSlashes path.toList)

/-- Exact patterns match together as globs do. -/
theorem matchesAny_iff {patterns : List String}
    (exact : ∀ pattern ∈ patterns, IsExact (withSlashes pattern.toList)) :
    matchesAny patterns path = true ↔ GlobMatchesAny patterns path := by
  rw [matchesAny, List.any_eq_true]
  refine exists_congr fun pattern => and_congr_right fun member => ?_
  exact (exact pattern member).matchesPattern_iff

/-- Patterns of such forms select the files that they match as globs. -/
theorem selects_iff
    (exact : ∀ pattern ∈ selection.included ++ selection.excluded,
      IsExact (withSlashes pattern.toList)) :
    selection.selects path = true ↔
      (selection.included = [] ∨ GlobMatchesAny selection.included path) ∧
        ¬GlobMatchesAny selection.excluded path := by
  obtain ⟨included, excluded⟩ := List.forall_mem_append.1 exact
  rw [selects, Bool.and_eq_true, Bool.or_eq_true, matchesAny_iff included, List.isEmpty_iff,
    Bool.not_eq_true', ← Bool.not_eq_true, matchesAny_iff excluded]

end Selection

end LectureDeck.Site
