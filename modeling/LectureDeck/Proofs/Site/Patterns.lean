import LectureDeck.Proofs.Site.Globs
import LectureDeck.Site.Sources

/-!
# How patterns are read

A pattern is read by what stands at its start, at its end or in the middle
(`LectureDeck.Site.isRead`). If it is matched as a name and has stars, they stand for any
characters, and so do its start and its end (`LectureDeck.Site.matchesName_starred`).
-/

namespace LectureDeck.Site

open LectureDeck.Text

section Forms

variable {pattern path directory ending rest : List Char}

theorem before?_eq_some_iff {cs : List Char} :
    before? ending cs = some rest ↔ cs = rest ++ ending := by
  rw [before?, Option.map_eq_some_iff]
  constructor
  · rintro ⟨back, found, rfl⟩
    rw [after?_eq_some_iff] at found
    rw [← List.reverse_reverse cs, found, List.reverse_append, List.reverse_reverse]
  · rintro rfl
    exact ⟨rest.reverse, by rw [after?_eq_some_iff, List.reverse_append], List.reverse_reverse rest⟩

theorem before?_eq_none {cs : List Char} (other : ¬ending <:+ cs) : before? ending cs = none := by
  rw [Option.eq_none_iff_forall_ne_some]
  exact fun rest found => other ⟨rest, (before?_eq_some_iff.1 found).symm⟩

theorem matchesPattern_deep_ending :
    matchesPattern (deep ('*' :: '.' :: ending)) path = hasExtension ending path := by
  have found : after? "**/*.".toList (deep ('*' :: '.' :: ending)) = some ending :=
    after?_eq_some_iff.2 rfl
  rw [matchesPattern, found]

theorem matchesPattern_deep (other : ¬['*', '.'] <+: rest) :
    matchesPattern (deep rest) path = matchesPattern rest path := by
  have none : after? "**/*.".toList (deep rest) = none := by
    rw [after?_eq_none_iff]
    simpa [deep] using other
  have found : after? "**/".toList (deep rest) = some rest := after?_eq_some_iff.2 rfl
  rw [matchesPattern, none]
  dsimp only
  split
  · rename_i same
    rw [found] at same
    cases same
    rfl
  · rename_i other
    rw [found] at other
    contradiction

/-- A pattern that does not begin with two stars and a slash is looked through. -/
theorem matchesPattern_of_not_deep (shallow : ¬['*', '*', '/'] <+: pattern) :
    matchesPattern pattern path =
      match before? ['/', '*', '*'] pattern with
      | some directory => (directory ++ ['/']).isPrefixOf path
      | none =>
        match cutAt? ['/', '*', '*', '/'] pattern with
        | some (directory, rest) =>
          match after? (directory ++ ['/']) path with
          | some inner =>
            matchesPattern rest inner ||
              inner.contains '/' && matchesPattern rest (lastComponent inner)
          | none => false
        | none => matchesName pattern path := by
  have first : after? "**/*.".toList pattern = none := by
    rw [after?_eq_none_iff]
    exact fun start => shallow (.trans (by decide) start)
  have second : after? "**/".toList pattern = none := after?_eq_none_iff.2 shallow
  rw [matchesPattern, first]
  dsimp only
  split
  · rename_i same
    rw [second] at same
    contradiction
  · split
    · rename_i found
      rw [show before? ['/', '*', '*'] pattern = some _ from found]
    · rename_i none
      rw [show before? ['/', '*', '*'] pattern = Option.none from none]
      split
      · rename_i directory rest found
        cases inside : after? (directory ++ ['/']) path <;>
          simp only [show cutAt? ['/', '*', '*', '/'] pattern = some _ from found, inside]
      · rename_i none
        rw [show cutAt? ['/', '*', '*', '/'] pattern = Option.none from none]

/-- Something is matched by a pattern below a directory, or a file that is farther below. -/
def Finds (farther : Prop) (pattern path : List Char) : Prop :=
  matchesPattern pattern path = true ∨
    farther ∧ '/' ∈ path ∧ matchesPattern pattern (lastComponent path) = true

theorem matchesPattern_between (shallow : ¬['*', '*', '/'] <+: pattern)
    (closed : ¬['/', '*', '*'] <:+ pattern)
    (cuts : cutAt? ['/', '*', '*', '/'] pattern = some (directory, rest)) :
    matchesPattern pattern path = true ↔
      ∃ inner, path = directory ++ '/' :: inner ∧ Finds True rest inner := by
  rw [matchesPattern_of_not_deep shallow, before?_eq_none closed]
  dsimp only
  rw [cuts]
  dsimp only
  constructor
  · intro matched
    split at matched
    · rename_i inner found
      rw [after?_eq_some_iff, List.append_assoc, List.singleton_append] at found
      refine ⟨inner, found, ?_⟩
      simpa [Finds] using matched
    · contradiction
  · rintro ⟨inner, rfl, found⟩
    have after : after? (directory ++ ['/']) (directory ++ '/' :: inner) = some inner :=
      after?_eq_some_iff.2 (by simp)
    rw [after]
    simpa [Finds] using found

theorem cutAt?_plain (plain : '*' ∉ directory) (rest : List Char) :
    cutAt? ['/', '*', '*', '/'] (directory ++ '/' :: deep rest) = some (directory, rest) := by
  induction directory with
  | nil => rfl
  | cons c directory later =>
    obtain ⟨other, plain⟩ := not_or.1 (List.mem_cons.not.1 plain)
    have none : after? ['/', '*', '*', '/'] (c :: (directory ++ '/' :: deep rest)) = none := by
      rw [after?_eq_none_iff]
      intro start
      have inner := (List.cons_prefix_cons.1 start).2
      cases directory with
      | nil => exact absurd (List.cons_prefix_cons.1 inner).1 (by decide)
      | cons d directory =>
        rw [(List.cons_prefix_cons.1 inner).1] at plain
        exact plain List.mem_cons_self
    rw [List.cons_append, cutAt?, none]
    dsimp only
    rw [later plain]
    rfl

/-- Where a component of two stars stands in a pattern. -/
theorem mem_fields_twoStars (member : twoStars ∈ fields '/' pattern) :
    pattern = twoStars ∨ ['*', '*', '/'] <+: pattern ∨ ['/', '*', '*'] <:+ pattern ∨
      ['/', '*', '*', '/'] <:+: pattern := by
  obtain ⟨front, back, rfl, ends, starts⟩ := exists_of_mem_fields member
  rcases ends with rfl | ⟨above, rfl⟩
  · rcases starts with rfl | ⟨more, rfl⟩
    · exact .inl (by simp)
    · exact .inr (.inl ⟨more, by simp [twoStars]⟩)
  · rcases starts with rfl | ⟨more, rfl⟩
    · exact .inr (.inr (.inl ⟨above, by simp [twoStars]⟩))
    · exact .inr (.inr (.inr ⟨above, more, by simp [twoStars]⟩))

/-- How a pattern is read. -/
inductive IsRead : List Char → Prop where
  | ending (ending : List Char) : IsRead (deep ('*' :: '.' :: ending))
  | deep (rest : List Char) (other : ¬['*', '.'] <+: rest) : IsRead (deep rest)
  | below (directory : List Char)
      (reads : ∀ path, matchesPattern (directory ++ ['/', '*', '*']) path =
        (directory ++ ['/']).isPrefixOf path) : IsRead (directory ++ ['/', '*', '*'])
  | between (directory rest : List Char)
      (closed : ¬['/', '*', '*'] <:+ directory ++ '/' :: Site.deep rest)
      (reads : ∀ path, matchesPattern (directory ++ '/' :: Site.deep rest) path = true ↔
        ∃ inner, path = directory ++ '/' :: inner ∧ Finds True rest inner) :
      IsRead (directory ++ '/' :: Site.deep rest)
  | name (pattern : List Char) (single : twoStars ∈ fields '/' pattern → pattern = twoStars)
      (reads : ∀ path, matchesPattern pattern path = matchesName pattern path) : IsRead pattern

theorem isRead (pattern : List Char) : IsRead pattern := by
  by_cases start : ['*', '*', '/'] <+: pattern
  · obtain ⟨rest, rfl⟩ := start
    by_cases inner : ['*', '.'] <+: rest
    · obtain ⟨ending, rfl⟩ := inner
      exact .ending ending
    · exact .deep rest inner
  · by_cases stop : ['/', '*', '*'] <:+ pattern
    · obtain ⟨directory, rfl⟩ := stop
      refine .below directory fun path => ?_
      rw [matchesPattern_of_not_deep start, before?_eq_some_iff.2 rfl]
    · cases middle : cutAt? ['/', '*', '*', '/'] pattern with
      | some parts =>
        obtain ⟨directory, rest⟩ := parts
        obtain rfl : pattern = directory ++ '/' :: deep rest := by
          rw [eq_of_cutAt?_eq_some middle, List.append_assoc]
          rfl
        exact .between directory rest stop fun path => matchesPattern_between start stop middle
      | none =>
        rw [cutAt?_eq_none_iff] at middle
        refine .name pattern (fun member => ?_) fun path => ?_
        · exact (mem_fields_twoStars member).resolve_right fun found =>
            found.elim start fun found => found.elim stop middle
        · rw [matchesPattern_of_not_deep start, before?_eq_none stop]
          dsimp only
          rw [cutAt?_eq_none_iff.2 middle]

end Forms

section Names

variable {pattern path ending : List Char} {parts : List (List Char)}

theorem occurInOrder_append (inOrder : occurInOrder parts path = true) (before : List Char) :
    occurInOrder parts (before ++ path) = true := by
  induction parts generalizing before path with
  | nil => rfl
  | cons part parts later =>
    unfold occurInOrder at inOrder
    split at inOrder
    · rename_i front rest found
      obtain ⟨first, between, again⟩ := exists_cutAt?_append part (before ++ front) rest
      rw [eq_of_cutAt?_eq_some found, occurInOrder, List.append_assoc front, ← List.append_assoc,
        ← List.append_assoc, again]
      exact later inOrder between
    · contradiction

/-- Texts occur in order just if the first occurs, and the others after it. It does not matter where
the first is found. -/
theorem occurInOrder_cons_iff {part : List Char} : occurInOrder (part :: parts) path = true ↔
    ∃ before rest, path = before ++ part ++ rest ∧ occurInOrder parts rest = true := by
  constructor
  · intro inOrder
    unfold occurInOrder at inOrder
    split at inOrder
    · rename_i front rest found
      exact ⟨front, rest, eq_of_cutAt?_eq_some found, inOrder⟩
    · contradiction
  · rintro ⟨before, rest, rfl, inOrder⟩
    obtain ⟨front, between, found⟩ := exists_cutAt?_append part before rest
    rw [occurInOrder, found]
    exact occurInOrder_append inOrder between

/-- Texts occur in order just if they are matched with stars around each. -/
theorem occurInOrder_iff (plain : ∀ part ∈ parts, '*' ∉ part) :
    occurInOrder (parts.filter fun part => !part.isEmpty) path = true ↔
      StarMatches ('*' :: parts.flatMap (· ++ ['*'])) path := by
  induction parts generalizing path with
  | nil =>
    refine iff_of_true rfl ?_
    exact .of_stars (by simp) (List.cons_ne_nil _ _) path
  | cons part parts later =>
    obtain ⟨first, others⟩ := List.forall_mem_cons.1 plain
    have step : StarMatches ('*' :: (part :: parts).flatMap (· ++ ['*'])) path ↔
        ∃ before rest, path = before ++ part ++ rest ∧
          StarMatches ('*' :: parts.flatMap (· ++ ['*'])) rest := by
      rw [List.flatMap_cons, List.append_assoc, StarMatches.star_iff]
      constructor
      · rintro ⟨before, rest, rfl, matched⟩
        obtain ⟨rest, rfl, remains⟩ := (StarMatches.plain_append_iff first).1 matched
        exact ⟨before, rest, (List.append_assoc _ _ _).symm, remains⟩
      · rintro ⟨before, rest, rfl, matched⟩
        exact ⟨before, part ++ rest, List.append_assoc _ _ _,
          (StarMatches.plain_append_iff first).2 ⟨rest, rfl, matched⟩⟩
    rw [step]
    by_cases empty : part = []
    · subst empty
      rw [List.filter_cons_of_neg (by simp)]
      constructor
      · exact fun inOrder => ⟨[], path, rfl, (later others).1 inOrder⟩
      · rintro ⟨before, rest, rfl, matched⟩
        rw [List.append_nil]
        exact occurInOrder_append ((later others).2 matched) before
    · rw [List.filter_cons_of_pos (by simpa using empty), occurInOrder_cons_iff]
      simp only [later others]

theorem matchesName_ending : matchesName ('*' :: '.' :: ending) path = true ↔
    '/' ∉ path ∧ '.' :: ending <:+ path := by
  have found : after? "*.".toList ('*' :: '.' :: ending) = some ending := after?_eq_some_iff.2 rfl
  rw [matchesName, found]
  simp [hasExtension]

theorem matchesName_plain (plain : '*' ∉ pattern) :
    matchesName pattern path = true ↔ path = pattern := by
  have none : after? "*.".toList pattern = none :=
    after?_eq_none_iff.2 fun start => plain (start.subset List.mem_cons_self)
  rw [matchesName, none]
  simp [plain]

/-- Stars in a name are as if there were more of them around it, and they stand for slashes, too. -/
theorem matchesName_starred (starred : '*' ∈ pattern) (other : ¬['*', '.'] <+: pattern) :
    matchesName pattern path = true ↔ StarMatches ('*' :: (pattern ++ ['*'])) path := by
  have none : after? "*.".toList pattern = none := after?_eq_none_iff.2 other
  have plain : ∀ part ∈ fields '*' pattern, '*' ∉ part := fun part => not_mem_of_mem_fields
  rw [matchesName, none, ← flatMap_fields, ← occurInOrder_iff plain]
  simp [starred]

end Names

end LectureDeck.Site
