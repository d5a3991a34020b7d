import LectureDeck.Markup.Inline.Rules
import LectureDeck.Proofs.Outline.Comments
import LectureDeck.Proofs.Text.Fields

/-!
# Code between runs of backquotes

A run of backquotes at the start of a text is closed by the first later run of the same length,
whatever runs of other lengths stand before that one. What stands between the two runs is code, and
where no run closes it there is none (`LectureDeck.Inline.readsCode`).
-/

namespace LectureDeck.Inline

open LectureDeck.Text

/-- A text of backquotes only. -/
def backquotes (size : Nat) : List Char := List.replicate size '\x60'

/-- A run of backquotes stands in a text after `before` and before `after`. It is maximal: there is
no backquote next to it. -/
structure IsRun (text before : List Char) (size : Nat) (after : List Char) : Prop where
  whole : text = before ++ backquotes size ++ after
  positive : 0 < size
  starts : before.getLast? ≠ some '\x60'
  ends : after.head? ≠ some '\x60'

/-- A run that stands before all others of its length. -/
structure IsFirstRun (text before : List Char) (size : Nat) (after : List Char) : Prop extends
    IsRun text before size after where
  least : ∀ earlier rest, IsRun text earlier size rest → before.length ≤ earlier.length

section Runs

variable {text before after start rest : List Char} {size count : Nat}

theorem mem_backquotes {c : Char} : c ∈ backquotes size ↔ size ≠ 0 ∧ c = '\x60' :=
  List.mem_replicate

theorem backquotes_ne_nil (positive : 0 < size) : backquotes size ≠ [] := fun none =>
  Nat.ne_of_gt positive ((List.replicate_eq_nil_iff _).1 none)

/-- No run of backquotes is longer than another one at the same place. -/
theorem backquotes_append_inj (ends : after.head? ≠ some '\x60') (stops : rest.head? ≠ some '\x60')
    (same : backquotes size ++ after = backquotes count ++ rest) : size = count ∧ after = rest := by
  induction size generalizing count with
  | zero =>
    cases count with
    | zero => exact ⟨rfl, same⟩
    | succ count =>
      rw [show after = backquotes (count + 1) ++ rest from same] at ends
      exact absurd rfl ends
  | succ size later =>
    cases count with
    | zero =>
      rw [← show backquotes (size + 1) ++ after = rest from same] at stops
      exact absurd rfl stops
    | succ count =>
      obtain ⟨sizes, ends⟩ := later (List.cons.inj same).2
      exact ⟨congrArg (· + 1) sizes, ends⟩

theorem IsRun.mem (run : IsRun text before size after) : '\x60' ∈ text := by
  rw [run.whole, List.mem_append, List.mem_append]
  exact .inl (.inr (mem_backquotes.2 ⟨Nat.ne_of_gt run.positive, rfl⟩))

/-- A text that does not begin with a backquote does not begin with a run. -/
theorem IsRun.before_ne_nil (run : IsRun text before size after)
    (stops : text.head? ≠ some '\x60') : before ≠ [] := by
  rintro rfl
  obtain ⟨more, same⟩ := Nat.exists_eq_succ_of_ne_zero (Nat.ne_of_gt run.positive)
  rw [run.whole, same] at stops
  exact stops rfl

/-- A run stays one behind a text whose last character is no backquote next to it. -/
theorem IsRun.append (run : IsRun rest before size after)
    (apart : start.getLast? ≠ some '\x60' ∨ before ≠ []) :
    IsRun (start ++ rest) (start ++ before) size after where
  whole := by simp only [run.whole, List.append_assoc]
  positive := run.positive
  starts := by
    rw [List.getLast?_append]
    cases before with
    | nil => simpa using apart
    | cons c before => simpa [List.getLast?_cons] using run.starts
  ends := run.ends

theorem IsRun.of_append (run : IsRun (start ++ rest) (start ++ before) size after) :
    IsRun rest before size after where
  whole := List.append_cancel_left (run.whole.trans (by simp only [List.append_assoc]))
  positive := run.positive
  starts := fun last => run.starts (by rw [List.getLast?_append, last, Option.some_or])
  ends := run.ends

/-- Before its first backquote, a text has no run. -/
theorem isRun_append_iff (free : '\x60' ∉ start) :
    IsRun (start ++ rest) before size after ↔
      ∃ later, before = start ++ later ∧ IsRun rest later size after := by
  constructor
  · intro run
    obtain ⟨more, sizes⟩ := Nat.exists_eq_succ_of_ne_zero (Nat.ne_of_gt run.positive)
    have whole : start ++ rest = before ++ '\x60' :: (backquotes more ++ after) := by
      rw [run.whole, sizes, List.append_assoc]
      rfl
    obtain ⟨later, rfl, -⟩ := exists_append_of_not_mem free whole
    exact ⟨later, rfl, run.of_append⟩
  · rintro ⟨later, rfl, run⟩
    exact run.append (.inl fun last => free (List.mem_of_getLast? last))

/-- A text that begins with a run has that one and the runs of what follows. -/
theorem isRun_backquotes_append_iff (positive : 0 < count) (stops : rest.head? ≠ some '\x60') :
    IsRun (backquotes count ++ rest) before size after ↔
      before = [] ∧ size = count ∧ after = rest ∨
        ∃ later, before = backquotes count ++ later ∧ IsRun rest later size after := by
  constructor
  · intro run
    have whole := run.whole
    rw [List.append_assoc, List.append_eq_append_iff] at whole
    rcases whole with ⟨later, rfl, -⟩ | ⟨part, divided, same⟩
    · exact .inr ⟨later, rfl, run.of_append⟩
    · -- A run inside of another one would have a backquote before it.
      have none : before = [] := by
        by_contra filled
        have member : before.getLast filled ∈ backquotes count :=
          divided ▸ List.mem_append_left part (List.getLast_mem filled)
        have last := List.getLast?_eq_some_getLast filled
        rw [(mem_backquotes.1 member).2] at last
        exact run.starts last
      subst none
      rw [← show backquotes count = part from divided] at same
      obtain ⟨sizes, ends⟩ := backquotes_append_inj run.ends stops same
      exact .inl ⟨rfl, sizes, ends⟩
  · rintro (⟨rfl, rfl, rfl⟩ | ⟨later, rfl, run⟩)
    · exact ⟨rfl, positive, nofun, stops⟩
    · exact run.append (.inr (run.before_ne_nil stops))

/-- The runs of a text are its first one and those of what follows it. -/
theorem isRun_first_iff (free : '\x60' ∉ start) (positive : 0 < count)
    (stops : rest.head? ≠ some '\x60') :
    IsRun (start ++ backquotes count ++ rest) before size after ↔
      before = start ∧ size = count ∧ after = rest ∨
        ∃ later, before = start ++ backquotes count ++ later ∧ IsRun rest later size after := by
  rw [List.append_assoc, isRun_append_iff free]
  simp only [isRun_backquotes_append_iff positive stops]
  constructor
  · rintro ⟨_, rfl, ⟨rfl, sizes, ends⟩ | ⟨later, rfl, run⟩⟩
    · exact .inl ⟨List.append_nil start, sizes, ends⟩
    · exact .inr ⟨later, (List.append_assoc _ _ _).symm, run⟩
  · rintro (⟨rfl, sizes, ends⟩ | ⟨later, rfl, run⟩)
    · exact ⟨[], (List.append_nil before).symm, .inl ⟨rfl, sizes, ends⟩⟩
    · exact ⟨_, List.append_assoc _ _ _, .inr ⟨later, rfl, run⟩⟩

/-- Runs of one length are not changed by a run of another length before them. -/
theorem isRun_passed_iff (free : '\x60' ∉ start) (positive : 0 < count)
    (stops : rest.head? ≠ some '\x60') (other : count ≠ size) :
    IsRun (start ++ backquotes count ++ rest) before size after ↔
      ∃ later, before = start ++ backquotes count ++ later ∧ IsRun rest later size after := by
  rw [isRun_first_iff free positive stops, or_iff_right fun same => other same.2.1.symm]

end Runs

section Search

variable {cs before after : List Char} {size : Nat} {outcome : Option (List Char × List Char)}

/-- The turns of a search for a run. Each looks at the first run that is left: there is none, or it
has the length that is asked for, or it is passed over, and what follows it is left. -/
inductive Searches (size : Nat) : List Char → Option (List Char × List Char) → Prop
  | absent {cs : List Char} (free : '\x60' ∉ cs) : Searches size cs none
  | found {before after : List Char} (free : '\x60' ∉ before) (stops : after.head? ≠ some '\x60') :
      Searches size (before ++ backquotes size ++ after) (some (before, after))
  | passed {before after : List Char} {count : Nat} {outcome : Option (List Char × List Char)}
      (free : '\x60' ∉ before) (positive : 0 < count) (stops : after.head? ≠ some '\x60')
      (other : count ≠ size) (later : Searches size after outcome) :
      Searches size (before ++ backquotes count ++ after)
        (outcome.map fun part => (before ++ backquotes count ++ part.1, part.2))

/-- A text up to its first backquote, the run that begins there, and what follows. -/
theorem eq_firstRun (cs : List Char) :
    let before := cs.takeWhile (· != '\x60')
    let start := cs.dropWhile (· != '\x60')
    let after := start.dropWhile (· == '\x60')
    cs = before ++ backquotes (start.takeWhile (· == '\x60')).length ++ after ∧
      '\x60' ∉ before ∧ after.head? ≠ some '\x60' := by
  intro before start after
  have run : start.takeWhile (· == '\x60') = backquotes (start.takeWhile (· == '\x60')).length :=
    List.eq_replicate_of_mem fun c member => by simpa using List.mem_takeWhile_imp member
  refine ⟨?_, fun member => ?_, fun first => ?_⟩
  · rw [← run, List.append_assoc, List.takeWhile_append_dropWhile, List.takeWhile_append_dropWhile]
  · simpa using List.mem_takeWhile_imp member
  · have edge := List.head?_dropWhile_not (· == '\x60') start
    rw [show (start.dropWhile (· == '\x60')).head? = some '\x60' from first] at edge
    contradiction

/-- Where the first run is empty, there is none. -/
theorem not_mem_of_firstRun
    (empty : ((cs.dropWhile (· != '\x60')).takeWhile (· == '\x60')).length = 0) : '\x60' ∉ cs := by
  have edge := List.head?_dropWhile_not (· != '\x60') cs
  cases start : cs.dropWhile (· != '\x60') with
  | nil =>
    intro member
    simpa using List.dropWhile_eq_nil_iff.1 start _ member
  | cons c rest =>
    rw [start] at edge empty
    have first : c = '\x60' := by simpa using edge
    simp [first] at empty

/-- A search comes to an end in every text. -/
theorem searches_untilRun? (size : Nat) (cs : List Char) :
    Searches size cs (untilRun? size cs) := by
  fun_induction untilRun? size cs with
  | case1 cs start count empty => exact .absent (not_mem_of_firstRun empty)
  | case2 cs before start count after filled sizes =>
    obtain ⟨whole, free, stops⟩ := eq_firstRun cs
    have whole : cs = before ++ backquotes count ++ after := whole
    have turn : Searches count (before ++ backquotes count ++ after) _ := .found free stops
    rwa [← whole, sizes] at turn
  | case3 cs before start count after filled other shorter later =>
    obtain ⟨whole, free, stops⟩ := eq_firstRun cs
    have whole : cs = before ++ backquotes count ++ after := whole
    have turn := Searches.passed free (Nat.pos_of_ne_zero filled) stops other later
    rwa [← whole] at turn
  | case4 cs start count after filled other longer =>
    -- What follows a run is always shorter.
    obtain ⟨whole, -, -⟩ := eq_firstRun cs
    have whole : cs = _ ++ backquotes count ++ after := whole
    have length := congrArg List.length whole
    rw [List.length_append, List.length_append, backquotes, List.length_replicate] at length
    omega

/-- A search finds a run where there is one. -/
theorem Searches.exists_eq_some (searches : Searches size cs outcome)
    (run : IsRun cs before size after) : ∃ part, outcome = some part := by
  induction searches generalizing before with
  | absent free => exact absurd run.mem free
  | found => exact ⟨_, rfl⟩
  | passed free positive stops other _ later =>
    obtain ⟨inner, -, run⟩ := (isRun_passed_iff free positive stops other).1 run
    obtain ⟨part, rfl⟩ := later run
    exact ⟨_, rfl⟩

/-- What a search finds is the first run of the length that is asked for. -/
theorem Searches.eq_some_iff (searches : Searches size cs outcome) (positive : 0 < size) :
    outcome = some (before, after) ↔ IsFirstRun cs before size after := by
  induction searches generalizing before after with
  | absent free => exact iff_of_false nofun fun found => free found.mem
  | @found start rest free stops =>
    have here : IsRun (start ++ backquotes size ++ rest) start size rest :=
      (isRun_first_iff free positive stops).2 (.inl ⟨rfl, rfl, rfl⟩)
    constructor
    · rintro ⟨⟩
      refine ⟨here, fun earlier last other => ?_⟩
      rcases (isRun_first_iff free positive stops).1 other with ⟨rfl, -, -⟩ | ⟨later, rfl, -⟩
      · exact Nat.le_refl _
      · rw [List.append_assoc, List.length_append]
        exact Nat.le_add_right _ _
    · intro first
      have inside := (isRun_first_iff free positive stops).1 first.toIsRun
      rcases inside with ⟨rfl, -, rfl⟩ | ⟨later, rfl, -⟩
      · rfl
      · have least := first.least start rest here
        rw [List.length_append, List.length_append, backquotes, List.length_replicate] at least
        omega
  | @passed start rest count outcome free filled stops other _ later =>
    have runs {before after : List Char} :
        IsRun (start ++ backquotes count ++ rest) before size after ↔
          ∃ later, before = start ++ backquotes count ++ later ∧ IsRun rest later size after :=
      isRun_passed_iff free filled stops other
    rw [Option.map_eq_some_iff]
    constructor
    · rintro ⟨part, found, same⟩
      cases same
      have first := later.1 found
      refine ⟨runs.2 ⟨_, rfl, first.toIsRun⟩, fun earlier last another => ?_⟩
      obtain ⟨inner, rfl, inside⟩ := runs.1 another
      have least := first.least inner last inside
      simp only [List.length_append]
      omega
    · intro first
      obtain ⟨inner, rfl, isRun⟩ := runs.1 first.toIsRun
      refine ⟨(inner, after), later.2 ⟨isRun, fun earlier last another => ?_⟩, rfl⟩
      have least := first.least _ last (runs.2 ⟨earlier, rfl, another⟩)
      simp only [List.length_append] at least
      omega

end Search

section Code

variable {text body : List Char} {size : Nat}

/-- The end of code is searched for after the run that the text begins with. -/
theorem IsRun.code?_eq (opening : IsRun text [] size body) : code? text =
    (untilRun? size body).map fun part => (code (String.ofList (trim part.1)), part.2) := by
  have stops : ∀ c ∈ body.head?, (c == '\x60') = false := fun c first =>
    beq_eq_false_iff_ne.2 fun same => opening.ends (same ▸ Option.mem_def.1 first)
  have opened : run? (· == '\x60') text = some (backquotes size, body) :=
    run?_eq_some_iff.2 ⟨backquotes_ne_nil opening.positive, opening.whole,
      fun c member => beq_iff_eq.2 (mem_backquotes.1 member).2, stops⟩
  unfold code?
  rw [opened]
  change (untilRun? (backquotes size).length body).bind _ = _
  rw [backquotes, List.length_replicate, Option.map_eq_bind]
  rfl

/-- How code is read from a text that begins with a run of backquotes, before `body`. -/
structure ReadsCode (text : List Char) (size : Nat) (body : List Char) : Prop where
  /-- The search for the closing run comes to an end. -/
  searches : ∃ outcome, Searches size body outcome ∧
    code? text = outcome.map fun part => (code (String.ofList (trim part.1)), part.2)
  isSome_iff : (code? text).isSome ↔ ∃ content after, IsRun body content size after
  /-- The code is what stands between the two runs, and the text is left after the second. -/
  eq_some_iff : ∀ found, code? text = some found ↔ ∃ content after,
    IsFirstRun body content size after ∧ found = (code (String.ofList (trim content)), after)

/-- **Code stands between the run at the start of a text and the next one of its length.** -/
theorem readsCode (opening : IsRun text [] size body) : ReadsCode text size body := by
  have searches := searches_untilRun? size body
  have found_iff {before after : List Char} : untilRun? size body = some (before, after) ↔
      IsFirstRun body before size after := searches.eq_some_iff opening.positive
  refine ⟨⟨_, searches, opening.code?_eq⟩, ?_, fun found => ?_⟩
  · rw [opening.code?_eq, Option.isSome_map, Option.isSome_iff_exists]
    constructor
    · rintro ⟨part, found⟩
      exact ⟨part.1, part.2, (found_iff.1 found).toIsRun⟩
    · rintro ⟨content, after, run⟩
      exact searches.exists_eq_some run
  · rw [opening.code?_eq, Option.map_eq_some_iff]
    constructor
    · rintro ⟨⟨content, after⟩, found, rfl⟩
      exact ⟨content, after, found_iff.1 found, rfl⟩
    · rintro ⟨content, after, first, rfl⟩
      exact ⟨(content, after), found_iff.2 first, rfl⟩

/-- A shorter and a longer run stand between the two. -/
theorem readsCode_otherRuns :
    let body := "a \x60 b\x60\x60\x60 c \x60\x60 d\x60\x60".toList
    IsRun ('\x60' :: '\x60' :: body) [] 2 body ∧ ReadsCode ('\x60' :: '\x60' :: body) 2 body := by
  intro body
  have opening : IsRun ('\x60' :: '\x60' :: body) [] 2 body :=
    ⟨rfl, by decide, nofun, by decide⟩
  exact ⟨opening, readsCode opening⟩

/-- A run of another length does not close code. -/
example : code? "\x60\x60a \x60 b\x60\x60\x60 c \x60\x60 d".toList =
    some (code "a \x60 b\x60\x60\x60 c", " d".toList) := by cbv

end Code

end LectureDeck.Inline
