import LectureDeck.Text.Blank
import Mathlib.Data.List.TakeWhile

/-!
# Edges of texts

What is trimmed has no blank character at its edges (`LectureDeck.Text.isTrimmed_trim`), and nothing
is trimmed where there is none (`LectureDeck.Text.IsTrimmed.trim_eq`).
-/

namespace LectureDeck.Text

/-- A text has no blank character at its edges. -/
structure IsTrimmed (cs : List Char) : Prop where
  start : ∀ c ∈ cs.head?, isBlank c = false
  stop : ∀ c ∈ cs.getLast?, isBlank c = false

variable {cs : List Char}

/-- What holds of all characters of a text is decided by going through the text. An instance for
statements about all characters would go through all that there are. -/
theorem forall_mem_of_all {p : Char → Prop} [DecidablePred p]
    (every : cs.all (fun c => decide (p c)) = true) : ∀ c ∈ cs, p c := fun c member =>
  of_decide_eq_true (List.all_eq_true.1 every c member)

theorem dropWhile_of_head {p : Char → Bool} (first : ∀ c ∈ cs.head?, p c = false) :
    cs.dropWhile p = cs := by
  cases cs with
  | nil => rfl
  | cons c rest => exact List.dropWhile_cons_of_neg (by simp [first c rfl])

theorem dropEndWhile_of_last {p : Char → Bool} (last : ∀ c ∈ cs.getLast?, p c = false) :
    dropEndWhile p cs = cs := by
  have stop : cs.reverse.dropWhile p = cs.reverse := dropWhile_of_head (by simpa using last)
  rw [dropEndWhile, stop, List.reverse_reverse]

theorem dropEndWhile_concat (p : Char → Bool) (cs : List Char) (c : Char) :
    dropEndWhile p (cs ++ [c]) = if p c then dropEndWhile p cs else cs ++ [c] := by
  unfold dropEndWhile
  rw [List.reverse_concat, List.dropWhile_cons]
  split <;> simp

theorem dropEndWhile_prefix (p : Char → Bool) (cs : List Char) : dropEndWhile p cs <+: cs := by
  have start := List.reverse_prefix.2 (List.dropWhile_suffix p (l := cs.reverse))
  rwa [List.reverse_reverse] at start

/-- What is left after a start of some characters is dropped begins with another one. -/
theorem of_mem_head?_dropped {p : Char → Bool} {c : Char}
    (first : c ∈ (dropEndWhile p (cs.dropWhile p)).head?) : p c = false := by
  obtain ⟨rest, same⟩ := dropEndWhile_prefix p (cs.dropWhile p)
  have known : (cs.dropWhile p).head? = some c := by
    rw [← same, List.head?_append]
    exact congrArg (Option.or · rest.head?) (Option.mem_def.1 first)
  have edge := List.head?_dropWhile_not p cs
  rwa [known] at edge

theorem of_mem_getLast?_dropEndWhile {p : Char → Bool} {c : Char}
    (last : c ∈ (dropEndWhile p cs).getLast?) : p c = false := by
  rw [dropEndWhile, List.getLast?_reverse] at last
  have edge := List.head?_dropWhile_not p cs.reverse
  rwa [Option.mem_def.1 last] at edge

/-- What is trimmed has no blank character at its edges. -/
theorem isTrimmed_trim (cs : List Char) : IsTrimmed (trim cs) where
  start _ := of_mem_head?_dropped
  stop _ := of_mem_getLast?_dropEndWhile

/-- Where nothing is blank at the edges, there is nothing to trim. -/
theorem IsTrimmed.trim_eq (trimmed : IsTrimmed cs) : trim cs = cs := by
  have start : trimStart cs = cs := dropWhile_of_head trimmed.start
  rw [trim, start, trimEnd, dropEndWhile_of_last trimmed.stop]

theorem mem_of_mem_trim {c : Char} (member : c ∈ trim cs) : c ∈ cs := by
  have start : trim cs <+: trimStart cs := dropEndWhile_prefix isBlank _
  exact (List.dropWhile_suffix isBlank).subset (start.subset member)

theorem trim_of_allBlank (blank : allBlank cs = true) : trim cs = [] := by
  have start : trimStart cs = [] := List.dropWhile_eq_nil_iff.2 (List.all_eq_true.1 blank)
  rw [trim, start]
  rfl

section Gaps

variable {gap : List Char}

/-- Blank characters before a text are trimmed. -/
theorem trim_blank_append (blank : ∀ c ∈ gap, isBlank c = true) (cs : List Char) :
    trim (gap ++ cs) = trim cs := by
  rw [trim, trimStart, List.dropWhile_append_of_pos blank, trim, trimStart]

/-- Blank characters after a text are trimmed. -/
theorem trim_append_blank (blank : ∀ c ∈ gap, isBlank c = true) (cs : List Char) :
    trim (cs ++ gap) = trim cs := by
  have dropped (text : List Char) : trimEnd (text ++ gap) = trimEnd text := by
    rw [trimEnd, dropEndWhile, List.reverse_append, List.dropWhile_append_of_pos, trimEnd,
      dropEndWhile]
    exact fun c member => blank c (List.mem_reverse.1 member)
  rw [trim, trimStart, List.dropWhile_append]
  split
  · rename_i none
    rw [List.dropWhile_eq_nil_iff.2 blank, trim, trimStart, List.isEmpty_iff.1 none]
  · exact dropped _

end Gaps

end LectureDeck.Text
