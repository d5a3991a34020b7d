import LectureDeck.Proofs.Stepwise
import LectureDeck.Proofs.Text.Edges
import Mathlib.Algebra.Ring.Parity

/-!
# Backslashes

A character is escaped if an odd number of backslashes stands right before it, for of two
backslashes the first escapes the second. Reading on from a place where nothing is escaped, one can
forget what was before (`LectureDeck.Text.escapes_append_iff`).
-/

namespace LectureDeck.Text

section Escapes

variable {start cs : List Char} {c : Char}

/-- The number of backslashes that a text ends with. -/
def backslashes (cs : List Char) : Nat := (cs.reverse.takeWhile (· == '\\')).length

/-- What comes next after a text is escaped: right before it is an odd number of backslashes. -/
def Escapes (cs : List Char) : Prop := Odd (backslashes cs)

instance : DecidablePred Escapes := fun cs => inferInstanceAs (Decidable (Odd (backslashes cs)))

theorem not_escapes_iff : ¬ Escapes cs ↔ Even (backslashes cs) := Nat.not_odd_iff_even

theorem not_escapes_nil : ¬ Escapes [] := not_escapes_iff.2 Even.zero

/-- One more backslash escapes what comes next, unless it is escaped itself. -/
theorem escapes_concat_iff : Escapes (cs ++ [c]) ↔ c = '\\' ∧ ¬ Escapes cs := by
  unfold Escapes backslashes
  by_cases same : c = '\\'
  · simp [same, Nat.odd_add_one]
  · simp [same]

theorem escapes_singleton_iff : Escapes [c] ↔ c = '\\' := by
  rw [← List.nil_append [c], escapes_concat_iff]
  exact and_iff_left not_escapes_nil

/-- A text that escapes nothing has no bearing on what is escaped after it. -/
theorem escapes_append_iff (free : ¬ Escapes start) : Escapes (start ++ cs) ↔ Escapes cs := by
  induction cs using List.reverseRecOn with
  | nil => simpa [not_escapes_nil] using free
  | append_singleton cs last earlier =>
    rw [← List.append_assoc, escapes_concat_iff, escapes_concat_iff, earlier]

/-- What escapes the next character ends with the backslash that does. -/
theorem exists_concat_of_escapes (escapes : Escapes cs) : ∃ init, cs = init ++ ['\\'] ∧
    ¬ Escapes init := by
  rcases List.eq_nil_or_concat cs with rfl | ⟨init, last, rfl⟩
  · exact absurd escapes not_escapes_nil
  · rw [List.concat_eq_append, escapes_concat_iff] at escapes
    obtain ⟨rfl, free⟩ := escapes
    exact ⟨init, List.concat_eq_append, free⟩

end Escapes

section Writing

variable {special p : Char → Bool} {cs : List Char}

/-- A text with a backslash before each of its special characters. -/
def withBackslashes (special : Char → Bool) (cs : List Char) : List Char :=
  cs.flatMap fun c => if special c then ['\\', c] else [c]

theorem withBackslashes_cons (special : Char → Bool) (c : Char) (cs : List Char) :
    withBackslashes special (c :: cs) =
      (if special c then ['\\', c] else [c]) ++ withBackslashes special cs := List.flatMap_cons

theorem withBackslashes_concat (special : Char → Bool) (cs : List Char) (c : Char) :
    withBackslashes special (cs ++ [c]) =
      (if special c then withBackslashes special cs ++ ['\\'] else withBackslashes special cs) ++
        [c] := by
  unfold withBackslashes
  rw [List.flatMap_append, List.flatMap_singleton]
  split <;> simp

/-- The characters that are dropped at the start are not among those that are written with a
backslash. -/
theorem dropWhile_withBackslashes (backslash : p '\\' = false)
    (other : ∀ c, special c = true → p c = false) :
    (withBackslashes special cs).dropWhile p = withBackslashes special (cs.dropWhile p) := by
  induction cs with
  | nil => rfl
  | cons c rest later =>
    rw [withBackslashes_cons]
    by_cases marked : special c = true
    · simp [marked, backslash, other c marked, withBackslashes_cons]
    · by_cases dropped : p c = true
      · simpa [marked, dropped] using later
      · simp [marked, dropped, withBackslashes_cons]

theorem dropEndWhile_withBackslashes (other : ∀ c, special c = true → p c = false) :
    dropEndWhile p (withBackslashes special cs) = withBackslashes special (dropEndWhile p cs) := by
  induction cs using List.reverseRecOn with
  | nil => rfl
  | append_singleton cs last earlier =>
    rw [withBackslashes_concat, dropEndWhile_concat, dropEndWhile_concat]
    by_cases marked : special last = true
    · simp [marked, other last marked, withBackslashes_concat]
    · by_cases dropped : p last = true
      · simpa [marked, dropped] using earlier
      · simp [marked, dropped, withBackslashes_concat]

/-- Space at the edges of a text can be cut off before or after backslashes are written. -/
theorem trim_withBackslashes (other : ∀ c, special c = true → isBlank c = false) :
    trim (withBackslashes special cs) = withBackslashes special (trim cs) := by
  have backslash : isBlank '\\' = false := by decide
  unfold trim trimEnd trimStart
  rw [dropWhile_withBackslashes backslash other, dropEndWhile_withBackslashes other]

end Writing

end LectureDeck.Text
