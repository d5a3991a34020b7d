import LectureDeck.Deck.Name
import LectureDeck.Decimal.Reader
import Mathlib.Data.List.Basic

/-!
# Written natural numbers

The digits of a number are read as the number (`LectureDeck.Decimal.digitsValue_natural`). So the
identifiers that are made of numbers tell the slides of a run apart (`LectureDeck.slideId_inj`), and
so do longer ones that begin with them (`LectureDeck.slideId_append_inj`).
-/

namespace LectureDeck

namespace Decimal

theorem digitsValue_eq (digits : List Char) :
    digitsValue digits = Nat.ofDigitChars 10 digits 0 := by
  rw [Nat.ofDigitChars_eq_foldl, digitsValue]
  simp only [Nat.mul_comm]
  rfl

theorem digitsValue_natural (n : Nat) : digitsValue (natural n) = n := by
  rw [digitsValue_eq, natural, Nat.ofDigitChars_ten_toDigits]

/-- Digits are read as the number that they write, if it is small enough. -/
theorem readNatural?_of_digits {digits : List Char} (each : ∀ c ∈ digits, c.isDigit = true)
    (bound : Nat) : readNatural? bound digits =
      if digits.isEmpty then none else (some (digitsValue digits)).filter (· < bound) := by
  have all : digits.all Char.isDigit = true := List.all_eq_true.2 each
  unfold readNatural?
  split
  · exact absurd (each '+' List.mem_cons_self) (by decide)
  · simp [all, Option.filter_some]

/-- A zero in front does not matter. -/
theorem digitsValue_twoDigits (n : Nat) : digitsValue (twoDigits n) = n := by
  unfold twoDigits
  dsimp only
  split
  · exact digitsValue_natural n
  · exact digitsValue_natural n

theorem isDigit_of_mem_twoDigits {n : Nat} {c : Char} (member : c ∈ twoDigits n) :
    c.isDigit = true := by
  have digits {c : Char} (member : c ∈ natural n) : c.isDigit = true :=
    Nat.isDigit_of_mem_toDigits (by decide) (by decide) member
  unfold twoDigits at member
  dsimp only at member
  split at member
  · rcases List.mem_cons.1 member with rfl | member
    · decide
    · exact digits member
  · exact digits member

theorem not_mem_twoDigits {n : Nat} : '-' ∉ twoDigits n := fun member =>
  absurd (isDigit_of_mem_twoDigits member) (by decide)

theorem takeWhile_twoDigits (n : Nat) (rest : List Char) :
    (twoDigits n ++ '-' :: rest).takeWhile Char.isDigit = twoDigits n := by
  rw [List.takeWhile_append_of_pos (fun _ => isDigit_of_mem_twoDigits),
    List.takeWhile_cons_of_neg (by decide), List.append_nil]

theorem naturalText_inj {first second : Nat} :
    naturalText first = naturalText second ↔ first = second := by
  constructor
  · intro same
    rw [← digitsValue_natural first, ← digitsValue_natural second, String.ofList_inj.1 same]
  · exact congrArg naturalText

end Decimal

open Decimal

/-- The identifier of a slide tells its file and its number. -/
theorem slideId_inj {file other slide place : Nat} :
    slideId file slide = slideId other place ↔ file = other ∧ slide = place := by
  constructor
  · intro same
    have same := congrArg String.toList same
    simp only [slideId, chapterId, String.toList_append, String.toList_ofList,
      List.append_assoc] at same
    have same := List.append_cancel_left same
    rw [show "-".toList = ['-'] from rfl, List.singleton_append, List.singleton_append,
      List.append_cons_inj_of_notMem not_mem_twoDigits not_mem_twoDigits] at same
    obtain ⟨files, -, slides⟩ := same
    rw [← digitsValue_twoDigits file, files, ← digitsValue_twoDigits slide, slides,
      digitsValue_twoDigits, digitsValue_twoDigits]
    exact ⟨rfl, rfl⟩
  · rintro ⟨rfl, rfl⟩
    rfl

section Longer

variable {file first second : Nat} {rest other : String}

/-- What begins with the identifier of a slide tells the slide, and what follows. -/
theorem slideId_append_inj
    (same : slideId file first ++ "-" ++ rest = slideId file second ++ "-" ++ other) :
    first = second ∧ rest = other := by
  have same := congrArg String.toList same
  simp only [slideId, String.append_assoc, String.toList_append, String.toList_ofList] at same
  have same : twoDigits first ++ '-' :: rest.toList = twoDigits second ++ '-' :: other.toList :=
    List.append_cancel_left (List.append_cancel_left same)
  have digits := congrArg (List.takeWhile Char.isDigit) same
  rw [takeWhile_twoDigits, takeWhile_twoDigits] at digits
  rw [digits] at same
  refine ⟨?_, String.toList_inj.1 (List.cons.inj (List.append_cancel_left same)).2⟩
  rw [← digitsValue_twoDigits first, digits, digitsValue_twoDigits]

theorem slideId_ne_append : slideId file first ≠ slideId file second ++ "-" ++ rest := by
  intro same
  have same := congrArg String.toList same
  simp only [slideId, String.append_assoc, String.toList_append, String.toList_ofList] at same
  have same := List.append_cancel_left (List.append_cancel_left same)
  refine not_mem_twoDigits (n := first) (same ▸ List.mem_append_right _ ?_)
  exact List.mem_append_left _ (List.mem_singleton_self '-')

theorem chapterId_ne_append : chapterId file ≠ chapterId file ++ "-" ++ rest := by
  intro same
  have same := congrArg String.toList same
  simp at same

/-- The identifier of a file goes on with its number, and that of a reference with a dash. -/
theorem chapterId_append_ne_reference {slug : String} :
    chapterId file ++ rest ≠ "slidoc-ref-" ++ slug := by
  intro same
  have same : twoDigits file ++ rest.toList = '-' :: 'r' :: 'e' :: 'f' :: '-' :: slug.toList := by
    simpa [chapterId] using congrArg String.toList same
  cases digits : twoDigits file with
  | nil =>
    obtain rfl : 0 = file := by rw [← digitsValue_twoDigits file, digits]; rfl
    exact absurd digits (by decide)
  | cons digit more =>
    have number : digit.isDigit = true :=
      isDigit_of_mem_twoDigits (n := file) (by rw [digits]; exact List.mem_cons_self)
    rw [digits] at same
    rw [(List.cons.inj same).1] at number
    exact absurd number (by decide)

end Longer

end LectureDeck
