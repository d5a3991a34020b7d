import LectureDeck.Proofs.Question.Changes
import LectureDeck.Proofs.Question.Statement
import LectureDeck.Question.Weight
import Mathlib.Algebra.Order.Ring.Rat
import Mathlib.Data.List.Induction

/-!
# Weights of questions

For exact weights a ledger tells the truth: what it has between two questions is the sum of the
weights of the questions after the first and up to the second (`LectureDeck.Ledger.between_sums`).
The grade weights that answers give are admissible (`LectureDeck.Answer.isAdmissible_of_parse`), so
that their sum is zero only if all of them are (`LectureDeck.Weight.sum_eq_zero_iff`).

Rational numbers weigh questions exactly. They are read as floats are, but not rounded, and they are
never infinite.
-/

namespace LectureDeck

namespace Weight

variable {W : Type} [Weight W]

/-- The sum of weights. -/
def sum (weights : List W) : W := weights.foldl Weight.add Weight.zero

theorem sum_concat (weights : List W) (last : W) :
    sum (weights ++ [last]) = Weight.add (sum weights) last := by
  rw [sum, List.foldl_append]
  rfl

variable [ExactWeight W]

theorem sum_append (first second : List W) :
    sum (first ++ second) = Weight.add (sum first) (sum second) := by
  induction second using List.reverseRecOn with
  | nil => rw [List.append_nil, sum, sum, List.foldl_nil, ExactWeight.add_zero]
  | append_singleton second last earlier =>
    rw [← List.append_assoc, sum_concat, sum_concat, earlier, ExactWeight.add_assoc]

theorem admissible_sum {weights : List W}
    (every : ∀ weight ∈ weights, Weight.admissible weight = true) :
    Weight.admissible (sum weights) = true := by
  induction weights using List.reverseRecOn with
  | nil => exact ExactWeight.admissible_zero
  | append_singleton weights last earlier =>
    rw [sum_concat]
    exact ExactWeight.admissible_add _ _
      (earlier fun weight member => every weight (by simp [member])) (every last (by simp))

/-- A sum is zero only if all its parts are. -/
theorem sum_eq_zero_iff {weights : List W}
    (every : ∀ weight ∈ weights, Weight.admissible weight = true) :
    sum weights = Weight.zero ↔ ∀ weight ∈ weights, weight = Weight.zero := by
  induction weights using List.reverseRecOn with
  | nil => exact ⟨fun _ _ member => absurd member List.not_mem_nil, fun _ => rfl⟩
  | append_singleton weights last earlier =>
    have before : ∀ weight ∈ weights, Weight.admissible weight = true :=
      fun weight member => every weight (by simp [member])
    rw [sum_concat, ExactWeight.add_eq_zero_iff _ _ (admissible_sum before) (every last (by simp)),
      earlier before, List.forall_mem_append, List.forall_mem_singleton]

end Weight

namespace Ledger

variable {W : Type} [Weight W]

/-- The sums that a ledger has of weights. -/
def sums (weights : List W) : List W := weights.foldl extend [Weight.zero]

theorem sums_concat (weights : List W) (last : W) :
    sums (weights ++ [last]) = extend (sums weights) last := by
  rw [sums, List.foldl_append]
  rfl

theorem length_sums (weights : List W) : (sums weights).length = weights.length + 1 := by
  induction weights using List.reverseRecOn with
  | nil => rfl
  | append_singleton weights last earlier => simp [sums_concat, extend, earlier]

theorem getLastD_sums (weights : List W) :
    (sums weights).getLastD Weight.zero = Weight.sum weights := by
  induction weights using List.reverseRecOn with
  | nil => rfl
  | append_singleton weights last earlier =>
    rw [sums_concat, extend, List.getLastD_concat, earlier, Weight.sum_concat]

/-- The entry of a number is the sum of that many weights. -/
theorem getD_sums (first second : List W) :
    (sums (first ++ second)).getD first.length Weight.zero = Weight.sum first := by
  induction second using List.reverseRecOn with
  | nil =>
    have last := getLastD_sums first
    rw [List.getLastD_eq_getLast?, List.getLast?_eq_getElem?, length_sums] at last
    rw [List.append_nil, List.getD_eq_getElem?_getD]
    exact last
  -- What is added later leaves the entries that are there.
  | append_singleton second last earlier =>
    have inside : first.length < (sums (first ++ second)).length := by
      rw [length_sums, List.length_append]
      omega
    rw [← List.append_assoc, sums_concat, extend, List.getD_eq_getElem?_getD,
      List.getElem?_append_left inside, ← List.getD_eq_getElem?_getD, earlier]

/-- Totals of weights: the first is zero, and each further one adds a weight to the one before. -/
structure Accumulates (totals weights : List W) : Prop where
  length : totals.length = weights.length + 1
  start : totals[0]? = some Weight.zero
  step : ∀ index weight, weights[index]? = some weight →
    ∃ total, totals[index]? = some total ∧ totals[index + 1]? = some (Weight.add total weight)

/-- One more weight makes one more total. -/
theorem Accumulates.extend {totals weights : List W} (accumulates : Accumulates totals weights)
    (last : W) : Accumulates (extend totals last) (weights ++ [last]) where
  length := by
    rw [Ledger.extend, List.length_append, List.length_append, accumulates.length]
    rfl
  start := by
    have inhabited : 0 < totals.length := accumulates.length ▸ Nat.succ_pos _
    rw [Ledger.extend, List.getElem?_append_left inhabited, accumulates.start]
  step := by
    intro index weight found
    rcases Nat.lt_trichotomy index weights.length with before | rfl | after
    · have inside : index + 1 < totals.length := by
        rw [accumulates.length]
        omega
      rw [List.getElem?_append_left before] at found
      rw [Ledger.extend, List.getElem?_append_left inside,
        List.getElem?_append_left (Nat.lt_of_succ_lt inside)]
      exact accumulates.step index weight found
    -- The last total is the one to which the weight is added.
    · rw [List.getElem?_append_right (Nat.le_refl _), Nat.sub_self] at found
      cases found
      have inside : weights.length < totals.length := accumulates.length ▸ Nat.lt_succ_self _
      refine ⟨totals.getLastD Weight.zero, ?_, ?_⟩
      · rw [Ledger.extend, List.getElem?_append_left inside, List.getLastD_eq_getLast?,
          List.getLast?_eq_getElem?, accumulates.length, Nat.add_sub_cancel,
          List.getElem?_eq_getElem inside, Option.getD_some]
      · rw [Ledger.extend, ← accumulates.length, List.getElem?_append_right (Nat.le_refl _),
          Nat.sub_self]
        rfl
    · have outside : (weights ++ [last]).length ≤ index := by
        rw [List.length_append]
        exact after
      rw [List.getElem?_eq_none outside] at found
      contradiction

/-- The sums that a ledger has are totals of the weights. -/
theorem accumulates_sums (weights : List W) : Accumulates (sums weights) weights := by
  induction weights using List.reverseRecOn with
  | nil => exact ⟨rfl, rfl, nofun⟩
  | append_singleton weights last earlier =>
    rw [sums_concat]
    exact earlier.extend last

/-- What a ledger has between two questions is the weight of the questions between. -/
theorem between_sums [ExactWeight W] (first second : List W) :
    between (sums (first ++ second)) first.length (first ++ second).length = Weight.sum second := by
  unfold between
  split
  · have whole := getD_sums (first ++ second) []
    rw [List.append_nil] at whole
    rw [whole, getD_sums, Weight.sum_append, ExactWeight.add_sub_cancel_left]
  -- Nothing lies between, so the ledger is not asked.
  · rename_i nothing
    rw [List.length_append, Nat.not_lt] at nothing
    rw [List.length_eq_zero_iff.1 (by omega : second.length = 0)]
    rfl

end Ledger

namespace AnswerOptions

variable {W : Type} [Weight W] {after : AnswerOptions W}

/-- The grade weight may be the weight of a question, if there is one. -/
def IsAdmissible (options : AnswerOptions W) : Prop :=
  ∀ weight ∈ options.gradeWeight, Weight.admissible weight = true

theorem isAdmissible_initial : (initial : AnswerOptions W).IsAdmissible :=
  fun _ member => nomatch member

theorem isAdmissible_of_parse {text : List Char} (parsed : parse text = .ok after) :
    after.IsAdmissible := by
  refine parse_induction isAdmissible_initial (fun change options sets held => ?_) parsed
  intro weight given
  rcases change.gradeWeight_make options weight given with before | set
  · exact held weight before
  · exact sets weight set

end AnswerOptions

/-- What an answer gives as its grade weight may be one. -/
theorem Answer.isAdmissible_of_parse {W : Type} [Weight W] {text : String} {hasChoices : Bool}
    {plugins : Plugins} {answer : Answer W} (parsed : parse text hasChoices plugins = .ok answer) :
    answer.options.IsAdmissible := by
  obtain ⟨stated, options, -, read, rfl⟩ := exists_of_parse parsed
  exact AnswerOptions.isAdmissible_of_parse read

/-- The rational number that a decimal number is. -/
def Decimal.Exact.toRat (number : Exact) : ℚ :=
  let coefficient : ℚ := if number.negative then -number.coefficient else number.coefficient
  if number.exponent < 0 then coefficient / 10 ^ number.exponent.natAbs
  else coefficient * 10 ^ number.exponent.natAbs

/-- Rational weights are not negative. -/
instance : Weight ℚ where
  read? := fun text => (Decimal.readExact? text).map Decimal.Exact.toRat
  admissible := fun x => 0 ≤ x
  zero := 0
  one := 1
  add := (· + ·)
  sub := (· - ·)
  isZero := fun x => x = 0
  text := toString

instance : ExactWeight ℚ where
  add_assoc := add_assoc
  add_zero := add_zero
  zero_add := zero_add
  add_sub_cancel_left := add_sub_cancel_left
  isZero_iff := fun _ => decide_eq_true_iff
  add_eq_zero_iff := fun _ _ first second =>
    add_eq_zero_iff_of_nonneg (of_decide_eq_true first) (of_decide_eq_true second)
  admissible_add := fun _ _ first second =>
    decide_eq_true (add_nonneg (of_decide_eq_true first) (of_decide_eq_true second))
  admissible_zero := rfl

end LectureDeck
