import LectureDeck.Decimal.Layout
import LectureDeck.Decimal.Reader

/-!
# Weights

What a question counts. Weights are read from text, added up, subtracted to find what lies between
two questions, and written. The program counts in floats; exact numbers obey the laws of
`ExactWeight`, under which a sum is zero only if all its parts are.

A ledger has the questions of a file with their weights summed up. Entry `q` of a list of sums is
the sum of the first `q` questions, so that the weight between two questions is a difference of
entries.
-/

namespace LectureDeck

/-- Numbers that can weigh questions. -/
class Weight (W : Type) where
  read? : List Char → Option W
  /-- A question may have this weight. -/
  admissible : W → Bool
  zero : W
  one : W
  add : W → W → W
  sub : W → W → W
  isZero : W → Bool
  text : W → String

/-- The weights of the program. A weight is finite and not negative. -/
instance : Weight Float where
  read? := Decimal.readFloat?
  admissible := fun x => !(x < 0.0) && x.isFinite
  zero := 0.0
  one := 1.0
  add := fun x y => x + y
  sub := fun x y => x - y
  isZero := fun x => x == 0.0
  text := Decimal.text

/-- Weights whose sums are exact. -/
class ExactWeight (W : Type) [Weight W] : Prop where
  add_assoc : ∀ x y z : W, Weight.add (Weight.add x y) z = Weight.add x (Weight.add y z)
  add_zero : ∀ x : W, Weight.add x Weight.zero = x
  zero_add : ∀ x : W, Weight.add Weight.zero x = x
  add_sub_cancel_left : ∀ x y : W, Weight.sub (Weight.add x y) x = y
  isZero_iff : ∀ x : W, Weight.isZero x = true ↔ x = Weight.zero
  add_eq_zero_iff : ∀ x y : W, Weight.admissible x = true → Weight.admissible y = true →
    (Weight.add x y = Weight.zero ↔ x = Weight.zero ∧ y = Weight.zero)
  admissible_add : ∀ x y : W, Weight.admissible x = true → Weight.admissible y = true →
    Weight.admissible (Weight.add x y) = true
  admissible_zero : Weight.admissible (Weight.zero : W) = true

/-- The weights of the questions so far. -/
structure Ledger (W : Type) where
  /-- Sums of score weights. -/
  scores : List W
  /-- Sums of grade weights. -/
  grades : List W
  /-- The slide of each question. -/
  slides : List Nat
deriving Repr

namespace Ledger

variable {W : Type} [Weight W]

/-- The ledger of no questions. -/
def empty : Ledger W := ⟨[Weight.zero], [Weight.zero], []⟩

def extend (sums : List W) (weight : W) : List W :=
  sums ++ [Weight.add (sums.getLastD Weight.zero) weight]

/-- The ledger with one more question. One without a grade weighs nothing for the grade. -/
def push (ledger : Ledger W) (slide : Nat) (score : W) (grade : Option W) : Ledger W where
  scores := extend ledger.scores score
  grades := extend ledger.grades (grade.getD Weight.zero)
  slides := ledger.slides ++ [slide]

/-- The number of questions. -/
def size (ledger : Ledger W) : Nat := ledger.slides.length

/-- The number of questions on slides before a given one. -/
def questionsBefore (ledger : Ledger W) (slide : Nat) : Nat :=
  (ledger.slides.takeWhile (· < slide)).length

/-- The weight of the questions after one and up to another. -/
def between (sums : List W) (after upTo : Nat) : W :=
  if after < upTo then Weight.sub (sums.getD upTo Weight.zero) (sums.getD after Weight.zero)
  else Weight.zero

end Ledger

end LectureDeck
