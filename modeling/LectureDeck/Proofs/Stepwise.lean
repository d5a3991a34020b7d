import Mathlib.Data.List.Induction

/-!
# Stepwise properties

Properties of lists that were made by adding one element after another: each element has to suit
those before it (`LectureDeck.Stepwise`).
-/

namespace LectureDeck

variable {α : Type} {suits : List α → α → Prop}

/-- An element of a list to which another was added is that one, or was there before. -/
theorem concat_eq_append_cons {list before after : List α} {last item : α} :
    list ++ [last] = before ++ item :: after ↔
      (list = before ∧ last = item ∧ after = []) ∨
        ∃ rest, list = before ++ item :: rest ∧ after = rest ++ [last] := by
  constructor
  · intro same
    rcases List.eq_nil_or_concat after with rfl | ⟨rest, final, rfl⟩
    · obtain ⟨list, found⟩ := List.append_inj' same rfl
      exact .inl ⟨list, List.singleton_inj.1 found, rfl⟩
    · rw [List.concat_eq_append, ← List.cons_append, ← List.append_assoc] at same
      obtain ⟨whole, found⟩ := List.append_inj' same rfl
      obtain rfl := List.singleton_inj.1 found
      exact .inr ⟨rest, whole, List.concat_eq_append⟩
  · rintro (⟨rfl, rfl, rfl⟩ | ⟨rest, rfl, rfl⟩) <;> simp

/-- Every element of a list suits those before it. -/
def Stepwise (suits : List α → α → Prop) (list : List α) : Prop :=
  ∀ before item after, list = before ++ item :: after → suits before item

namespace Stepwise

theorem nil : Stepwise suits [] := by
  intro before item after same
  exact absurd same.symm (by simp)

theorem concat_iff {list : List α} {last : α} :
    Stepwise suits (list ++ [last]) ↔ Stepwise suits list ∧ suits list last := by
  constructor
  · intro each
    refine ⟨fun before item rest same => ?_, each list last [] rfl⟩
    exact each before item (rest ++ [last]) (concat_eq_append_cons.2 (.inr ⟨rest, same, rfl⟩))
  · rintro ⟨each, suited⟩ before item after same
    rcases concat_eq_append_cons.1 same with ⟨rfl, rfl, -⟩ | ⟨rest, whole, -⟩
    · exact suited
    · exact each before item rest whole

/-- Every element suits those before it, or one is the first that does not. -/
theorem or_exists_first (suits : List α → α → Prop) (list : List α) : Stepwise suits list ∨
    ∃ before item after, list = before ++ item :: after ∧ Stepwise suits before ∧
      ¬ suits before item := by
  induction list using List.reverseRecOn with
  | nil => exact .inl nil
  | append_singleton list last earlier =>
    rcases earlier with each | ⟨before, item, after, rfl, each, unsuited⟩
    · by_cases suited : suits list last
      · exact .inl (concat_iff.2 ⟨each, suited⟩)
      · exact .inr ⟨list, last, [], rfl, each, suited⟩
    · exact .inr ⟨before, item, after ++ [last], by simp, each, unsuited⟩

end Stepwise

end LectureDeck
