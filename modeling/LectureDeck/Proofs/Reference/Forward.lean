import LectureDeck.Proofs.Result
import LectureDeck.Reference.Forward

/-!
# Links that wait

What the definition of a name and the end of a slide change of a link, field by field, and what is
left of the links when they are settled (`LectureDeck.ForwardLinks.settle_cases`).
-/

namespace LectureDeck

namespace ForwardLink

variable (link : ForwardLink) (id : String) (slide : Nat) (question : Option Nat)

@[simp] theorem define_target : (link.define id slide).target = link.target := by
  unfold define
  split <;> rfl

@[simp] theorem define_originSlide : (link.define id slide).originSlide = link.originSlide := by
  unfold define
  split <;> rfl

@[simp] theorem define_originClosed : (link.define id slide).originClosed = link.originClosed := by
  unfold define
  split <;> rfl

@[simp] theorem define_originQuestion :
    (link.define id slide).originQuestion = link.originQuestion := by
  unfold define
  split <;> rfl

theorem define_definedAt : (link.define id slide).definedAt =
    if link.target = id then link.definedAt.or (some slide) else link.definedAt := by
  rw [define]
  simp only [beq_iff_eq]
  split <;> rfl

@[simp] theorem close_target : (link.close slide question).target = link.target := by
  unfold close
  split <;> rfl

@[simp] theorem close_originSlide : (link.close slide question).originSlide = link.originSlide := by
  unfold close
  split <;> rfl

@[simp] theorem close_definedAt : (link.close slide question).definedAt = link.definedAt := by
  unfold close
  split <;> rfl

theorem close_originClosed : (link.close slide question).originClosed =
    (decide (link.originSlide = slide) || link.originClosed) := by
  unfold close
  split <;> simp_all

theorem close_originQuestion : (link.close slide question).originQuestion =
    if link.originSlide = slide then question else link.originQuestion := by
  unfold close
  split <;> rfl

theorem isReady_iff : link.isReady = true ↔
    link.originClosed = true ∧ ∃ target, link.definedAt = some target := by
  rw [isReady, Bool.and_eq_true, Option.isSome_iff_exists]

end ForwardLink

namespace ForwardLinks

/-- What holds of every link that is changed holds of those that wait on. -/
theorem forall_waiting {links : List ForwardLink} {change : ForwardLink → ForwardLink}
    {holds : ForwardLink → Prop} (every : ∀ link ∈ links, holds (change link)) :
    ∀ link ∈ (links.map change).filter fun link => !link.isReady, holds link := by
  intro link member
  obtain ⟨before, kept, rfl⟩ := List.mem_map.1 (List.mem_filter.1 member).1
  exact every before kept

theorem isReady_of_waiting (links : List ForwardLink) :
    ∀ link ∈ links.filter fun link => !link.isReady, link.isReady = false := by
  intro link member
  simpa using (List.mem_filter.1 member).2

/-- Links are settled when those that are ready skip no grade. The others are left. -/
theorem settle_cases {W : Type} [Weight W] (forward : ForwardLinks) (ledger : Ledger W) :
    (∃ skips,
      forward.settle ledger = .ok (⟨forward.links.filter fun link => !link.isReady⟩, skips) ∧
      (∀ link ∈ forward.links, link.isReady = true → ∃ skip, link.skip? ledger = .ok skip) ∧
      ∀ skip, skip ∈ skips ↔
        ∃ link ∈ forward.links, link.isReady = true ∧ link.skip? ledger = .ok (some skip)) ∨
    ∃ link ∈ forward.links, link.isReady = true ∧ ∃ violation,
      link.skip? ledger = .error violation ∧ forward.settle ledger = .error violation := by
  rcases mapM_cases (ForwardLink.skip? ledger) (forward.links.filter ForwardLink.isReady) with
    ⟨results, same, every, found⟩ | ⟨link, member, violation, failed, same⟩
  · refine .inl ⟨results.filterMap fun skip => skip, by rw [settle, same]; rfl, ?_, ?_⟩
    · exact fun link member ready => every link (List.mem_filter.2 ⟨member, ready⟩)
    · intro skip
      simp [found, List.mem_filter, and_assoc]
  · obtain ⟨member, ready⟩ := List.mem_filter.1 member
    exact .inr ⟨link, member, ready, violation, failed, by rw [settle, same]; rfl⟩

end ForwardLinks

end LectureDeck
