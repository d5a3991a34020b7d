import LectureDeck.Proofs.Outline.BlockReaders
import LectureDeck.Proofs.Outline.Lines

/-!
# What stands in comments

The content of a comment is read up to where it is closed for the first time
(`LectureDeck.upTo?_comment_iff`).
-/

namespace LectureDeck

open LectureDeck.Text

section Comments

variable {α : Type} {stop : Char → Bool} {close : List Char → Option α} {cs part : List Char}
  {found : α}

/-- A text up to a closing part holds no character that stops it, and the closing part does not
begin earlier. -/
theorem upTo?_eq_some_iff : upTo? stop close cs = some (part, found) ↔
    ∃ rest, cs = part ++ rest ∧ close rest = some found ∧ (∀ c ∈ part, stop c = false) ∧
      ∀ later, later <:+ part → later ≠ [] → close (later ++ rest) = none := by
  induction cs generalizing part with
  | nil =>
    constructor
    · intro read
      obtain ⟨after, closed, same⟩ := Option.map_eq_some_iff.1 read
      cases same
      exact ⟨[], rfl, closed, by simp,
        fun later suffix some => absurd (List.suffix_nil.1 suffix) some⟩
    · rintro ⟨rest, same, closed, -⟩
      obtain ⟨rfl, rfl⟩ := List.append_eq_nil_iff.1 same.symm
      rw [upTo?, closed]
      rfl
  | cons c cs inner =>
    constructor
    · intro read
      unfold upTo? at read
      split at read
      · rename_i closed
        cases read
        exact ⟨c :: cs, rfl, closed, by simp,
          fun later suffix some => absurd (List.suffix_nil.1 suffix) some⟩
      · rename_i open'
        split at read
        · contradiction
        · rename_i passed
          obtain ⟨⟨part, after⟩, later, same⟩ := Option.map_eq_some_iff.1 read
          cases same
          obtain ⟨rest, rfl, closed, unstopped, earlier⟩ := inner.1 later
          refine ⟨rest, rfl, closed, List.forall_mem_cons.2 ⟨by simpa using passed, unstopped⟩, ?_⟩
          intro later suffix some
          rcases List.suffix_cons_iff.1 suffix with rfl | suffix
          · exact open'
          · exact earlier later suffix some
    · rintro ⟨rest, same, closed, unstopped, earlier⟩
      cases part with
      | nil =>
        obtain rfl : c :: cs = rest := same
        rw [upTo?, closed]
      | cons d part =>
        obtain ⟨rfl, whole⟩ := List.cons.inj same
        obtain rfl : cs = part ++ rest := whole
        obtain ⟨first, others⟩ := List.forall_mem_cons.1 unstopped
        have read := inner.2 ⟨rest, rfl, closed, others,
          fun later suffix some => earlier later (suffix.trans (List.suffix_cons c part)) some⟩
        have open' : close (c :: (part ++ rest)) = none :=
          earlier (c :: part) (List.suffix_refl _) (List.cons_ne_nil c part)
        rw [upTo?, open', if_neg (by simp [first]), read]
        rfl

variable {next : List Char → Option α} {content : List Char}

/-- What closes a comment does not begin within a text and end beyond it. -/
theorem exists_of_append_close {core pad after rest : List Char} (some : core ≠ [])
    (gaps : ∀ c ∈ pad, isGap c = true)
    (same : core ++ (pad ++ ("-->".toList ++ after)) = "-->".toList ++ rest) :
    ∃ more, core = "-->".toList ++ more := by
  have mark : "-->".toList = ['-', '-', '>'] := rfl
  rw [mark] at same ⊢
  match core, some with
  | [c], _ =>
    have second := (List.cons.inj same).2
    cases pad with
    | nil => exact absurd (List.cons.inj (List.cons.inj second).2).1 (by decide)
    | cons g pad =>
      have first := gaps g List.mem_cons_self
      rw [(List.cons.inj second).1] at first
      contradiction
  | [c, d], _ =>
    have third := (List.cons.inj (List.cons.inj same).2).2
    cases pad with
    | nil => exact absurd (List.cons.inj third).1 (by decide)
    | cons g pad =>
      have first := gaps g List.mem_cons_self
      rw [(List.cons.inj third).1] at first
      contradiction
  | c :: d :: e :: more, _ =>
    have first := List.cons.inj same
    have second := List.cons.inj first.2
    have third := List.cons.inj second.2
    exact ⟨more, by rw [first.1, second.1, third.1]; rfl⟩

theorem skipGap_append {pad rest : List Char} (gaps : ∀ c ∈ pad, isGap c = true)
    (stops : ∀ c ∈ rest.head?, isGap c = false) : skipGap (pad ++ rest) = rest :=
  (span_append gaps stops).2

/-- The content of a comment, up to where it is closed for the first time. -/
theorem upTo?_comment_iff :
    upTo? isLineBreak (fun cs => (literal? "-->" (skipGap cs)).bind next) cs =
      some (content, found) ↔
    ∃ pad after, cs = content ++ (pad ++ ("-->".toList ++ after)) ∧ (∀ c ∈ pad, isGap c = true) ∧
      next after = some found ∧ '\n' ∉ content ∧ (∀ c ∈ content.getLast?, isGap c = false) ∧
      ∀ inner more, content = inner ++ ("-->".toList ++ more) →
        next (more ++ (pad ++ ("-->".toList ++ after))) = none := by
  rw [upTo?_eq_some_iff]
  constructor
  · rintro ⟨rest, rfl, closed, unstopped, earlier⟩
    obtain ⟨after, marked, read⟩ := Option.bind_eq_some_iff.1 closed
    have whole : rest = rest.takeWhile isGap ++ ("-->".toList ++ after) := by
      rw [← after?_eq_some_iff.1 marked, skipGap, List.takeWhile_append_dropWhile]
    refine ⟨_, after, congrArg (content ++ ·) whole, fun c member => List.mem_takeWhile_imp member,
      read, fun inside => absurd (unstopped _ inside) (by decide), fun c last => ?_,
      fun inner more same => ?_⟩
    · by_contra gap
      have gap : isGap c = true := by simpa using gap
      obtain ⟨body, same⟩ := List.getLast?_eq_some_iff.1 last
      have open' := earlier [c] ⟨body, same.symm⟩ (List.cons_ne_nil c [])
      have skipped : skipGap ([c] ++ rest) = skipGap rest := List.dropWhile_cons_of_pos gap
      rw [skipped, closed] at open'
      contradiction
    · have open' := earlier ("-->".toList ++ more) ⟨inner, same.symm⟩ (by simp)
      have skipped : skipGap ("-->".toList ++ more ++ rest) = "-->".toList ++ (more ++ rest) := rfl
      rw [skipped, literal?, after?_eq_some_iff.2 rfl] at open'
      rwa [whole] at open'
  · rintro ⟨pad, after, rfl, gaps, read, unbroken, last, none⟩
    have skipped : skipGap (pad ++ ("-->".toList ++ after)) = "-->".toList ++ after :=
      skipGap_append gaps (by rintro c ⟨⟩; rfl)
    refine ⟨_, rfl, ?_, ?_, fun later suffix some => ?_⟩
    · rw [skipped, literal?, after?_eq_some_iff.2 rfl]
      exact read
    · exact fun c member => beq_eq_false_iff_ne.2 fun same => unbroken (same ▸ member)
    · refine Option.eq_none_iff_forall_ne_some.2 fun other closed => ?_
      obtain ⟨rest, marked, read⟩ := Option.bind_eq_some_iff.1 closed
      obtain ⟨before, rfl⟩ := suffix
      have stands : ∃ c ∈ later, isGap c = false := by
        refine ⟨later.getLast some, List.getLast_mem some, last _ ?_⟩
        rw [List.getLast?_append_of_ne_nil _ some]
        exact List.getLast?_eq_getLast_of_ne_nil some
      rw [skipGap, dropWhile_append_of_exists stands] at marked
      obtain ⟨c, member, other⟩ := stands
      have core := List.ne_nil_of_mem (Block.mem_dropWhile member other)
      obtain ⟨more, opens⟩ := exists_of_append_close core gaps (after?_eq_some_iff.1 marked)
      have left : rest = more ++ (pad ++ ("-->".toList ++ after)) := by
        have whole := after?_eq_some_iff.1 marked
        rw [opens, List.append_assoc] at whole
        exact (List.append_cancel_left whole).symm
      have inside : before ++ later =
          (before ++ later.takeWhile isGap) ++ ("-->".toList ++ more) := by
        rw [← opens, List.append_assoc, List.takeWhile_append_dropWhile]
      rw [left, none _ _ inside] at read
      contradiction

end Comments

theorem gap?_eq_some_iff {cs rest : List Char} : gap? cs = some rest ↔
    ∃ gap, gap ≠ [] ∧ cs = gap ++ rest ∧ (∀ c ∈ gap, isGap c = true) ∧
      ∀ c ∈ rest.head?, isGap c = false := by
  constructor
  · intro read
    unfold gap? at read
    split at read
    · rename_i c cs
      split at read
      · rename_i first
        cases read
        refine ⟨c :: cs.takeWhile isGap, List.cons_ne_nil _ _, ?_, ?_, fun d ahead => ?_⟩
        · rw [List.cons_append, skipGap, List.takeWhile_append_dropWhile]
        · exact List.forall_mem_cons.2 ⟨first, fun d member => List.mem_takeWhile_imp member⟩
        · have stops := List.head?_dropWhile_not isGap cs
          rw [skipGap, Option.mem_def] at ahead
          rwa [ahead] at stops
      · contradiction
    · contradiction
  · rintro ⟨gap, apart, rfl, gaps, stops⟩
    obtain ⟨c, gap, rfl⟩ := List.exists_cons_of_ne_nil apart
    obtain ⟨first, others⟩ := List.forall_mem_cons.1 gaps
    rw [List.cons_append, gap?, if_pos first, skipGap_append others stops]

theorem run?_eq_some_iff {p : Char → Bool} {cs part rest : List Char} :
    run? p cs = some (part, rest) ↔ part ≠ [] ∧ cs = part ++ rest ∧ (∀ c ∈ part, p c = true) ∧
      ∀ c ∈ rest.head?, p c = false := by
  constructor
  · intro read
    obtain ⟨same, some⟩ := eq_of_run? read
    obtain ⟨rfl, rfl⟩ := Prod.mk.inj same
    refine ⟨some, List.takeWhile_append_dropWhile.symm,
      fun c member => List.mem_takeWhile_imp member, fun c ahead => ?_⟩
    have stops := List.head?_dropWhile_not p cs
    rw [Option.mem_def] at ahead
    rwa [ahead] at stops
  · rintro ⟨some, rfl, every, stops⟩
    have span := span_append every stops
    rw [run?, span.1, span.2, if_neg (by simpa using some)]

/-- No line ends with a gap where something stands on it. -/
theorem gapLineEnd?_of_mem {body : List Char} (unbroken : '\n' ∉ body)
    (stands : ∃ c ∈ body, isGap c = false) (more : List Char) :
    gapLineEnd? (body ++ more) = none := by
  rw [gapLineEnd?, skipGap, dropWhile_append_of_exists stands]
  obtain ⟨c, member, other⟩ := stands
  have known := Block.mem_dropWhile member other
  cases same : body.dropWhile isGap with
  | nil =>
    rw [same] at known
    contradiction
  | cons d later =>
    have inside : d ∈ body := (List.dropWhile_suffix isGap).subset (same ▸ List.mem_cons_self)
    have other : d ≠ '\n' := fun ended => unbroken (ended ▸ inside)
    rw [List.cons_append, lineEnd?, if_neg other]

end LectureDeck
