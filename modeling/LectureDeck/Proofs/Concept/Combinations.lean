import LectureDeck.Concept.Subquestion
import Mathlib.Data.List.Nodup
import Mathlib.Data.Nat.Choose.Basic

/-!
# Combinations

Positions that move on one by one come to all choices of a number of items, each once
(`LectureDeck.combinations_eq`).
-/

namespace LectureDeck

section Sublists

variable {α β : Type}

/-- The sublists of a list with a number of items. Those with the first item come before those
without it. -/
def sublistsOfLength : Nat → List α → List (List α)
  | 0, _ => [[]]
  | _ + 1, [] => []
  | size + 1, first :: rest =>
    (sublistsOfLength size rest).map (first :: ·) ++ sublistsOfLength (size + 1) rest

theorem mem_sublistsOfLength {size : Nat} {items chosen : List α} :
    chosen ∈ sublistsOfLength size items ↔ chosen.Sublist items ∧ chosen.length = size := by
  induction items generalizing size chosen with
  | nil =>
    cases size with
    | zero => simp [sublistsOfLength]
    | succ size =>
      refine iff_of_false List.not_mem_nil ?_
      rintro ⟨inside, length⟩
      rw [List.sublist_nil.1 inside] at length
      contradiction
  | cons first rest later =>
    cases size with
    | zero =>
      rw [sublistsOfLength, List.mem_singleton, List.length_eq_zero_iff]
      exact (and_iff_right_of_imp fun none => none ▸ List.nil_sublist _).symm
    | succ size =>
      rw [sublistsOfLength, List.mem_append, List.mem_map, later, List.sublist_cons_iff]
      constructor
      · rintro (⟨others, member, rfl⟩ | ⟨inside, length⟩)
        · obtain ⟨inside, length⟩ := later.1 member
          exact ⟨.inr ⟨others, rfl, inside⟩, congrArg (· + 1) length⟩
        · exact ⟨.inl inside, length⟩
      · rintro ⟨inside | ⟨others, rfl, inside⟩, length⟩
        · exact .inr ⟨inside, length⟩
        · exact .inl ⟨others, later.2 ⟨inside, Nat.succ.inj length⟩, rfl⟩

theorem nodup_sublistsOfLength {size : Nat} {items : List α} (distinct : items.Nodup) :
    (sublistsOfLength size items).Nodup := by
  induction items generalizing size with
  | nil => cases size <;> simp [sublistsOfLength]
  | cons first rest later =>
    cases size with
    | zero => exact List.nodup_singleton _
    | succ size =>
      obtain ⟨new, distinct⟩ := List.nodup_cons.1 distinct
      rw [sublistsOfLength, List.nodup_append]
      refine ⟨(later distinct).map fun _ _ => List.tail_eq_of_cons_eq, later distinct, ?_⟩
      rintro _ withFirst _ without rfl
      obtain ⟨others, -, rfl⟩ := List.mem_map.1 withFirst
      have inside := (mem_sublistsOfLength.1 without).1
      exact new (inside.subset List.mem_cons_self)

theorem sublistsOfLength_map (image : α → β) (size : Nat) (items : List α) :
    sublistsOfLength size (items.map image) =
      (sublistsOfLength size items).map (List.map image) := by
  induction items generalizing size with
  | nil => cases size <;> rfl
  | cons first rest later =>
    cases size with
    | zero => rfl
    | succ size =>
      rw [List.map_cons, sublistsOfLength, sublistsOfLength, later, later, List.map_append,
        List.map_map, List.map_map]
      rfl

theorem sublistsOfLength_of_lt {size : Nat} {items : List α} (short : items.length < size) :
    sublistsOfLength size items = [] := by
  apply List.eq_nil_iff_forall_not_mem.2
  intro chosen member
  obtain ⟨inside, length⟩ := mem_sublistsOfLength.1 member
  have fewer := inside.length_le
  omega

theorem length_sublistsOfLength (size : Nat) (items : List α) :
    (sublistsOfLength size items).length = items.length.choose size := by
  induction items generalizing size with
  | nil =>
    cases size with
    | zero => rfl
    | succ size => rfl
  | cons first rest later =>
    cases size with
    | zero => exact (Nat.choose_zero_right _).symm
    | succ size =>
      rw [sublistsOfLength, List.length_append, List.length_map, later, later, List.length_cons,
        Nat.choose_succ_succ]

/-- Sublists of an ascending list are in lexicographic order. -/
theorem pairwise_sublistsOfLength {items : List Nat} (ascends : items.Pairwise (· < ·))
    (size : Nat) : (sublistsOfLength size items).Pairwise (· < ·) := by
  induction items generalizing size with
  | nil => cases size <;> simp [sublistsOfLength]
  | cons first rest later =>
    obtain ⟨least, ascends⟩ := List.pairwise_cons.1 ascends
    cases size with
    | zero => exact List.pairwise_singleton _ _
    | succ size =>
      rw [sublistsOfLength, List.pairwise_append]
      refine ⟨?_, later ascends _, ?_⟩
      · exact List.pairwise_map.2 ((later ascends size).imp fun before => List.Lex.cons before)
      · intro withFirst member other without
        obtain ⟨others, -, rfl⟩ := List.mem_map.1 member
        obtain ⟨inside, length⟩ := mem_sublistsOfLength.1 without
        cases other with
        | nil => contradiction
        | cons second others =>
          exact List.Lex.rel (least second (inside.subset List.mem_cons_self))

end Sublists

section Positions

variable {count : Nat}

theorem positionsFrom_nil : positionsFrom count [] = [[]] := by
  rw [positionsFrom]
  rfl

/-- All later positions come before the first one moves. -/
theorem positionsFrom_cons (first : Nat) (rest : List Nat) :
    positionsFrom count (first :: rest) = (positionsFrom count rest).map (first :: ·) ++
      if first + rest.length + 1 < count then
        positionsFrom count (List.range' (first + 1) (rest.length + 1))
      else [] := by
  rw [positionsFrom, positionsFrom.eq_def count rest]
  cases moves : nextPositions? count rest with
  | some later =>
    have length := (positionRank_lt_of_next moves).1
    have next : nextPositions? count (first :: rest) = some (first :: later) := by
      rw [nextPositions?, moves]
    rw [List.map_cons, List.cons_append]
    split <;> rename_i found
    all_goals rw [next] at found; cases found
    rw [positionsFrom_cons first later, length]
  | none =>
    have next : nextPositions? count (first :: rest) = if first + rest.length + 1 < count then
        some (List.range' (first + 1) (rest.length + 1)) else none := by
      rw [nextPositions?, moves]
    rw [List.map_cons, List.map_nil, List.cons_append, List.nil_append]
    by_cases room : first + rest.length + 1 < count
    · rw [if_pos room] at next ⊢
      split <;> rename_i found
      · rw [next] at found
        rw [Option.some.inj found]
      · rw [next] at found
        contradiction
    · rw [if_neg room] at next ⊢
      split <;> rename_i found
      · rw [next] at found
        contradiction
      · rfl
termination_by positionRank count rest
decreasing_by exact (positionRank_lt_of_next moves).2

/-- From the first positions on come all. -/
theorem positionsFrom_range' {start size : Nat} (fits : start + size ≤ count) :
    positionsFrom count (List.range' start size) =
      sublistsOfLength size (List.range' start (count - start)) := by
  cases size with
  | zero =>
    rw [List.range'_zero, positionsFrom_nil]
    cases List.range' start (count - start) <;> rfl
  | succ size =>
    have items : List.range' start (count - start) =
        start :: List.range' (start + 1) (count - (start + 1)) := by
      rw [← List.range'_succ]
      congr 1
      omega
    rw [items, sublistsOfLength, List.range'_succ, positionsFrom_cons, List.length_range',
      positionsFrom_range' (by omega)]
    by_cases room : start + size + 1 < count
    · rw [if_pos room, positionsFrom_range' (by omega)]
    · have short : (List.range' (start + 1) (count - (start + 1))).length < size + 1 := by
        rw [List.length_range']
        omega
      rw [if_neg room, sublistsOfLength_of_lt short]
termination_by count - start

end Positions

/-- **Combinations are the sublists of their size**, in order. -/
theorem combinations_eq {items : List String} {size : Nat} (some : size ≠ 0) :
    combinations items size = sublistsOfLength size items := by
  unfold combinations
  split
  · rename_i short
    rw [sublistsOfLength_of_lt (by simpa [some] using short)]
  · rename_i fits
    have within : 0 + size ≤ items.length := by simpa [some] using fits
    have all : items = (List.range' 0 items.length).map fun position => items.getD position "" := by
      apply List.ext_getElem
      · simp
      · intro position inside _
        simp [inside]
    rw [List.range_eq_range', positionsFrom_range' within, Nat.sub_zero, ← sublistsOfLength_map,
      ← all]

end LectureDeck
