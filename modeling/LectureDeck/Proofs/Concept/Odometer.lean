import LectureDeck.Proofs.Concept.Combinations
import LectureDeck.Proofs.Result
import Mathlib.Data.List.Sort

/-!
# Positions that move on

Positions move on like the digits of a counter: the last one that can is raised, and those after it
are put right behind it. The indices and differences that this takes are in bounds, and all choices
are come to, each once, in lexicographic order (`LectureDeck.listsChoices_combinations`).
-/

namespace LectureDeck

/-- Positions that choose a number of items among others. -/
structure IsChoice (count size : Nat) (positions : List Nat) : Prop where
  length : positions.length = size
  ascends : positions.Pairwise (· < ·)
  below : ∀ position ∈ positions, position < count

section Choices

variable {count size first : Nat} {rest next positions : List Nat}

/-- Behind a position, there are as many others as stand after it. -/
theorem add_length_lt (ascends : (first :: rest).Pairwise (· < ·))
    (below : ∀ position ∈ first :: rest, position < count) : first + rest.length < count := by
  induction rest generalizing first with
  | nil => exact below first List.mem_cons_self
  | cons second rest later =>
    obtain ⟨least, others⟩ := List.pairwise_cons.1 ascends
    have step := least second List.mem_cons_self
    have room := later others (List.forall_mem_cons.1 below).2
    rw [List.length_cons]
    omega

/-- Positions that move on stay beyond what they were beyond. -/
theorem lt_of_mem_next {bound : Nat} (beyond : ∀ position ∈ positions, bound < position)
    (moves : nextPositions? count positions = some next) : ∀ position ∈ next, bound < position := by
  induction positions generalizing next with
  | nil => contradiction
  | cons first rest later =>
    obtain ⟨least, others⟩ := List.forall_mem_cons.1 beyond
    unfold nextPositions? at moves
    split at moves
    · rename_i inner
      cases moves
      exact List.forall_mem_cons.2 ⟨least, later others inner⟩
    · split at moves
      · cases moves
        intro position member
        exact least.trans (List.mem_range'_1.1 member).1
      · contradiction

/-- Positions that move on choose as many items. -/
theorem IsChoice.of_next (choice : IsChoice count size positions)
    (moves : nextPositions? count positions = some next) : IsChoice count size next := by
  induction positions generalizing size next with
  | nil => contradiction
  | cons first rest later =>
    obtain ⟨least, ascends⟩ := List.pairwise_cons.1 choice.ascends
    obtain ⟨low, below⟩ := List.forall_mem_cons.1 choice.below
    have length := (positionRank_lt_of_next moves).1
    unfold nextPositions? at moves
    split at moves
    · rename_i inner
      cases moves
      have next := later ⟨rfl, ascends, below⟩ inner
      exact ⟨length.trans choice.length,
        List.pairwise_cons.2 ⟨lt_of_mem_next least inner, next.ascends⟩,
        List.forall_mem_cons.2 ⟨low, next.below⟩⟩
    · split at moves
      · cases moves
        refine ⟨length.trans choice.length, List.pairwise_lt_range', fun position member => ?_⟩
        have within := (List.mem_range'_1.1 member).2
        omega
      · contradiction

theorem nextPositions?_append (moves : nextPositions? count rest = some next) (init : List Nat) :
    nextPositions? count (init ++ rest) = some (init ++ next) := by
  induction init with
  | nil => exact moves
  | cons first init later => rw [List.cons_append, nextPositions?, later]; rfl

/-- The choices among a number of items are the ascending lists of positions below that number. -/
theorem mem_sublists_range_iff :
    positions ∈ sublistsOfLength size (List.range count) ↔ IsChoice count size positions := by
  rw [mem_sublistsOfLength]
  constructor
  · rintro ⟨inside, length⟩
    exact ⟨length, List.pairwise_lt_range.sublist inside,
      fun position member => List.mem_range.1 (inside.subset member)⟩
  · intro choice
    have within : positions.Subperm (List.range count) :=
      List.subperm_of_subset (choice.ascends.imp Nat.ne_of_lt)
        fun position member => List.mem_range.2 (choice.below position member)
    exact ⟨List.sublist_of_subperm_of_pairwise within choice.ascends List.pairwise_lt_range,
      choice.length⟩

end Choices

namespace Odometer

variable {α β : Type}

/-- What may go wrong with indices: nothing stands there, or a difference is below zero. -/
inductive Failure
  | outOfRange
  | belowZero

def entryAt (entries : List α) (index : Nat) : Except Failure α :=
  match entries[index]? with
  | some entry => .ok entry
  | none => .error .outOfRange

def setAt (entries : List α) (index : Nat) (entry : α) : Except Failure (List α) :=
  if index < entries.length then .ok (entries.set index entry) else .error .outOfRange

def difference (total part : Nat) : Except Failure Nat :=
  if part ≤ total then .ok (total - part) else .error .belowZero

/-- The last of the indices below a bound at which the position is not the largest one that leaves
room for those after it. -/
def movable (count size : Nat) (positions : List Nat) : Nat → Except Failure (Option Nat)
  | 0 => .ok none
  | index + 1 => do
    let position ← entryAt positions index
    let largest ← difference (index + count) size
    if position = largest then movable count size positions index else .ok (some index)

/-- Some positions, from an index on, are put right behind the one before. -/
def close (positions : List Nat) (index : Nat) : Nat → Except Failure (List Nat)
  | 0 => .ok positions
  | more + 1 => do
    let before ← difference index 1
    let position ← entryAt positions before
    let positions ← setAt positions index (position + 1)
    close positions (index + 1) more

/-- The position at an index is raised, and those after it are put right behind it. -/
def raise (size : Nat) (positions : List Nat) (index : Nat) : Except Failure (List Nat) := do
  let position ← entryAt positions index
  let positions ← setAt positions index (position + 1)
  close positions (index + 1) (size - (index + 1))

/-- The positions that come next, if any do. -/
def turn (count size : Nat) (positions : List Nat) : Except Failure (Option (List Nat)) := do
  match ← movable count size positions size with
  | some index => some <$> raise size positions index
  | none => .ok none

/-- Items are chosen at positions, which move on until they no longer can. -/
inductive Chooses (items : List α) (size : Nat) : List Nat → List (List α) → Prop
  | last {positions : List Nat} {chosen : List α}
      (reads : positions.mapM (entryAt items) = .ok chosen)
      (stops : turn items.length size positions = .ok none) : Chooses items size positions [chosen]
  | cons {positions next : List Nat} {chosen : List α} {later : List (List α)}
      (reads : positions.mapM (entryAt items) = .ok chosen)
      (moves : turn items.length size positions = .ok (some next))
      (chooses : Chooses items size next later) : Chooses items size positions (chosen :: later)

section Turns

variable {count size : Nat} {init rest positions : List Nat}

theorem ok_bind (value : α) (rest : α → Except Failure β) : .ok value >>= rest = rest value := rfl

theorem entryAt_append (init : List α) (entry : α) (rest : List α) :
    entryAt (init ++ entry :: rest) init.length = .ok entry := by
  simp [entryAt]

theorem setAt_append (init : List α) (entry new : α) (rest : List α) :
    setAt (init ++ entry :: rest) init.length new = .ok (init ++ new :: rest) := by
  simp [setAt]

theorem difference_of_le {total part : Nat} (fits : part ≤ total) :
    difference total part = .ok (total - part) := if_pos fits

/-- Closing puts consecutive positions behind one. -/
theorem close_append (init : List Nat) (position : Nat) (rest : List Nat) :
    close (init ++ position :: rest) (init.length + 1) rest.length =
      .ok (init ++ List.range' position (rest.length + 1)) := by
  induction rest generalizing init position with
  | nil => rfl
  | cons other rest later =>
    have before : difference (init.length + 1) 1 = .ok init.length :=
      difference_of_le (Nat.le_add_left 1 _)
    have raised := setAt_append (init ++ [position]) other (position + 1) rest
    have closed := later (init ++ [position]) (position + 1)
    simp only [List.append_assoc, List.singleton_append, List.length_append, List.length_cons,
      List.length_nil, Nat.zero_add] at raised closed
    rw [List.length_cons, close, before, ok_bind, entryAt_append, ok_bind, raised, ok_bind]
    exact closed

theorem raise_append (init : List Nat) (position : Nat) (rest : List Nat) :
    raise (init.length + 1 + rest.length) (init ++ position :: rest) init.length =
      .ok (init ++ List.range' (position + 1) (rest.length + 1)) := by
  rw [raise, entryAt_append, ok_bind, setAt_append, ok_bind, Nat.add_sub_cancel_left, close_append]

/-- Before positions that can no longer move, one is looked for that can. -/
theorem movable_append (choice : IsChoice count size (init ++ rest))
    (stuck : nextPositions? count rest = none) :
    movable count size (init ++ rest) init.length = .ok none ∧
        nextPositions? count (init ++ rest) = none ∨
      ∃ before position after, init ++ rest = before ++ position :: after ∧
        movable count size (init ++ rest) init.length = .ok (some before.length) ∧
        nextPositions? count (position :: after) =
          some (List.range' (position + 1) (after.length + 1)) := by
  induction init using List.reverseRecOn generalizing rest with
  | nil => exact .inl ⟨rfl, stuck⟩
  | append_singleton init position earlier =>
    rw [List.append_assoc, List.singleton_append] at choice ⊢
    have room : position + rest.length < count :=
      add_length_lt (List.pairwise_append.1 choice.ascends).2.1
        fun other member => choice.below other (List.mem_append_right init member)
    have total : init.length + 1 + rest.length = size := by
      have length := choice.length
      rw [List.length_append, List.length_cons] at length
      omega
    have largest : difference (init.length + count) size = .ok (count - (rest.length + 1)) := by
      rw [difference_of_le (by omega)]
      congr 1
      omega
    rw [List.length_append, List.length_singleton, movable, entryAt_append, ok_bind, largest,
      ok_bind]
    by_cases last : position = count - (rest.length + 1)
    · rw [if_pos last]
      refine earlier choice ?_
      rw [nextPositions?, stuck]
      exact if_neg (by omega)
    · rw [if_neg last]
      refine .inr ⟨init, position, rest, rfl, rfl, ?_⟩
      rw [nextPositions?, stuck]
      exact if_pos (by omega)

/-- A turn does not fail, and comes to the next positions. -/
theorem turn_eq (choice : IsChoice count size positions) :
    turn count size positions = .ok (nextPositions? count positions) := by
  have whole : positions ++ [] = positions := List.append_nil positions
  have nothingBehind : IsChoice count size (positions ++ []) := whole.symm ▸ choice
  have found := movable_append nothingBehind rfl
  rw [whole, choice.length] at found
  unfold turn
  rcases found with ⟨found, stuck⟩ | ⟨before, position, after, rfl, found, moves⟩
  · rw [found, stuck, ok_bind]
  · have total : size = before.length + 1 + after.length := by
      have length := choice.length
      rw [List.length_append, List.length_cons] at length
      omega
    rw [found, ok_bind, nextPositions?_append moves, total]
    change some <$> raise _ _ before.length = _
    rw [raise_append]
    rfl

end Turns

section Runs

variable {items : List α} {size : Nat}

/-- Items are read at positions that are among theirs. -/
theorem mapM_entryAt {positions : List Nat}
    (below : ∀ position ∈ positions, position < items.length) (other : α) :
    positions.mapM (entryAt items) =
      .ok (positions.map fun position => items.getD position other) := by
  induction positions with
  | nil => rfl
  | cons first rest later =>
    obtain ⟨low, below⟩ := List.forall_mem_cons.1 below
    have reads : entryAt items first = .ok (items.getD first other) := by
      simp [entryAt, low]
    rw [List.mapM_cons, reads, later below]
    rfl

/-- From any choice on, items are chosen without failure, and to an end. -/
theorem chooses_positionsFrom {positions : List Nat} (other : α)
    (choice : IsChoice items.length size positions) :
    Chooses items size positions ((positionsFrom items.length positions).map fun positions =>
      positions.map fun position => items.getD position other) := by
  have reads := mapM_entryAt choice.below other
  have turned := turn_eq choice
  rw [positionsFrom, List.map_cons]
  split
  · rename_i next moves
    rw [moves] at turned
    exact .cons reads turned (chooses_positionsFrom other (choice.of_next moves))
  · rename_i stuck
    rw [stuck] at turned
    exact .last reads turned
termination_by positionRank items.length positions
decreasing_by exact (positionRank_lt_of_next ‹_›).2

end Runs

end Odometer

/-- The choices of a number of items, by their positions. -/
structure ListsChoices (items : List String) (size : Nat) (chosen : List (List String)) : Prop where
  /-- They are come to from the first positions on, and no index or difference is out of bounds. -/
  chooses : Odometer.Chooses items size (List.range size) chosen
  /-- Every choice of positions is come to once, in lexicographic order. -/
  exists_visited : ∃ visited : List (List Nat),
    (∀ positions, positions ∈ visited ↔ IsChoice items.length size positions) ∧
      visited.Pairwise (· < ·) ∧
      List.Forall₂ (fun positions texts => positions.map (items[·]?) = texts.map some)
        visited chosen
  length : chosen.length = items.length.choose size

/-- **Combinations are all choices of a number of items**, in the order of their positions. -/
theorem listsChoices_combinations (items : List String) (size : Nat) :
    (0 < size ∧ size ≤ items.length → ListsChoices items size (combinations items size)) ∧
      (size = 0 ∨ items.length < size → combinations items size = []) := by
  constructor
  · rintro ⟨positive, fits⟩
    have visited : positionsFrom items.length (List.range size) =
        sublistsOfLength size (List.range items.length) := by
      rw [List.range_eq_range', positionsFrom_range' (by omega), Nat.sub_zero, List.range_eq_range']
    have first : IsChoice items.length size (List.range size) :=
      ⟨List.length_range, List.pairwise_lt_range,
        fun position member => Nat.lt_of_lt_of_le (List.mem_range.1 member) fits⟩
    have chosen : combinations items size =
        (positionsFrom items.length (List.range size)).map fun positions =>
          positions.map fun position => items.getD position "" := by
      rw [combinations, if_neg (by simp; omega)]
    refine ⟨chosen ▸ Odometer.chooses_positionsFrom "" first,
      ⟨sublistsOfLength size (List.range items.length), fun positions => mem_sublists_range_iff,
        pairwise_sublistsOfLength List.pairwise_lt_range size, ?_⟩, ?_⟩
    · rw [chosen, visited, List.forall₂_map_right_iff, List.forall₂_same]
      intro positions member
      rw [List.map_map]
      refine List.map_congr_left fun position inside => ?_
      have below := (mem_sublists_range_iff.1 member).below position inside
      simp [below]
    · rw [combinations_eq (Nat.ne_of_gt positive), length_sublistsOfLength]
  · intro none
    rw [combinations, if_pos (by simpa using none)]

/-- Items that are equal are chosen apart. -/
example : combinations ["a", "b", "a"] 2 = [["a", "b"], ["a", "a"], ["b", "a"]] := by cbv

end LectureDeck
