import LectureDeck.Deck.Piece
import Mathlib.Data.List.Induction

/-!
# Nesting

Some elements stay open from block to block: lists, choices, quotes and regions. Elements nest when
every closing closes the element that was opened last and none stays open (`LectureDeck.Nested`).
Then every element is closed as often as it is opened (`LectureDeck.Nested.countP_eq`).
-/

namespace LectureDeck

namespace Element

/-- The element is a region. -/
def isRegion : Element → Bool
  | .region .. => true
  | _ => false

/-- The element stays open from block to block. -/
def isWrapper : Element → Bool
  | .list _ => true
  | .choices => true
  | .quote => true
  | .region .. => true
  | _ => false

end Element

theorem Element.isWrapper_of_isRegion (element : Element) (region : element.isRegion = true) :
    element.isWrapper = true := by
  cases element <;> first | rfl | contradiction

namespace Piece

/-- The piece opens an element. -/
def opens (element : Element) : Piece → Bool
  | .opening other => other = element
  | _ => false

/-- The piece closes an element. -/
def closes (element : Element) : Piece → Bool
  | .closing other => other = element
  | _ => false

/-- The piece opens or closes an element of a kind. -/
def isMark (among : Element → Bool) : Piece → Bool
  | .opening element => among element
  | .closing element => among element
  | _ => false

/-- The elements of a kind that are open after a piece, the innermost first, given those that are
open before it. A closing has to close the innermost. -/
def open? (among : Element → Bool) (opened : List Element) : Piece → Option (List Element)
  | .opening element => some (if among element then element :: opened else opened)
  | .closing element =>
    if among element then
      match opened with
      | inner :: outer => if inner = element then some outer else none
      | [] => none
    else some opened
  | _ => some opened

variable {among : Element → Bool} {piece : Piece} {opened after : List Element}

theorem open?_of_not_isMark (plain : piece.isMark among = false) :
    piece.open? among opened = some opened := by
  cases piece with
  | opening element => exact congrArg some (if_neg (ne_true_of_eq_false plain))
  | closing element => exact if_neg (ne_true_of_eq_false plain)
  | _ => rfl

theorem opens_of_not_isMark (plain : piece.isMark among = false) {element : Element}
    (mark : among element = true) : piece.opens element = false := by
  cases piece with
  | opening other =>
    refine decide_eq_false fun same => ?_
    rw [isMark, same, mark] at plain
    contradiction
  | _ => rfl

theorem closes_of_not_isMark (plain : piece.isMark among = false) {element : Element}
    (mark : among element = true) : piece.closes element = false := by
  cases piece with
  | closing other =>
    refine decide_eq_false fun same => ?_
    rw [isMark, same, mark] at plain
    contradiction
  | _ => rfl

theorem not_isMark_of_narrower {within : Element → Bool}
    (narrower : ∀ element, within element = true → among element = true)
    (plain : piece.isMark among = false) : piece.isMark within = false := by
  rw [Bool.eq_false_iff] at plain ⊢
  refine fun mark => plain ?_
  cases piece with
  | opening element => exact narrower element mark
  | closing element => exact narrower element mark
  | _ => contradiction

theorem open?_closing (among : Element → Bool) {element : Element} (mark : among element = true)
    (outer : List Element) : (Piece.closing element).open? among (element :: outer) = some outer :=
  (if_pos mark).trans (if_pos rfl)

/-- A piece that leaves elements open opens one, closes the innermost, or is no mark. -/
theorem open?_cases (taken : piece.open? among opened = some after) :
    (∃ element, piece = .opening element ∧ among element = true ∧ after = element :: opened) ∨
      (∃ element, piece = .closing element ∧ among element = true ∧ opened = element :: after) ∨
      (piece.isMark among = false ∧ after = opened) := by
  cases piece with
  | opening element =>
    by_cases mark : among element = true
    · simp only [open?, mark, if_true, Option.some.injEq] at taken
      exact .inl ⟨element, rfl, mark, taken.symm⟩
    · simp only [open?, mark, Option.some.injEq] at taken
      exact .inr (.inr ⟨by simpa [isMark] using mark, taken.symm⟩)
  | closing element =>
    by_cases mark : among element = true
    · cases opened with
      | nil => simp [open?, mark] at taken
      | cons inner outer =>
        by_cases same : inner = element
        · simp only [open?, mark, same, if_true, Option.some.injEq] at taken
          exact .inr (.inl ⟨element, rfl, mark, by rw [same, taken]⟩)
        · simp [open?, mark, same] at taken
    · simp only [open?, mark, Bool.false_eq_true, if_false, Option.some.injEq] at taken
      exact .inr (.inr ⟨by simpa [isMark] using mark, taken.symm⟩)
  | _ => exact .inr (.inr ⟨rfl, (Option.some.inj taken).symm⟩)

end Piece

/-- The elements of a kind that pieces leave open. -/
def openAfter? (among : Element → Bool) (pieces : List Piece) : Option (List Element) :=
  pieces.foldlM (Piece.open? among) []

/-- The elements of a kind nest: every closing closes the element that was opened last, and at the
end none is open. -/
def Nested (among : Element → Bool) (pieces : List Piece) : Prop :=
  openAfter? among pieces = some []

instance (among : Element → Bool) (pieces : List Piece) : Decidable (Nested among pieces) :=
  inferInstanceAs (Decidable (_ = _))

theorem openAfter?_concat (among : Element → Bool) (pieces : List Piece) (piece : Piece) :
    openAfter? among (pieces ++ [piece]) =
      (openAfter? among pieces).bind fun opened => piece.open? among opened := by
  rw [openAfter?, List.foldlM_append, openAfter?]
  cases List.foldlM (Piece.open? among) [] pieces <;> simp

/-- Of the elements that are open, those of a narrower kind are open among their own. -/
theorem openAfter?_filter {among within : Element → Bool}
    (narrower : ∀ element, within element = true → among element = true) {pieces : List Piece}
    {opened : List Element} (left : openAfter? among pieces = some opened) :
    openAfter? within pieces = some (opened.filter within) := by
  induction pieces using List.reverseRecOn generalizing opened with
  | nil =>
    obtain rfl := Option.some.inj left
    rfl
  | append_singleton pieces piece earlier =>
    rw [openAfter?_concat, Option.bind_eq_some_iff] at left
    obtain ⟨before, run, step⟩ := left
    rw [openAfter?_concat, earlier run, Option.bind_some]
    rcases Piece.open?_cases step with ⟨other, rfl, -, rfl⟩ | ⟨other, rfl, -, rfl⟩ | ⟨plain, rfl⟩
    · cases inside : within other <;> simp [Piece.open?, inside]
    · cases inside : within other <;> simp [Piece.open?, inside]
    · exact Piece.open?_of_not_isMark (Piece.not_isMark_of_narrower narrower plain)

/-- Elements that nest nest among those of a narrower kind. -/
theorem Nested.mono {among within : Element → Bool} {pieces : List Piece}
    (nested : Nested among pieces)
    (narrower : ∀ element, within element = true → among element = true) : Nested within pieces :=
  openAfter?_filter narrower nested

/-- Elements that are open were opened more often than they were closed. -/
theorem countP_opens_of_openAfter? {among : Element → Bool} {element : Element}
    (mark : among element = true) {pieces : List Piece} {opened : List Element}
    (left : openAfter? among pieces = some opened) :
    pieces.countP (Piece.opens element) =
      pieces.countP (Piece.closes element) + opened.count element := by
  induction pieces using List.reverseRecOn generalizing opened with
  | nil =>
    obtain rfl := Option.some.inj left
    rfl
  | append_singleton pieces piece earlier =>
    rw [openAfter?_concat, Option.bind_eq_some_iff] at left
    obtain ⟨before, run, step⟩ := left
    have counted := earlier run
    simp only [List.countP_append, List.countP_singleton]
    -- Only an element that is the one counted changes either side.
    rcases Piece.open?_cases step with ⟨other, rfl, -, rfl⟩ | ⟨other, rfl, -, rfl⟩ | ⟨plain, rfl⟩
    · by_cases same : other = element
      · simp [Piece.opens, Piece.closes, same, counted]
        omega
      · simp [Piece.opens, Piece.closes, same, counted]
    · by_cases same : other = element
      · simp [Piece.opens, Piece.closes, same, counted]
        omega
      · simp [Piece.opens, Piece.closes, same, counted]
    · simp [Piece.opens_of_not_isMark plain mark, Piece.closes_of_not_isMark plain mark, counted]

/-- **Elements that nest are closed as often as they are opened.** -/
theorem Nested.countP_eq {among : Element → Bool} {pieces : List Piece}
    (nested : Nested among pieces) {element : Element} (mark : among element = true) :
    pieces.countP (Piece.opens element) = pieces.countP (Piece.closes element) :=
  countP_opens_of_openAfter? mark nested

end LectureDeck
