import LectureDeck.Page.Presentation
import LectureDeck.Proofs.Page.Nesting
import LectureDeck.Proofs.Stepwise

/-!
# Scripts of slides

A script is what a slide wrote, with the regions in which each piece was written. These are the
regions that the script itself opened and did not close (`LectureDeck.Script.IsStamped`). What a
page shows of a script leaves out whole regions, so that elements that nest in the script nest on
the page (`LectureDeck.Script.nested_shown`).
-/

namespace LectureDeck

/-- The kind of a region. -/
def Element.region? : Element → Option Region
  | .region kind _ => some kind
  | _ => none

namespace Piece

/-- The regions that are open after a piece, the innermost first, given those open before it. -/
def regionsAfter (opened : List Region) : Piece → List Region
  | .opening (.region kind _) => kind :: opened
  | .closing (.region ..) => opened.tail
  | _ => opened

/-- The regions around a piece, given those open before it. The opening of a region is in it. -/
def regionsAround (opened : List Region) : Piece → List Region
  | .opening (.region kind _) => kind :: opened
  | _ => opened

variable {piece : Piece} {opened : List Region}

theorem regionsAfter_of_not_isMark (plain : piece.isMark Element.isRegion = false) :
    piece.regionsAfter opened = opened := by
  cases piece with
  | opening element => cases element <;> first | rfl | contradiction
  | closing element => cases element <;> first | rfl | contradiction
  | _ => rfl

theorem regionsAround_of_not_isMark (plain : piece.isMark Element.isRegion = false) :
    piece.regionsAround opened = opened := by
  cases piece with
  | opening element => cases element <;> first | rfl | contradiction
  | _ => rfl

end Piece

namespace Script

/-- The pieces of a script. -/
def pieces (script : List Entry) : List Piece := script.map Entry.piece

/-- The pieces of a script that a page shows. -/
def shown (strip : Strip) (script : List Entry) : List Piece :=
  (script.filter (Entry.isShown strip)).map Entry.piece

/-- The regions that a script leaves open, the innermost first. -/
def regions (script : List Entry) : List Region := (pieces script).foldl Piece.regionsAfter []

/-- Every piece of a script carries the regions that are open where it was written. -/
def IsStamped (script : List Entry) : Prop :=
  Stepwise (fun before entry => entry.regions = entry.piece.regionsAround (regions before)) script

theorem pieces_concat (script : List Entry) (entry : Entry) :
    pieces (script ++ [entry]) = pieces script ++ [entry.piece] := by
  simp [pieces]

theorem regions_concat (script : List Entry) (entry : Entry) :
    regions (script ++ [entry]) = entry.piece.regionsAfter (regions script) := by
  rw [regions, pieces_concat, List.foldl_append]
  rfl

theorem shown_concat (strip : Strip) (script : List Entry) (entry : Entry) :
    shown strip (script ++ [entry]) =
      if entry.isShown strip then shown strip script ++ [entry.piece] else shown strip script := by
  by_cases visible : entry.isShown strip = true <;> simp [shown, visible]

/-- The kinds of the regions among elements. -/
def kinds (opened : List Element) : List Region := opened.filterMap Element.region?

section Shown

variable {among : Element → Bool} {script : List Entry} {opened : List Element}

/-- Regions that were open stay open around those that pieces open and do not close. -/
theorem foldl_regionsAfter (every : ∀ kind id, among (.region kind id) = true) {part : List Piece}
    (outer : List Region) (left : openAfter? among part = some opened) :
    part.foldl Piece.regionsAfter outer = kinds opened ++ outer := by
  induction part using List.reverseRecOn generalizing opened with
  | nil =>
    obtain rfl := Option.some.inj left
    rfl
  | append_singleton part piece earlier =>
    rw [openAfter?_concat, Option.bind_eq_some_iff] at left
    obtain ⟨before, run, step⟩ := left
    rw [List.foldl_append, earlier run]
    rcases Piece.open?_cases step with ⟨other, rfl, -, rfl⟩ | ⟨other, rfl, -, rfl⟩ | ⟨plain, rfl⟩
    · cases other <;> rfl
    · cases other <;> rfl
    · refine Piece.regionsAfter_of_not_isMark (Piece.not_isMark_of_narrower ?_ plain)
      intro element region
      cases element <;> first | exact every _ _ | contradiction

/-- The regions that a script leaves open are among the elements that it leaves open. -/
theorem regions_eq_kinds (every : ∀ kind id, among (.region kind id) = true)
    (left : openAfter? among (pieces script) = some opened) : regions script = kinds opened :=
  (foldl_regionsAfter every [] left).trans (List.append_nil _)

/-- Of the elements that are open, those that a page shows. -/
def visible (strip : Strip) : List Element → List Element
  | [] => []
  | element :: outer =>
    if (kinds (element :: outer)).any strip.omits then visible strip outer
    else element :: visible strip outer

theorem omitsPiece_of_isMark {strip : Strip} {piece : Piece} (mark : piece.isMark among = true) :
    strip.omitsPiece piece = false := by
  cases piece <;> first | rfl | contradiction

/-- A mark that was not discarded, unless a region around it is left out, is shown unless a region
around it is left out. -/
theorem isShown_of_isMark {strip : Strip} {entry : Entry} (mark : entry.piece.isMark among = true)
    (kept : entry.isDiscarded = true → entry.regions.any strip.omits = true) :
    entry.isShown strip = !entry.regions.any strip.omits := by
  rw [Entry.isShown, omitsPiece_of_isMark mark]
  cases isOmitted : entry.regions.any strip.omits with
  | true => simp
  | false =>
    have shown : entry.isDiscarded = false := by
      by_contra discarded
      rw [kept (by simpa using discarded)] at isOmitted
      contradiction
    simp [shown]

theorem openAfter?_shown (every : ∀ kind id, among (.region kind id) = true) {strip : Strip}
    (stamped : IsStamped script)
    (kept : ∀ entry ∈ script, entry.piece.isMark among = true → entry.isDiscarded = true →
      entry.regions.any strip.omits = true)
    (left : openAfter? among (pieces script) = some opened) :
    openAfter? among (shown strip script) = some (visible strip opened) := by
  induction script using List.reverseRecOn generalizing opened with
  | nil =>
    obtain rfl := Option.some.inj left
    rfl
  | append_singleton script entry earlier =>
    rw [pieces_concat, openAfter?_concat, Option.bind_eq_some_iff] at left
    obtain ⟨before, run, step⟩ := left
    obtain ⟨stamped, last⟩ := Stepwise.concat_iff.1 stamped
    rw [regions_eq_kinds every run] at last
    have shown := earlier stamped (fun entry member => kept entry (by simp [member])) run
    have kept := kept entry (by simp)
    rw [shown_concat]
    rcases Piece.open?_cases step with
      ⟨element, same, mark, rfl⟩ | ⟨element, same, mark, rfl⟩ | ⟨plain, rfl⟩
    -- An opening is in its own region, and so is a closing: both ask the same question.
    · have around : entry.regions = kinds (element :: before) := by
        rw [last, same]
        cases element <;> rfl
      have marks : entry.piece.isMark among = true := same ▸ mark
      rw [isShown_of_isMark marks (kept marks), around, visible]
      cases (kinds (element :: before)).any strip.omits
      · simp [openAfter?_concat, shown, same, Piece.open?, mark]
      · simpa using shown
    · have around : entry.regions = kinds (element :: opened) := by rw [last, same]; rfl
      have marks : entry.piece.isMark among = true := same ▸ mark
      rw [isShown_of_isMark marks (kept marks), around]
      rw [visible] at shown
      cases isOmitted : (kinds (element :: opened)).any strip.omits
      · rw [isOmitted] at shown
        simp only [Bool.false_eq_true, if_false] at shown
        simp [openAfter?_concat, shown, same, Piece.open?_closing among mark]
      · rw [isOmitted] at shown
        simpa using shown
    · split
      · rw [openAfter?_concat, shown]
        exact Piece.open?_of_not_isMark plain
      · exact shown

/-- **Leaving regions out keeps elements nested.** Elements that nest in a script, regions among
them, nest on the page, unless the mark of one was discarded that the page should show. -/
theorem nested_shown (every : ∀ kind id, among (.region kind id) = true) {strip : Strip}
    (nested : Nested among (pieces script)) (stamped : IsStamped script)
    (kept : ∀ entry ∈ script, entry.piece.isMark among = true → entry.isDiscarded = true →
      entry.regions.any strip.omits = true) :
    Nested among (shown strip script) :=
  openAfter?_shown every stamped kept nested

end Shown

end Script

end LectureDeck
