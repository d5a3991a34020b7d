import LectureDeck.Proofs.Concept.Keys
import LectureDeck.Proofs.Text.Edges

/-!
# Lower case again

A text in lower case stays as it is when it is lower-cased again
(`LectureDeck.Text.lowercase_lowercase`), and has blank characters at its edges where the text had
them (`LectureDeck.Text.isTrimmed_lowercase_iff`). Both come from the table of shifts: no shift
applies to what a shift leads to, and no shift leads to a blank character or away from one.
-/

namespace LectureDeck.Text

/-- The code points from one to another lie beside a range. -/
def besides (first last : Nat) (range : Nat × Nat) : Bool :=
  last.blt range.1 || range.2.blt first

theorem of_besides {first last code : Nat} {range : Nat × Nat}
    (beside : besides first last range = true) (low : first ≤ code) (high : code ≤ last) :
    ¬ (range.1 ≤ code ∧ code ≤ range.2) := by
  unfold besides at beside
  rw [Bool.or_eq_true, Nat.blt_eq, Nat.blt_eq] at beside
  omega

/-- The blank characters. -/
def blankRanges : List (Nat × Nat) :=
  [(0x9, 0xd), (0x20, 0x20), (0x85, 0x85), (0xa0, 0xa0), (0x1680, 0x1680), (0x2000, 0x200a),
    (0x2028, 0x2029), (0x202f, 0x202f), (0x205f, 0x205f), (0x3000, 0x3000)]

namespace Shift

/-- The code point that another one becomes. -/
def image (shift : Shift) (code : Nat) : Nat := (Int.ofNat code + shift.distance).toNat

/-- No code point of those from one to another, in steps, is in a run: they lie beside it, or in the
gaps between its characters. -/
def isMissed (first last stride : Nat) (shift : Shift) : Bool :=
  last.blt shift.first || shift.last.blt first ||
    ((stride.beq 2 || first.beq last) && shift.stride.beq 2 && ((first + shift.first) % 2).beq 1)

section Table

/-- No image of a run is in a run. -/
theorem isMissed_of_mem : ∀ shift ∈ lowerShifts, ∀ other ∈ lowerShifts,
    isMissed (shift.image shift.first) (shift.image shift.last) shift.stride other = true := by
  have every : (lowerShifts.all fun shift => lowerShifts.all
      (isMissed (shift.image shift.first) (shift.image shift.last) shift.stride)) = true := by
    decide +kernel
  exact fun shift member => List.all_eq_true.1 (List.all_eq_true.1 every shift member)

theorem positive_of_mem : ∀ shift ∈ lowerShifts, 0 ≤ Int.ofNat shift.first + shift.distance := by
  decide +kernel

/-- Images are characters. -/
theorem valid_of_mem : ∀ shift ∈ lowerShifts,
    besides (shift.image shift.first) (shift.image shift.last) (0xd800, 0xdfff) = true ∧
      shift.image shift.last < 0x110000 := by
  decide +kernel

/-- A capital dotted I is no image. -/
theorem undotted_of_mem : ∀ shift ∈ lowerShifts,
    besides (shift.image shift.first) (shift.image shift.last) (0x130, 0x130) = true := by
  decide +kernel

/-- Neither the characters of a run nor their images are blank. -/
theorem unblank_of_mem : ∀ shift ∈ lowerShifts, ∀ range ∈ blankRanges,
    besides shift.first shift.last range = true ∧
      besides (shift.image shift.first) (shift.image shift.last) range = true := by
  decide +kernel

end Table

variable {shift : Shift} {code : Nat}

theorem applies_iff : shift.applies code = true ↔
    shift.first ≤ code ∧ code ≤ shift.last ∧ (code - shift.first) % shift.stride = 0 := by
  simp only [applies, Bool.and_eq_true, decide_eq_true_eq, beq_iff_eq, and_assoc]

/-- An image is as far from the first one as the character is from the first of its run. -/
theorem image_eq (known : shift ∈ lowerShifts) (applies : shift.applies code = true) :
    shift.image code = shift.image shift.first + (code - shift.first) ∧
      shift.image code ≤ shift.image shift.last := by
  have positive := positive_of_mem shift known
  obtain ⟨low, high, -⟩ := applies_iff.1 applies
  unfold image
  simp only [Int.ofNat_eq_natCast] at positive ⊢
  omega

/-- No shift applies to what a shift leads to. -/
theorem not_applies_image (known : shift ∈ lowerShifts) (applies : shift.applies code = true)
    {other : Shift} (member : other ∈ lowerShifts) : other.applies (shift.image code) = false := by
  obtain ⟨image, last⟩ := image_eq known applies
  obtain ⟨low, high, steps⟩ := applies_iff.1 applies
  have misses := isMissed_of_mem shift known other member
  rw [Bool.eq_false_iff]
  intro again
  obtain ⟨lowAgain, highAgain, stepsAgain⟩ := applies_iff.1 again
  simp only [isMissed, Bool.and_eq_true, Bool.or_eq_true, Nat.blt_eq, Nat.beq_eq] at misses
  rcases misses with (above | below) | ⟨⟨even, two⟩, odd⟩
  · omega
  · omega
  · have whole : (code - shift.first) % 2 = 0 := by
      rcases even with stride | single
      · rwa [stride] at steps
      · omega
    rw [two] at stepsAgain
    omega

end Shift

/-- A blank character is in one of the ranges. -/
theorem exists_range_of_isBlank {c : Char} (blank : isBlank c = true) :
    ∃ range ∈ blankRanges, range.1 ≤ c.toNat ∧ c.toNat ≤ range.2 := by
  unfold isBlank at blank
  simp only [Bool.or_eq_true, Bool.and_eq_true, beq_iff_eq, decide_eq_true_eq] at blank
  rcases blank with (((((((((rfl | control) | rfl) | rfl) | rfl) | quad) | rfl) | rfl) | rfl) |
    rfl) | rfl
  · exact ⟨(0x20, 0x20), by decide, by decide⟩
  · exact ⟨(0x9, 0xd), by decide, control⟩
  · exact ⟨(0x85, 0x85), by decide, by decide⟩
  · exact ⟨(0xa0, 0xa0), by decide, by decide⟩
  · exact ⟨(0x1680, 0x1680), by decide, by decide⟩
  · exact ⟨(0x2000, 0x200a), by decide, quad⟩
  · exact ⟨(0x2028, 0x2029), by decide, by decide⟩
  · exact ⟨(0x2028, 0x2029), by decide, by decide⟩
  · exact ⟨(0x202f, 0x202f), by decide, by decide⟩
  · exact ⟨(0x205f, 0x205f), by decide, by decide⟩
  · exact ⟨(0x3000, 0x3000), by decide, by decide⟩

/-- What holds of no code point in these ranges holds of no blank character. -/
theorem eq_false_of_isBlank {p : Char → Bool} (every : ∀ range ∈ blankRanges,
    ∀ code ∈ List.range' range.1 (range.2 + 1 - range.1), p (Char.ofNat code) = false) {c : Char}
    (blank : isBlank c = true) : p c = false := by
  obtain ⟨range, member, low, high⟩ := exists_range_of_isBlank blank
  have none := every range member c.toNat (List.mem_range'_1.2 ⟨low, by omega⟩)
  rwa [Char.ofNat_toNat] at none

/-- A character that lower-casing leaves as it is, wherever it stands. -/
structure IsLower (c : Char) : Prop where
  fixed : lowerChar c = c
  notSigma : c ≠ '\u03A3'
  notDotted : c ≠ '\u0130'

/-- A character to which no shift applies is in lower case. -/
theorem isLower_of_not_applies {c : Char} (none : ∀ shift ∈ lowerShifts,
    shift.applies c.toNat = false) (other : c ≠ '\u0130') : IsLower c where
  fixed := by
    unfold lowerChar
    split
    · rename_i ascii
      have every : ∀ code < 128, (Shift.mk 0x41 0x5a 1 32).applies code = false →
          (Char.ofNat code).toLower = Char.ofNat code := by
        decide +kernel
      simpa using every c.toNat ascii (none _ (by decide +kernel))
    · unfold shiftChar
      rw [List.find?_eq_none.2 fun shift member => Bool.eq_false_iff.1 (none shift member)]
  notSigma := by
    rintro rfl
    exact absurd (none ⟨0x3a3, 0x3ab, 1, 32⟩ (by decide +kernel)) (by decide)
  notDotted := other

/-- A character of a run has a character as its image. -/
theorem Shift.toNat_ofNat_image {shift : Shift} {code : Nat} (known : shift ∈ lowerShifts)
    (applies : shift.applies code = true) : (Char.ofNat (shift.image code)).toNat =
      shift.image code := by
  obtain ⟨image, last⟩ := image_eq known applies
  obtain ⟨beside, bounded⟩ := valid_of_mem shift known
  have beside := of_besides beside (image ▸ Nat.le_add_right _ _) last
  have valid : (shift.image code).isValidChar := by
    unfold Nat.isValidChar
    omega
  rw [Char.ofNat, dif_pos valid]
  rfl

/-- A character beside all blank characters is not blank. -/
theorem isBlank_of_besides {c : Char} {first last : Nat}
    (beside : ∀ range ∈ blankRanges, besides first last range = true) (low : first ≤ c.toNat)
    (high : c.toNat ≤ last) : isBlank c = false := by
  rw [Bool.eq_false_iff]
  intro blank
  obtain ⟨range, member, inside⟩ := exists_range_of_isBlank blank
  exact of_besides (beside range member) low high inside

/-- What a character becomes to which a shift applies is in lower case. Neither of them is blank. -/
theorem Shift.isLower_image {shift : Shift} {c : Char} (known : shift ∈ lowerShifts)
    (applies : shift.applies c.toNat = true) :
    IsLower (Char.ofNat (shift.image c.toNat)) ∧
      isBlank (Char.ofNat (shift.image c.toNat)) = isBlank c := by
  have code := toNat_ofNat_image known applies
  obtain ⟨image, last⟩ := image_eq known applies
  obtain ⟨low, high, -⟩ := applies_iff.1 applies
  have first : shift.image shift.first ≤ shift.image c.toNat := image ▸ Nat.le_add_right _ _
  have unblank := unblank_of_mem shift known
  constructor
  · refine isLower_of_not_applies (fun other member => ?_) fun dotted => ?_
    · rw [code]
      exact not_applies_image known applies member
    · rw [dotted] at code
      exact of_besides (undotted_of_mem shift known) first last (by rw [← code]; decide)
  · rw [isBlank_of_besides (fun range member => (unblank range member).1) low high]
    exact isBlank_of_besides (fun range member => (unblank range member).2)
      (by rwa [code]) (by rwa [code])

/-- The lower-case form of a character is in lower case, and is blank if the character is. -/
theorem isLower_lowerChar {c : Char} (other : c ≠ '\u0130') :
    IsLower (lowerChar c) ∧ isBlank (lowerChar c) = isBlank c := by
  unfold lowerChar
  split
  · rename_i ascii
    have every : ∀ code < 128, lowerChar (Char.ofNat code).toLower = (Char.ofNat code).toLower ∧
        (Char.ofNat code).toLower ≠ '\u03A3' ∧ (Char.ofNat code).toLower ≠ '\u0130' ∧
        isBlank (Char.ofNat code).toLower = isBlank (Char.ofNat code) := by
      decide +kernel
    obtain ⟨fixed, notSigma, notDotted, blank⟩ := every c.toNat ascii
    rw [Char.ofNat_toNat] at fixed notSigma notDotted blank
    exact ⟨⟨fixed, notSigma, notDotted⟩, blank⟩
  · unfold shiftChar
    split
    · rename_i shift found
      have applies := List.find?_some found
      exact Shift.isLower_image (List.mem_of_find?_eq_some found) applies
    · rename_i none
      refine ⟨isLower_of_not_applies (fun shift member => ?_) other, rfl⟩
      exact Bool.eq_false_iff.2 (List.find?_eq_none.1 none shift member)

section Texts

variable {before cs : List Char}

/-- Each character of a text is replaced by characters in lower case, which are blank if it is. -/
theorem exists_lowercaseAfter_cons (before : List Char) (c : Char) (rest : List Char) :
    ∃ images, lowercaseAfter before (c :: rest) = images ++ lowercaseAfter (c :: before) rest ∧
      images ≠ [] ∧ ∀ image ∈ images, IsLower image ∧ isBlank image = isBlank c := by
  have isLower {c : Char} (plain : c = '\u03C2' ∨ c = '\u03C3' ∨ c = 'i' ∨ c = '\u0307') :
      IsLower c := by
    rcases plain with rfl | rfl | rfl | rfl <;> exact ⟨by decide +kernel, by decide, by decide⟩
  refine ⟨_, rfl, ?_, ?_⟩
  · split
    · split <;> exact List.cons_ne_nil _ _
    · split <;> exact List.cons_ne_nil _ _
  · split
    · rename_i sigma
      subst sigma
      split
      · exact List.forall_mem_singleton.2 ⟨isLower (.inl rfl), by decide⟩
      · exact List.forall_mem_singleton.2 ⟨isLower (.inr (.inl rfl)), by decide⟩
    · split
      · rename_i dotted
        subst dotted
        exact List.forall_mem_cons.2 ⟨⟨isLower (.inr (.inr (.inl rfl))), by decide⟩,
          List.forall_mem_singleton.2 ⟨isLower (.inr (.inr (.inr rfl))), by decide⟩⟩
      · rename_i other
        exact List.forall_mem_singleton.2 (isLower_lowerChar other)

theorem isLower_of_mem_lowercaseAfter : ∀ c ∈ lowercaseAfter before cs, IsLower c := by
  induction cs generalizing before with
  | nil => exact nofun
  | cons c rest later =>
    obtain ⟨images, same, -, lower⟩ := exists_lowercaseAfter_cons before c rest
    rw [same]
    exact List.forall_mem_append.2 ⟨fun image member => (lower image member).1, later⟩

theorem lowercaseAfter_of_isLower (lower : ∀ c ∈ cs, IsLower c) :
    lowercaseAfter before cs = cs := by
  induction cs generalizing before with
  | nil => rfl
  | cons c rest later =>
    obtain ⟨first, others⟩ := List.forall_mem_cons.1 lower
    rw [lowercaseAfter, later others, if_neg first.notSigma, if_neg first.notDotted, first.fixed,
      List.singleton_append]

/-- **A text in lower case is not changed when it is lower-cased.** -/
theorem lowercase_lowercase (cs : List Char) : lowercase (lowercase cs) = lowercase cs :=
  lowercaseAfter_of_isLower isLower_of_mem_lowercaseAfter

end Texts

end LectureDeck.Text
