import LectureDeck.Proofs.Text.Backslashes
import LectureDeck.Question.Answer

/-!
# Semicolons in answers

An answer is cut at its first semicolon that is not escaped, and the escaped ones before it are made
plain afterwards. The two agree on what is escaped, so that any value without backslashes can be
written and is stated as it is (`LectureDeck.Answer.parse_cut`).
-/

namespace LectureDeck.Answer

open LectureDeck.Text

section Cutting

variable {cs part options : List Char}

/-- Each semicolon of a text is escaped. -/
def IsUncut (cs : List Char) : Prop := Stepwise (fun before c => c = ';' → Escapes before) cs

/-- A text in which a semicolon stands between two parts, the first that is not escaped. -/
structure IsCutInto (cs part options : List Char) : Prop where
  text : cs = part ++ ';' :: options
  unescaped : ¬ Escapes part
  first : IsUncut part

/-- What is cut off is looked for after a part in which each semicolon is escaped. -/
theorem cutUnescaped_append (uncut : IsUncut part) (rest : List Char) :
    cutUnescaped false (part ++ rest) = (part ++ (cutUnescaped (decide (Escapes part)) rest).1,
      (cutUnescaped (decide (Escapes part)) rest).2) := by
  induction part using List.reverseRecOn generalizing rest with
  | nil => simp [not_escapes_nil]
  | append_singleton part last earlier =>
    obtain ⟨uncut, escaped⟩ := Stepwise.concat_iff.1 uncut
    have passed : (last = ';' && !decide (Escapes part)) = false := by
      by_cases semicolon : last = ';'
      · simp [escaped semicolon]
      · simp [semicolon]
    have next : (last == '\\' && !decide (Escapes part)) = decide (Escapes (part ++ [last])) := by
      rw [Bool.eq_iff_iff]
      simp [escapes_concat_iff]
    rw [List.append_assoc, List.singleton_append, earlier uncut, cutUnescaped, passed, next]
    simp

theorem cutUnescaped_of_isCutInto (cut : IsCutInto cs part options) :
    cutUnescaped false cs = (part, some options) := by
  rw [cut.text, cutUnescaped_append cut.first, cutUnescaped]
  simp [cut.unescaped]

theorem cutUnescaped_of_isUncut (uncut : IsUncut cs) : cutUnescaped false cs = (cs, none) := by
  have whole := cutUnescaped_append uncut []
  rw [List.append_nil] at whole
  rw [whole, cutUnescaped, List.append_nil]

/-- Every text is uncut, or cut at its first semicolon that is not escaped. -/
theorem isUncut_or_exists_cut (cs : List Char) :
    IsUncut cs ∨ ∃ part options, IsCutInto cs part options := by
  rcases Stepwise.or_exists_first _ cs with uncut | ⟨part, c, options, rfl, first, unescaped⟩
  · exact .inl uncut
  · obtain ⟨semicolon, unescaped⟩ := Classical.not_imp.1 unescaped
    exact .inr ⟨part, options, congrArg (part ++ · :: options) semicolon, unescaped, first⟩

end Cutting

section Escaping

variable {value : List Char}

/-- A text with each semicolon escaped. -/
def escapeSemicolons (cs : List Char) : List Char := withBackslashes (· == ';') cs

theorem trim_escapeSemicolons (cs : List Char) :
    trim (escapeSemicolons cs) = escapeSemicolons (trim cs) := by
  apply trim_withBackslashes
  intro c semicolon
  rw [beq_iff_eq.1 semicolon]
  decide

theorem unescapeSemicolons_escapeSemicolons (plain : '\\' ∉ value) :
    unescapeSemicolons (escapeSemicolons value) = value := by
  unfold escapeSemicolons
  induction value with
  | nil => rfl
  | cons c value later =>
    obtain ⟨other, plain⟩ := not_or.1 (List.mem_cons.not.1 plain)
    rw [withBackslashes_cons]
    by_cases semicolon : c = ';'
    · simp [semicolon, unescapeSemicolons, later plain]
    · simp [semicolon, unescapeSemicolons, later plain, Ne.symm other]

/-- Semicolons that are escaped do not cut, if there is no other backslash. -/
theorem isUncut_escapeSemicolons (plain : '\\' ∉ value) :
    IsUncut (escapeSemicolons value) ∧ ¬ Escapes (escapeSemicolons value) := by
  unfold escapeSemicolons
  induction value using List.reverseRecOn with
  | nil => exact ⟨Stepwise.nil, not_escapes_nil⟩
  | append_singleton value last earlier =>
    rw [List.mem_append, not_or, List.mem_singleton] at plain
    obtain ⟨uncut, free⟩ := earlier plain.1
    have ends (before : List Char) : ¬ Escapes (before ++ [last]) := by
      rw [escapes_concat_iff]
      exact fun both => plain.2 both.1.symm
    rw [withBackslashes_concat]
    refine ⟨Stepwise.concat_iff.2 ?_, ends _⟩
    by_cases semicolon : last = ';'
    · -- The backslash before the semicolon is no semicolon, and is not escaped.
      rw [if_pos (beq_iff_eq.2 semicolon)]
      have backslash : '\\' ≠ ';' := by decide
      exact ⟨Stepwise.concat_iff.2 ⟨uncut, fun same => absurd same backslash⟩,
        fun _ => escapes_concat_iff.2 ⟨rfl, free⟩⟩
    · rw [if_neg (mt beq_iff_eq.1 semicolon)]
      exact ⟨uncut, fun same => absurd same semicolon⟩

end Escaping

section Parsing

variable {W : Type} [Weight W] {text : String} {part options : List Char} {hasChoices : Bool}
  {plugins : Plugins}

/-- The answer that a statement gives together with the text of its options. -/
def state (statement options : List Char) (hasChoices : Bool) (plugins : Plugins) :
    Except SlideFault (Answer W) := do
  let options ← AnswerOptions.parse options
  let stated ← resolve statement hasChoices plugins
  return ⟨stated.kind, stated.correct, stated.requiredPlugin, options⟩

theorem parse_of_isCutInto (cut : IsCutInto text.toList part options) :
    parse (W := W) text hasChoices plugins =
      state (unescapeSemicolons (trim part)) options hasChoices plugins := by
  unfold parse
  rw [cutUnescaped_of_isCutInto cut]
  rfl

theorem parse_of_isUncut (uncut : IsUncut text.toList) :
    parse (W := W) text hasChoices plugins =
      state (unescapeSemicolons (trim text.toList)) [] hasChoices plugins := by
  unfold parse
  rw [cutUnescaped_of_isUncut uncut]
  rfl

/-- **Where answers are cut.** The options of an answer begin after its first semicolon with an even
number of backslashes right before it, and an answer without such a semicolon has none. A value
without backslashes is stated as it is, but for space at its edges, if each of its semicolons is
written with a backslash; what follows it after a plain semicolon is its options. -/
theorem parse_cut (hasChoices : Bool) (plugins : Plugins) :
    (∀ text : String,
      (∃ part options, IsCutInto text.toList part options ∧
        parse (W := W) text hasChoices plugins =
          state (unescapeSemicolons (trim part)) options hasChoices plugins) ∨
      (IsUncut text.toList ∧ parse (W := W) text hasChoices plugins =
        state (unescapeSemicolons (trim text.toList)) [] hasChoices plugins)) ∧
    ∀ value options : List Char, '\\' ∉ value →
      parse (W := W) (String.ofList (escapeSemicolons value ++ ';' :: options)) hasChoices plugins =
        state (trim value) options hasChoices plugins := by
  constructor
  · intro text
    rcases isUncut_or_exists_cut text.toList with uncut | ⟨part, options, cut⟩
    · exact .inr ⟨uncut, parse_of_isUncut uncut⟩
    · exact .inl ⟨part, options, cut, parse_of_isCutInto cut⟩
  · intro value options plain
    obtain ⟨uncut, free⟩ := isUncut_escapeSemicolons plain
    have cut : IsCutInto (String.ofList (escapeSemicolons value ++ ';' :: options)).toList
        (escapeSemicolons value) options := ⟨String.toList_ofList, free, uncut⟩
    have trimmed : '\\' ∉ trim value := fun member => plain (mem_of_mem_trim member)
    rw [parse_of_isCutInto cut, trim_escapeSemicolons,
      unescapeSemicolons_escapeSemicolons trimmed]

/-- A semicolon within a text, and one after which the options begin. -/
theorem parse_cut_twoSemicolons :
    '\\' ∉ [' ', 'a', ';', ' ', 'b'] ∧
      String.ofList (escapeSemicolons [' ', 'a', ';', ' ', 'b'] ++ ';' :: "weight=2".toList) =
        " a\\; b;weight=2" ∧
      parse (W := Float) (String.ofList (escapeSemicolons [' ', 'a', ';', ' ', 'b'] ++
          ';' :: "weight=2".toList)) false .empty =
        state ['a', ';', ' ', 'b'] "weight=2".toList false .empty ∧
      (parse (W := Float) " a\\; b;weight=2" false .empty).toOption.any (fun answer =>
        answer.correct.map CorrectAnswer.shown = some "a; b") = true := by
  have plain : '\\' ∉ [' ', 'a', ';', ' ', 'b'] := by decide
  exact ⟨plain, by decide +kernel, (parse_cut false .empty).2 _ _ plain, by decide +kernel⟩

end Parsing

end LectureDeck.Answer
