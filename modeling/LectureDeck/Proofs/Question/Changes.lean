import LectureDeck.Proofs.Result
import LectureDeck.Question.Options
import Mathlib.Data.List.Pairwise

/-!
# Changes of options

An option of an answer is refused whatever the options before it are, or it makes one change
(`LectureDeck.AnswerOptions.apply_cases`). Changes of different names leave each other alone, so
that it does not matter in which order options are given
(`LectureDeck.AnswerOptions.parse_of_perm`).
-/

namespace LectureDeck.AnswerOptions

/-- What an option changes. -/
inductive Change (W : Type) where
  /-- The weight, and the weights for grade and vote if they are given. -/
  | weigh (score : W) (grade voting : Option W)
  | retry (value : Retry)
  | explain (value : Explain)
  | share (value : Share)
  | vote (value : Vote)
  | team (value : Team)
  | disabled (value : Bool)
  | participation (value : Bool)

namespace Change

variable {W : Type}

/-- The name of the options that make a change. -/
def name : Change W → String
  | weigh .. => "weight"
  | retry _ => "retry"
  | explain _ => "explain"
  | share _ => "share"
  | vote _ => "vote"
  | team _ => "team"
  | disabled _ => "disabled"
  | participation _ => "participation"

/-- Options after a change. -/
def make (options : AnswerOptions W) : Change W → AnswerOptions W
  | weigh score grade voting =>
    { options with
      weight := score
      gradeWeight := grade.or options.gradeWeight
      voteWeight := voting.getD options.voteWeight }
  | retry value => { options with retry := some value }
  | explain value => { options with settings := { options.settings with explain := some value } }
  | share value => { options with settings := { options.settings with share := some value } }
  | vote value => { options with settings := { options.settings with vote := some value } }
  | team value => { options with settings := { options.settings with team := some value } }
  | disabled value => { options with settings := { options.settings with disabled := value } }
  | participation value =>
    { options with settings := { options.settings with participation := value } }

/-- Changes of different names can be made in either order. -/
theorem make_comm {first second : Change W} (differ : first.name ≠ second.name)
    (options : AnswerOptions W) :
    second.make (first.make options) = first.make (second.make options) := by
  cases first <;> cases second <;> first | rfl | exact absurd rfl differ

/-- The weights that a change sets. -/
def weights : Change W → List W
  | weigh score grade voting => score :: (grade.toList ++ voting.toList)
  | _ => []

/-- A grade weight was there before a change, or is set by it. -/
theorem gradeWeight_make (change : Change W) (options : AnswerOptions W) :
    ∀ weight ∈ (change.make options).gradeWeight,
      weight ∈ options.gradeWeight ∨ weight ∈ change.weights := by
  cases change with
  | weigh score grade voting =>
    cases grade with
    | none => exact fun weight given => .inl given
    | some grade =>
      rintro weight ⟨⟩
      exact .inr (by simp [weights])
  | _ => exact fun weight given => .inl given

end Change

variable {W : Type} [Weight W] {options after : AnswerOptions W} {option : List Char}

/-- The name of an option, if it has one. -/
def name? (option : List Char) : Option String := (nameValue option).toOption.map Prod.fst

/-- An option makes the same change whatever the options before it are. -/
structure Makes (option : List Char) (change : Change W) : Prop where
  named : name? option = some change.name
  admissible : ∀ weight ∈ change.weights, Weight.admissible weight = true
  made : ∀ options : AnswerOptions W, options.apply option = .ok (change.make options)

variable {name : String} {value : List Char}

theorem makes_of_named (named : nameValue option = .ok (name, value)) {change : Change W}
    (same : change.name = name)
    (admissible : ∀ weight ∈ change.weights, Weight.admissible weight = true)
    (made : ∀ options : AnswerOptions W, options.apply option = .ok (change.make options)) :
    Makes option change := by
  refine ⟨?_, admissible, made⟩
  rw [name?, named, same]
  rfl

/-- An option with a value that is read apart from the options before it. -/
theorem exists_makes_of_read {α : Type} {read : Except SlideFault α}
    (named : nameValue option = .ok (name, value)) (change : α → Change W)
    (names : ∀ a, (change a).name = name) (weightless : ∀ a, (change a).weights = [])
    (reads : ∀ options : AnswerOptions W,
      options.apply option = read >>= fun a => .ok ((change a).make options))
    (applied : options.apply option = .ok after) : ∃ change : Change W, Makes option change := by
  rw [reads, bind_eq_ok] at applied
  obtain ⟨a, known, -⟩ := applied
  refine ⟨change a, makes_of_named named (names a) ?_ fun options => ?_⟩
  · rw [weightless]
    exact nofun
  · rw [reads, known]
    rfl

theorem exists_makes_of_withWeights (named : nameValue option = .ok ("weight", value))
    (applied : options.withWeights option value = .ok after) :
    ∃ change : Change W, Makes option change := by
  have applies (options : AnswerOptions W) :
      options.apply option = options.withWeights option value := by
    rw [apply, named]
    rfl
  unfold withWeights at applied
  obtain ⟨weights, read, applied⟩ := bind_eq_ok.1 applied
  split at applied
  · rename_i every
    have admissible := List.all_eq_true.1 every
    split at applied
    · rename_i score
      refine ⟨.weigh score none none, makes_of_named named rfl admissible fun options => ?_⟩
      rw [applies, withWeights, read]
      exact if_pos every
    · rename_i score grade
      refine ⟨.weigh score (some grade) none, makes_of_named named rfl admissible fun options => ?_⟩
      rw [applies, withWeights, read]
      exact if_pos every
    · rename_i score grade voting
      refine ⟨.weigh score (some grade) (some voting),
        makes_of_named named rfl admissible fun options => ?_⟩
      rw [applies, withWeights, read]
      exact if_pos every
    · contradiction
  · contradiction

theorem exists_makes_of_withRetry (named : nameValue option = .ok ("retry", value))
    (applied : options.withRetry option value = .ok after) :
    ∃ change : Change W, Makes option change := by
  have applies (options : AnswerOptions W) :
      options.apply option = options.withRetry option value := by
    rw [apply, named]
    rfl
  unfold withRetry at applied
  obtain ⟨numbers, read, applied⟩ := bind_eq_ok.1 applied
  split at applied
  · rename_i count
    refine ⟨.retry ⟨count, 0⟩, makes_of_named named rfl nofun fun options => ?_⟩
    rw [applies, withRetry, read]
    rfl
  · rename_i count delay
    refine ⟨.retry ⟨count, delay⟩, makes_of_named named rfl nofun fun options => ?_⟩
    rw [applies, withRetry, read]
    rfl
  · contradiction

/-- An option that is accepted makes a change. -/
theorem exists_makes_of_apply (applied : options.apply option = .ok after) :
    ∃ change : Change W, Makes option change := by
  have first := applied
  unfold apply at first
  obtain ⟨⟨name, value⟩, named, cases⟩ := bind_eq_ok.1 first
  dsimp only at cases
  split at cases
  · exact exists_makes_of_withWeights named cases
  · exact exists_makes_of_withRetry named cases
  · exact exists_makes_of_read named .explain (fun _ => rfl) (fun _ => rfl)
      (fun options => by rw [apply, named]; rfl) applied
  · exact exists_makes_of_read named .share (fun _ => rfl) (fun _ => rfl)
      (fun options => by rw [apply, named]; rfl) applied
  · exact exists_makes_of_read named .vote (fun _ => rfl) (fun _ => rfl)
      (fun options => by rw [apply, named]; rfl) applied
  · exact exists_makes_of_read named .team (fun _ => rfl) (fun _ => rfl)
      (fun options => by rw [apply, named]; rfl) applied
  · exact exists_makes_of_read named .disabled (fun _ => rfl) (fun _ => rfl)
      (fun options => by rw [apply, named]; rfl) applied
  · exact exists_makes_of_read named .participation (fun _ => rfl) (fun _ => rfl)
      (fun options => by rw [apply, named]; rfl) applied
  · contradiction

/-- Options are read by applying the words of a text, and votes are given only with a share. -/
theorem exists_of_parse {text : List Char} (parsed : parse text = .ok after) :
    ∃ words, Words.split text = .ok words ∧ words.foldlM apply initial = .ok after ∧
      (after.settings.vote.isSome = true → after.settings.share.isSome = true) := by
  unfold parse at parsed
  split at parsed
  · rename_i words read
    obtain ⟨options, folded, checked⟩ := bind_eq_ok.1 parsed
    unfold AnswerOptions.checked at checked
    split at checked
    · contradiction
    · rename_i together
      cases checked
      refine ⟨words, read, folded, fun voted => ?_⟩
      by_contra unshared
      exact together (by simp_all)
  · contradiction

/-- What holds of options where none are given, and is kept by each change whose weights are
admissible, holds of all options that are read. -/
theorem parse_induction {holds : AnswerOptions W → Prop} (start : holds initial)
    (changes : ∀ (change : Change W) (options : AnswerOptions W),
      (∀ weight ∈ change.weights, Weight.admissible weight = true) → holds options →
        holds (change.make options))
    {text : List Char} (parsed : parse text = .ok after) : holds after := by
  obtain ⟨words, -, folded, -⟩ := exists_of_parse parsed
  refine foldlM_induction ?_ folded start
  intro options option next applied held
  obtain ⟨change, makes⟩ := exists_makes_of_apply applied
  obtain rfl := Except.ok.inj ((makes.made options).symm.trans applied)
  exact changes change options makes.admissible held

theorem apply_cases (option : List Char) :
    (∀ options : AnswerOptions W, (options.apply option).toOption = none) ∨
      ∃ change : Change W, Makes option change := by
  by_cases accepted : ∃ options after : AnswerOptions W, options.apply option = .ok after
  · obtain ⟨options, after, applied⟩ := accepted
    exact .inr (exists_makes_of_apply applied)
  · refine .inl fun options => ?_
    cases applied : options.apply option with
    | error fault => rfl
    | ok after => exact absurd ⟨options, after, applied⟩ accepted

/-- Two options that do not have the same name. -/
def Differ (option other : List Char) : Prop := ∀ name ∈ name? option, name ∉ name? other

instance : Std.Symm Differ :=
  ⟨fun _ _ differ name named otherNamed => differ name otherNamed named⟩

theorem pairwise_differ {words : List (List Char)} (distinct : (words.filterMap name?).Nodup) :
    words.Pairwise Differ := by
  rw [List.Nodup, List.pairwise_filterMap] at distinct
  refine distinct.imp fun differ name named otherNamed => ?_
  exact differ name named name otherNamed rfl

/-- Two options that differ may be exchanged. -/
theorem toOption_apply_comm {other : List Char} (differ : Differ option other)
    (options : AnswerOptions W) :
    (options.apply option >>= fun next => next.apply other).toOption =
      (options.apply other >>= fun next => next.apply option).toOption := by
  simp only [toOption_bind]
  rcases apply_cases (W := W) option with refused | ⟨first, makes⟩
  · simp [refused]
  · rcases apply_cases (W := W) other with refused | ⟨second, makesOther⟩
    · simp [refused]
    · have names : first.name ≠ second.name := by
        intro same
        exact differ first.name makes.named (same ▸ makesOther.named)
      simp only [makes.made, makesOther.made, Except.toOption, Option.bind_some]
      rw [Change.make_comm names]

/-- **The order of options does not matter.** Two texts that have the same options in different
orders are both refused, or give the same, if no two of the options have the same name. -/
theorem parse_of_perm {text otherText : List Char} {words others : List (List Char)}
    (read : Words.split text = .ok words) (otherRead : Words.split otherText = .ok others)
    (perm : words.Perm others) (distinct : (words.filterMap name?).Nodup) :
    (parse (W := W) text).toOption = (parse otherText).toOption := by
  have folded : (words.foldlM apply (initial : AnswerOptions W)).toOption =
      (others.foldlM apply initial).toOption := by
    refine toOption_foldlM_of_perm perm (fun option member other known options => ?_) initial
    by_cases same : option = other
    · rw [same]
    · exact toOption_apply_comm ((pairwise_differ distinct).forall member known same) options
  rw [parse, parse, read, otherRead]
  simp only [ofWords, toOption_bind, folded]

theorem parse_of_perm_threeOptions :
    Words.split "2 vote=show_live share=never".toList =
        .ok ["2".toList, "vote=show_live".toList, "share=never".toList] ∧
      Words.split "share=never vote=show_live 2".toList =
        .ok ["share=never".toList, "vote=show_live".toList, "2".toList] ∧
      (parse (W := Float) "2 vote=show_live share=never".toList).toOption =
        (parse "share=never vote=show_live 2".toList).toOption ∧
      (parse (W := Float) "2 vote=show_live share=never".toList).toOption.isSome = true := by
  have first : Words.split "2 vote=show_live share=never".toList =
      .ok ["2".toList, "vote=show_live".toList, "share=never".toList] := by decide +kernel
  have second : Words.split "share=never vote=show_live 2".toList =
      .ok ["share=never".toList, "vote=show_live".toList, "2".toList] := by decide +kernel
  refine ⟨first, second, parse_of_perm first second (by decide) (by decide +kernel), ?_⟩
  decide +kernel

end LectureDeck.AnswerOptions
