import LectureDeck.Proofs.Result
import LectureDeck.Question.Answer

/-!
# What answers state

The text of an answer states one of a few things (`LectureDeck.Answer.States`), whichever way it is
written (`LectureDeck.Answer.states_of_resolve`). In each of them the correct answer is one that the
kind of the question takes (`LectureDeck.QuestionKind.Takes`), so that it fits the kind that is
established (`LectureDeck.Answer.isSound_of_parse`).
-/

namespace LectureDeck

/-- The letters of one or more choices, in ascending order without repetition. -/
structure AreChoiceLetters (letters : List Char) : Prop where
  nonempty : letters ≠ []
  ascending : letters.Pairwise (· < ·)
  known : ∀ letter ∈ letters, 'A' ≤ letter ∧ letter ≤ 'P'

/-- A text answers the question, with or without marks. -/
def QuestionKind.IsText (kind : QuestionKind) : Prop :=
  kind = .text ∨ kind = .plainText ∨ kind = .codeText

/-- The correct answers that a question of a kind may have. -/
inductive QuestionKind.Takes : QuestionKind → CorrectAnswer → Prop
  | choice {letter : Char} (known : AreChoiceLetters [letter]) : Takes .choice (.choices [letter])
  | multichoice {letters : List Char} (known : AreChoiceLetters letters) :
      Takes .multichoice (.choices letters)
  | number (value error : Float) : Takes .number (.number value error)
  | text {kind : QuestionKind} {value : String} (isText : kind.IsText) (given : value ≠ "") :
      Takes kind (.literal value)
  /-- A plugin is told what to take as correct, or is asked by an action. -/
  | told (name arguments : String) {value : String} (given : value ≠ "") :
      Takes (.plugin name arguments) (.literal value)
  | asked (name arguments action argument : String) :
      Takes (.plugin name arguments) (.plugin name action argument)

/-- No word names the kind of a question that a plugin decides. -/
theorem QuestionKind.ne_plugin_of_ofKeyword? {word : String} {kind : QuestionKind}
    (named : ofKeyword? word = some kind) (name arguments : String) :
    kind ≠ .plugin name arguments := by
  rintro rfl
  unfold ofKeyword? at named
  split at named <;> simp at named

namespace Answer

section Letters

theorem insertLetter_ne_nil (letter : Char) (set : List Char) : insertLetter letter set ≠ [] := by
  unfold insertLetter
  split
  · simp
  · split
    · simp
    · split <;> simp

/-- The letters of a list with one put into it are those of the list and the one. -/
theorem mem_insertLetter {letter found : Char} {set : List Char} :
    found ∈ insertLetter letter set ↔ found = letter ∨ found ∈ set := by
  induction set with
  | nil => simp [insertLetter]
  | cons first rest later =>
    unfold insertLetter
    split
    · simp
    · split
      · rename_i same
        simp [same]
      · rw [List.mem_cons, later, List.mem_cons]
        exact or_left_comm

theorem pairwise_insertLetter {letter : Char} {set : List Char}
    (ascending : set.Pairwise (· < ·)) : (insertLetter letter set).Pairwise (· < ·) := by
  induction set with
  | nil => exact List.pairwise_singleton _ _
  | cons first rest later =>
    obtain ⟨least, ordered⟩ := List.pairwise_cons.1 ascending
    unfold insertLetter
    split
    · rename_i before
      refine List.pairwise_cons.2 ⟨List.forall_mem_cons.2 ⟨before, ?_⟩, ascending⟩
      exact fun other member => Char.lt_trans before (least other member)
    · split
      · exact ascending
      · rename_i notBefore different
        refine List.pairwise_cons.2 ⟨fun other member => ?_, later ordered⟩
        rcases mem_insertLetter.1 member with rfl | member
        · exact Std.lt_of_le_of_ne (Char.not_lt.1 notBefore) (Ne.symm different)
        · exact least other member

/-- A letter that can stand in an answer is one of the first letters as a capital. -/
theorem toUpper_of_isAnswerLetter {c : Char} (valid : isAnswerLetter c = true) :
    'A' ≤ c.toUpper ∧ c.toUpper ≤ 'P' := by
  simp only [isAnswerLetter, Bool.or_eq_true, Bool.and_eq_true, decide_eq_true_eq, Char.le_def]
    at valid ⊢
  unfold Char.toUpper
  split <;> grind

theorem pairwise_letters (cs : List Char) : (letters cs).Pairwise (· < ·) := by
  induction cs with
  | nil => exact List.Pairwise.nil
  | cons c rest later => exact pairwise_insertLetter later

theorem mem_letters {cs : List Char} {letter : Char} :
    letter ∈ letters cs ↔ ∃ c ∈ cs, c.toUpper = letter := by
  induction cs with
  | nil => simp [letters]
  | cons c rest later =>
    have step : letter ∈ letters (c :: rest) ↔ letter = c.toUpper ∨ letter ∈ letters rest :=
      mem_insertLetter
    simp [step, later, eq_comm]

/-- A text of letters has the letters of choices. -/
theorem areChoiceLetters_letters {cs : List Char} (valid : areLetters cs = true) :
    AreChoiceLetters (letters cs) := by
  obtain ⟨some, valid⟩ := Bool.and_eq_true_iff.1 valid
  refine ⟨?_, pairwise_letters cs, fun letter member => ?_⟩
  · cases cs with
    | nil => contradiction
    | cons c rest => exact insertLetter_ne_nil _ _
  · obtain ⟨c, found, rfl⟩ := mem_letters.1 member
    exact toUpper_of_isAnswerLetter (List.all_eq_true.1 valid c found)

end Letters

/-- Whatever a text that is a number gives is a number. -/
theorem exists_of_number? {cs : List Char} {correct : CorrectAnswer}
    (read : number? cs = .ok (some correct)) : ∃ value error, correct = .number value error := by
  unfold number? at read
  split at read
  · cases read
  · dsimp only at read
    split at read
    · cases read
    · split at read
      · cases read
      · cases read
        exact ⟨_, _, rfl⟩
      · split at read
        · cases read
        · cases read
          exact ⟨_, _, rfl⟩

/-- Letters are taken where they are asked for, and several only where several are. -/
theorem takes_letters {kind : QuestionKind} {letters : List Char}
    (isChoice : kind.isChoice = true) (known : AreChoiceLetters letters)
    (single : 1 < letters.length → kind = .multichoice) : kind.Takes (.choices letters) := by
  by_cases several : kind = .multichoice
  · rw [several]
    exact .multichoice known
  · have one : kind = .choice := by
      cases kind <;> first | rfl | contradiction
    obtain _ | ⟨letter, _ | ⟨next, rest⟩⟩ := letters
    · exact absurd rfl known.nonempty
    · rw [one]
      exact .choice known
    · exact absurd (single (by simp)) several

/-- A value after the word for a kind is one that the kind takes. -/
theorem takes_of_typedValue {statement value : List Char} {kind : QuestionKind}
    {correct : Option CorrectAnswer} (named : ∀ name arguments, kind ≠ .plugin name arguments)
    (typed : typedValue statement kind value = .ok correct) :
    ∀ answer ∈ correct, kind.Takes answer := by
  unfold typedValue at typed
  split at typed
  · cases typed
    exact nofun
  rename_i given
  split at typed
  · rename_i isChoice
    split at typed
    · cases typed
    rename_i valid
    split at typed
    · cases typed
    rename_i several
    cases typed
    rintro _ ⟨⟩
    refine takes_letters isChoice (areChoiceLetters_letters (by simpa using valid)) fun more => ?_
    cases kind <;> simp_all [QuestionKind.isChoice]
  rename_i noChoice
  split at typed
  · rename_i isNumber
    obtain ⟨number, read, typed⟩ := bind_eq_ok.1 typed
    split at typed
    · cases typed
      rintro _ ⟨⟩
      obtain ⟨value, error, rfl⟩ := exists_of_number? read
      rw [beq_iff_eq.1 isNumber]
      exact .number value error
    · cases typed
  · rename_i noNumber
    cases typed
    rintro _ ⟨⟩
    refine .text ?_ (by simpa using given)
    cases kind with
    | text => exact .inl rfl
    | plainText => exact .inr (.inl rfl)
    | codeText => exact .inr (.inr rfl)
    | plugin name arguments => exact absurd rfl (named name arguments)
    | _ => contradiction

/-- What a text that is not empty states of its question. -/
inductive States : Statement → Prop
  /-- A plugin is called, or named with what it should be asked. -/
  | plugin (name argument : String) {correct : Option CorrectAnswer}
      (takes : ∀ answer ∈ correct, (QuestionKind.plugin name argument).Takes answer) :
      States ⟨some (.plugin name argument), correct, some name⟩
  /-- A kind, with a value that it takes or without one. -/
  | kind {kind : QuestionKind} {correct : Option CorrectAnswer}
      (named : ∀ name arguments, kind ≠ .plugin name arguments)
      (takes : ∀ answer ∈ correct, kind.Takes answer) : States ⟨some kind, correct, none⟩

variable {plugins : Plugins} {statement : List Char} {stated : Statement}

theorem states_of_statePluginCall {name action argument : String}
    (states : statePluginCall plugins statement name action argument = .ok stated) :
    States stated := by
  unfold statePluginCall at states
  obtain ⟨_, _, same⟩ := bind_eq_ok.1 states
  cases same
  refine .plugin name "" ?_
  rintro _ ⟨⟩
  exact .asked name "" action argument

theorem states_of_stateTyped? (states : stateTyped? plugins statement = .ok (some stated)) :
    States stated := by
  unfold stateTyped? at states
  split at states
  · cases states
  split at states
  · rename_i kind named
    cases typed : typedValue statement kind _ with
    | error fault =>
      rw [typed] at states
      cases states
    | ok correct =>
      rw [typed] at states
      cases states
      have plain := QuestionKind.ne_plugin_of_ofKeyword? named
      exact .kind plain (takes_of_typedValue plain typed)
  · split at states
    · cases states
      refine .plugin _ "" ?_
      split
      · exact nofun
      · rename_i given
        rintro _ ⟨⟩
        exact .told _ "" (by simpa using given)
    · cases states

theorem states_of_statePluginName?
    (states : statePluginName? plugins statement = .ok (some stated)) : States stated := by
  unfold statePluginName? at states
  split at states
  · cases states
  split at states
  · cases states
  obtain ⟨_, _, same⟩ := bind_eq_ok.1 states
  cases same
  refine .plugin _ _ ?_
  split
  · exact nofun
  · rintro _ ⟨⟩
    exact .asked _ _ "response" _

/-- Letters alone are a choice, or several if there are several. -/
theorem states_stateLetters (valid : areLetters statement = true) :
    States (stateLetters statement) := by
  unfold stateLetters
  dsimp only
  refine .kind (by split <;> nofun) ?_
  rintro _ ⟨⟩
  exact takes_letters (by split <;> rfl) (areChoiceLetters_letters valid) fun more => if_pos more

/-- **What answers state.** A text states nothing if it is empty, and otherwise the kind of its
question. -/
theorem states_of_resolve {hasChoices : Bool}
    (states : resolve statement hasChoices plugins = .ok stated) :
    (statement = [] ∧ stated = {}) ∨ (statement ≠ [] ∧ States stated) := by
  unfold resolve at states
  by_cases empty : statement.isEmpty = true
  · rw [if_pos empty] at states
    cases states
    exact .inl ⟨List.isEmpty_iff.1 empty, rfl⟩
  rw [if_neg empty] at states
  refine .inr ⟨fun same => empty (List.isEmpty_iff.2 same), ?_⟩
  -- The ways to state something, in the order in which they are tried.
  split at states
  · exact states_of_statePluginCall states
  obtain ⟨typed, first, states⟩ := bind_eq_ok.1 states
  split at states
  · cases states
    exact states_of_stateTyped? first
  obtain ⟨number, second, states⟩ := bind_eq_ok.1 states
  split at states
  · cases states
    obtain ⟨value, error, rfl⟩ := exists_of_number? second
    refine .kind nofun ?_
    rintro _ ⟨⟩
    exact .number value error
  split at states
  · rename_i named
    cases states
    exact .kind (QuestionKind.ne_plugin_of_ofKeyword? named) nofun
  obtain ⟨plugin, last, states⟩ := bind_eq_ok.1 states
  split at states
  · cases states
    exact states_of_statePluginName? last
  split at states
  · rename_i letters
    cases states
    exact states_stateLetters (Bool.and_eq_true_iff.1 letters).2
  · cases states
    refine .kind nofun ?_
    rintro _ ⟨⟩
    exact .text (.inl rfl) (by simpa using empty)

theorem States.takes (states : States stated) :
    ∀ correct ∈ stated.correct, ∃ kind ∈ stated.kind, kind.Takes correct := by
  cases states with
  | plugin name argument takes => exact fun correct given => ⟨_, rfl, takes correct given⟩
  | kind named takes => exact fun correct given => ⟨_, rfl, takes correct given⟩

theorem States.requiredPlugin_eq_some_iff (states : States stated) {name : String} :
    stated.requiredPlugin = some name ↔
      ∃ arguments, stated.kind = some (.plugin name arguments) := by
  cases states with
  | plugin known argument => simp
  | kind named => simpa using named name

theorem unescapeSemicolons_eq_nil {cs : List Char} : unescapeSemicolons cs = [] ↔ cs = [] := by
  constructor
  · intro empty
    unfold unescapeSemicolons at empty
    split at empty
    · rfl
    · contradiction
    · contradiction
  · rintro rfl
    rfl

/-- Every statement establishes a kind, but none does where nothing is stated. -/
theorem kind_eq_none_of_resolve {hasChoices : Bool}
    (states : resolve statement hasChoices plugins = .ok stated) :
    stated.kind = none ↔ statement = [] := by
  rcases states_of_resolve states with ⟨rfl, rfl⟩ | ⟨something, states⟩
  · exact iff_of_true rfl rfl
  · cases states <;> exact iff_of_false nofun something

section Parsed

variable {W : Type} [Weight W] {text : String} {hasChoices : Bool} {answer : Answer W}

/-- An answer is what its text states before the options, and the options. -/
theorem exists_of_parse (parsed : parse text hasChoices plugins = .ok answer) :
    ∃ stated options, resolve (unescapeSemicolons (Text.trim (cutUnescaped false text.toList).1))
        hasChoices plugins = .ok stated ∧
      AnswerOptions.parse ((cutUnescaped false text.toList).2.getD []) = .ok options ∧
      answer = ⟨stated.kind, stated.correct, stated.requiredPlugin, options⟩ := by
  unfold parse at parsed
  obtain ⟨options, read, parsed⟩ := bind_eq_ok.1 parsed
  obtain ⟨stated, states, same⟩ := bind_eq_ok.1 parsed
  exact ⟨stated, options, states, read, (Except.ok.inj same).symm⟩

/-- The correct answer is one that the kind takes that is established. -/
theorem takes_of_parse (parsed : parse text hasChoices plugins = .ok answer) :
    ∀ correct ∈ answer.correct, ∃ kind ∈ answer.kind, kind.Takes correct := by
  obtain ⟨stated, options, states, -, rfl⟩ := exists_of_parse parsed
  rcases states_of_resolve states with ⟨-, rfl⟩ | ⟨-, states⟩
  · exact nofun
  · exact states.takes

/-- A plugin is required if and only if it decides. -/
theorem requiredPlugin_of_parse (parsed : parse text hasChoices plugins = .ok answer)
    {name : String} :
    answer.requiredPlugin = some name ↔
      ∃ arguments, answer.kind = some (.plugin name arguments) := by
  obtain ⟨stated, options, states, -, rfl⟩ := exists_of_parse parsed
  rcases states_of_resolve states with ⟨-, rfl⟩ | ⟨-, states⟩
  · exact iff_of_false nofun nofun
  · exact states.requiredPlugin_eq_some_iff

end Parsed

/-- The correct answer fits the kind that an answer establishes. -/
structure IsSound {W : Type} (answer : Answer W) : Prop where
  choices : ∀ letters, answer.correct = some (.choices letters) → letters ≠ [] ∧
    ∃ kind, answer.kind = some kind ∧ kind.isChoice = true ∧
      (1 < letters.length → kind = .multichoice)
  number : ∀ value error, answer.correct = some (.number value error) →
    answer.kind = some .number
  plugin : ∀ name argument, answer.kind = some (.plugin name argument) →
    answer.requiredPlugin = some name ∧
      ∀ other action asked, answer.correct = some (.plugin other action asked) → other = name

/-- **What an answer says fits together.** -/
theorem isSound_of_parse {W : Type} [Weight W] {text : String} {hasChoices : Bool}
    {answer : Answer W} (parsed : parse text hasChoices plugins = .ok answer) :
    answer.IsSound := by
  refine ⟨?_, ?_, ?_⟩
  · intro letters given
    obtain ⟨kind, named, takes⟩ := takes_of_parse parsed _ given
    cases takes with
    | choice known =>
      exact ⟨known.nonempty, .choice, named, rfl, fun more => absurd more (Nat.lt_irrefl 1)⟩
    | multichoice known => exact ⟨known.nonempty, .multichoice, named, rfl, fun _ => rfl⟩
  · intro value error given
    obtain ⟨kind, named, takes⟩ := takes_of_parse parsed _ given
    cases takes
    exact named
  · intro name argument established
    refine ⟨(requiredPlugin_of_parse parsed).2 ⟨argument, established⟩, ?_⟩
    intro other action asked given
    obtain ⟨kind, named, takes⟩ := takes_of_parse parsed _ given
    cases takes
    exact (QuestionKind.plugin.inj (Option.some.inj (named.symm.trans established))).1

end Answer

end LectureDeck
