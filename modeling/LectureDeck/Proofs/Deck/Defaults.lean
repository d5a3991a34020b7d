import LectureDeck.Deck.Options
import LectureDeck.Proofs.Text.Edges
import LectureDeck.Proofs.Text.Fields
import Mathlib.Data.List.Permutation

/-!
# Defaults that are written and read

The settings of a header can be written in any order. They are read back as the defaults that they
give, if the pattern of hidden headings is a single word without quotes at its edges
(`LectureDeck.Defaults.readsBack_iff`). Quotes do not keep a pattern together: it is cut at its
blanks, like anything else in a header (`LectureDeck.Defaults.not_forall_readsBack`).
-/

namespace LectureDeck

open LectureDeck.Text

namespace Defaults

/-- What a header may say. -/
inductive Setting where
  | features (value : Features)
  | hide (pattern : String)
  | number (isOn : Bool)
deriving DecidableEq

namespace Setting

/-- A setting as it is written. The names of features stand in any order. -/
inductive IsWritten : Setting → List Char → Prop
  | features {value : Features} {names : List String} (order : names.Perm value.names) :
      IsWritten (features value)
        ("--features=".toList ++ [','].intercalate (names.map String.toList))
  | hide (pattern : String) :
      IsWritten (hide pattern) ("--hide=\"".toList ++ pattern.toList ++ ['"'])
  | number (isOn : Bool) :
      IsWritten (number isOn) ("--number=".toList ++ (if isOn then "yes" else "no").toList)

/-- Defaults with what a setting says. -/
def make (defaults : Defaults) : Setting → Defaults
  | features value => { defaults with features := some value }
  | hide pattern => { defaults with hide := some pattern }
  | number isOn => { defaults with number := some isOn }

end Setting

/-- The features that there may be, with their names in each order. -/
def namedFeatures : List (Features × List String) :=
  [({}, []), ({ multiplicity := true }, ["multiplicity"]), ({ assessment := true }, ["assessment"]),
    ({ multiplicity := true, assessment := true }, ["multiplicity", "assessment"]),
    ({ multiplicity := true, assessment := true }, ["assessment", "multiplicity"])]

/-- Every choice of features, named in any order, is among those that are listed here. -/
theorem mem_namedFeatures {value : Features} {names : List String}
    (order : names.Perm value.names) : (value, names) ∈ namedFeatures := by
  obtain ⟨multiplicity, assessment⟩ := value
  cases multiplicity <;> cases assessment
  · rw [List.perm_nil.1 order]
    decide
  · rw [List.perm_singleton.1 order]
    decide
  · rw [List.perm_singleton.1 order]
    decide
  · rcases List.perm_pair.1 order with rfl | rfl <;> decide

/-- Features are read back in whatever order they are named. -/
theorem apply_features {value : Features} {names : List String} (order : names.Perm value.names)
    (defaults : Defaults) :
    apply defaults ("--features=".toList ++ [','].intercalate (names.map String.toList)) =
      { defaults with features := some value } := by
  have each : ∀ pair ∈ namedFeatures,
      apply defaults ("--features=".toList ++ [','].intercalate (pair.2.map String.toList)) =
        { defaults with features := some pair.1 } := by
    simp only [namedFeatures, List.forall_mem_cons]
    exact ⟨rfl, rfl, rfl, rfl, rfl, nofun⟩
  exact each (value, names) (mem_namedFeatures order)

/-- A pattern in quotes is read back without the quotes at its edges. -/
theorem apply_hide (pattern : String) (defaults : Defaults) :
    apply defaults ("--hide=\"".toList ++ pattern.toList ++ ['"']) =
      { defaults with
        hide := some (String.ofList (unquote ('"' :: pattern.toList ++ ['"']))) } := by
  rfl

/-- The setting for numbers is read back. -/
theorem apply_number (isOn : Bool) (defaults : Defaults) :
    apply defaults ("--number=".toList ++ (if isOn then "yes" else "no").toList) =
      { defaults with number := some isOn } := by
  cases isOn <;> rfl

section Quotes

variable {cs : List Char}

/-- A text has no quote at its edges. -/
def IsUnquoted (cs : List Char) : Prop :=
  (∀ c ∈ cs.head?, isQuote c = false) ∧ ∀ c ∈ cs.getLast?, isQuote c = false

/-- Quotes around a text are taken off with those at its edges. -/
theorem unquote_quoted (cs : List Char) : unquote ('"' :: cs ++ ['"']) = unquote cs := by
  have start : ('"' :: cs ++ ['"']).dropWhile isQuote = (cs ++ ['"']).dropWhile isQuote := rfl
  unfold unquote
  rw [start, List.dropWhile_append]
  split
  · rename_i none
    rw [List.isEmpty_iff.1 none]
    rfl
  · rw [dropEndWhile_concat]
    rfl

/-- Nothing is taken off just from texts that have no quote at their edges. -/
theorem unquote_eq_iff : unquote cs = cs ↔ IsUnquoted cs := by
  constructor
  · intro same
    rw [← same]
    exact ⟨fun _ => of_mem_head?_dropped, fun _ => of_mem_getLast?_dropEndWhile⟩
  · rintro ⟨start, stop⟩
    rw [unquote, dropWhile_of_head start, dropEndWhile_of_last stop]

end Quotes

/-- The settings that give some defaults. -/
def settings (defaults : Defaults) : List Setting :=
  (defaults.features.map Setting.features).toList ++ (defaults.hide.map Setting.hide).toList ++
    (defaults.number.map Setting.number).toList

/-- Words with spaces after each, but perhaps none after the last. -/
inductive IsSpaced : List (List Char) → List Char → Prop
  | nothing : IsSpaced [] []
  | last (word : List Char) : IsSpaced [word] word
  | more (word : List Char) (few : Nat) {words : List (List Char)} {text : List Char}
      (spaced : IsSpaced words text) :
      IsSpaced (word :: words) (word ++ ' ' :: (List.replicate few ' ' ++ text))

/-- A header that gives some defaults: their settings in any order, with spaces between them. -/
def IsHeader (defaults : Defaults) (text : List Char) : Prop :=
  ∃ order words, List.Perm order defaults.settings ∧
    List.Forall₂ Setting.IsWritten order words ∧ IsSpaced words text

section Headers

variable {defaults : Defaults} {text word : List Char} {written : List (List Char)}
  {setting : Setting} {order : List Setting} {pattern : String}

/-- A setting as it is read if it is a single word. -/
def Setting.read : Setting → Setting
  | features value => features value
  | hide pattern => hide (String.ofList (unquote pattern.toList))
  | number isOn => number isOn

/-- A word that a setting is written as is read as the setting. -/
theorem apply_of_isWritten (written : setting.IsWritten word) (defaults : Defaults) :
    apply defaults word = setting.read.make defaults := by
  cases written with
  | features order => exact apply_features order defaults
  | hide pattern =>
    rw [apply_hide, unquote_quoted]
    rfl
  | number isOn => exact apply_number isOn defaults

/-- A setting is one word, unless its pattern has a blank. -/
theorem words_of_isWritten (written : setting.IsWritten word)
    (full : ∀ pattern, setting = .hide pattern → ∀ c ∈ pattern.toList, isBlank c = false) :
    words word = [word] := by
  cases written with
  | @features value names order =>
    have each : ∀ pair ∈ namedFeatures,
        words ("--features=".toList ++ [','].intercalate (pair.2.map String.toList)) =
          ["--features=".toList ++ [','].intercalate (pair.2.map String.toList)] := by
      simp only [namedFeatures, List.forall_mem_cons]
      exact ⟨rfl, rfl, rfl, rfl, rfl, nofun⟩
    exact each (value, names) (mem_namedFeatures order)
  | hide pattern =>
    have marks : ∀ c ∈ "--hide=\"".toList, isBlank c = false := forall_mem_of_all (by decide)
    refine words_of_full (by simp) fun c member => ?_
    rw [List.append_assoc, List.mem_append, List.mem_append, List.mem_singleton] at member
    rcases member with member | member | rfl
    · exact marks c member
    · exact full pattern rfl c member
    · rfl
  | number isOn => cases isOn <;> rfl

/-- Settings with blanks between them have the words of each, in order. -/
theorem words_of_isSpaced (spaced : IsSpaced written text) :
    words text = written.flatMap words := by
  induction spaced with
  | nothing => rfl
  | last word => simp
  | @more word few written text _ later =>
    have spaces : words (List.replicate few ' ' ++ text) = words text := by
      induction few with
      | zero => rfl
      | succ few same => exact same
    rw [words_append_cons rfl, spaces, later, List.flatMap_cons]

/-- Defaults have the setting of features that they say. -/
theorem features_mem_settings {value : Features} :
    .features value ∈ defaults.settings ↔ defaults.features = some value := by
  simp [settings]

/-- Defaults have the pattern that they say. -/
theorem hide_mem_settings : .hide pattern ∈ defaults.settings ↔ defaults.hide = some pattern := by
  simp [settings]

/-- Defaults have the setting for numbers that they say. -/
theorem number_mem_settings {isOn : Bool} :
    .number isOn ∈ defaults.settings ↔ defaults.number = some isOn := by
  simp [settings]

/-- The settings of some defaults can be made in any order. -/
theorem make_comm {first second : Setting} (isFirst : first ∈ defaults.settings)
    (isSecond : second ∈ defaults.settings) (before : Defaults) :
    second.read.make (first.read.make before) = first.read.make (second.read.make before) := by
  cases first <;> cases second
  case features.features =>
    cases (features_mem_settings.1 isFirst).symm.trans (features_mem_settings.1 isSecond)
    rfl
  case hide.hide =>
    cases (hide_mem_settings.1 isFirst).symm.trans (hide_mem_settings.1 isSecond)
    rfl
  case number.number =>
    cases (number_mem_settings.1 isFirst).symm.trans (number_mem_settings.1 isSecond)
    rfl
  all_goals rfl

/-- Words that are read one after another make the settings that they are written for, in the same
order. -/
theorem foldl_of_isWritten (each : List.Forall₂ Setting.IsWritten order written)
    (before : Defaults) : written.foldl apply before =
      order.foldl (fun before setting => setting.read.make before) before := by
  induction each generalizing before with
  | nil => rfl
  | cons first _ later => rw [List.foldl_cons, List.foldl_cons, apply_of_isWritten first, later]

/-- No setting is cut into several words if its pattern has no blanks. -/
theorem flatMap_words (each : List.Forall₂ Setting.IsWritten order written)
    (full : ∀ pattern, .hide pattern ∈ order → ∀ c ∈ pattern.toList, isBlank c = false) :
    written.flatMap words = written := by
  induction each with
  | nil => rfl
  | cons first _ later =>
    have single := words_of_isWritten first fun pattern same =>
      full pattern (same ▸ List.mem_cons_self)
    have others := later fun pattern member => full pattern (List.mem_cons_of_mem _ member)
    rw [List.flatMap_cons, single, others, List.singleton_append]

/-- A header is read as its settings, if its pattern has no blank. -/
theorem parse_of_isHeader (header : IsHeader defaults text)
    (full : ∀ pattern ∈ defaults.hide, ∀ c ∈ pattern.toList, isBlank c = false) :
    parse text =
      { features := defaults.features
        hide := defaults.hide.map fun pattern => String.ofList (unquote pattern.toList)
        number := defaults.number } := by
  obtain ⟨order, written, perm, each, spaced⟩ := header
  have single := flatMap_words each fun pattern member =>
    full pattern (hide_mem_settings.1 (perm.subset member))
  rw [parse, words_of_isSpaced spaced, single, foldl_of_isWritten each,
    perm.foldl_eq' (fun first isFirst second isSecond before =>
      make_comm (perm.subset isFirst) (perm.subset isSecond) before)]
  obtain ⟨features, hide, number, unknown⟩ := defaults
  cases features <;> cases hide <;> cases number <;> rfl

/-- The setting of features leaves the pattern alone. -/
theorem hide_withFeatures (defaults : Defaults) (value : List Char) :
    (defaults.withFeatures value).hide = defaults.hide := by
  unfold withFeatures
  refine List.foldlRecOn (motive := fun after : Defaults => after.hide = defaults.hide) _ _ rfl ?_
  intro after same name _
  split <;> exact same

/-- Taking quotes off adds no characters. -/
theorem unquote_subset (cs : List Char) : unquote cs ⊆ cs := by
  have start : unquote cs <+: cs.dropWhile isQuote := dropEndWhile_prefix isQuote _
  exact fun _ member => (List.dropWhile_suffix _).subset (start.subset member)

/-- A pattern that a word sets has no other characters than the word. -/
theorem subset_of_mem_hide (member : pattern ∈ (apply defaults word).hide) :
    pattern ∈ defaults.hide ∨ pattern.toList ⊆ word := by
  unfold apply at member
  split at member
  · exact .inl member
  · rename_i argument begins
    have inWord : argument ⊆ word := by
      rw [after?_eq_some_iff.1 begins]
      exact List.subset_append_right _ _
    cases cuts : cut? '=' argument with
    | none =>
      rw [cuts] at member
      dsimp only at member
      split at member
      · rw [hide_withFeatures] at member
        exact .inl member
      · contradiction
      · exact .inl member
      · exact .inl member
    | some parts =>
      rw [cuts] at member
      dsimp only at member
      split at member
      · rw [hide_withFeatures] at member
        exact .inl member
      · cases member
        have value : parts.2 ⊆ argument := by
          rw [eq_of_cut? cuts]
          exact fun _ => List.mem_append_right _ ∘ List.mem_cons_of_mem _
        rw [String.toList_ofList]
        exact .inr fun _ inside => inWord (value (unquote_subset _ inside))
      · exact .inl member
      · exact .inl member

/-- No pattern that is read has a blank. -/
theorem isBlank_of_mem_hide (member : pattern ∈ (parse text).hide) :
    ∀ c ∈ pattern.toList, isBlank c = false := by
  refine List.foldlRecOn (motive := fun after => ∀ pattern ∈ after.hide, ∀ c ∈ pattern.toList,
    isBlank c = false) (words text) apply (b := {}) nofun ?_ pattern member
  intro before earlier word isWord pattern member
  rcases subset_of_mem_hide member with known | inWord
  · exact earlier pattern known
  · exact fun c isChar => isBlank_of_mem_words isWord c (inWord isChar)

/-- Options are changed as defaults say, and in nothing else. -/
structure IsOverridden (options changed : Options) (defaults : Defaults) : Prop where
  features : changed.features = defaults.features.getD options.features
  hide : changed.hide = defaults.hide.or options.hide
  number : changed.number = defaults.number.getD options.number
  others : { changed with
    features := options.features, hide := options.hide, number := options.number } = options

/-- A header is read as the defaults that it gives. -/
structure ReadsBack (defaults : Defaults) (text : List Char) : Prop where
  parsed : parse text = { defaults with unknown := [] }
  applied : ∀ options, IsOverridden options (options.withDefaults (parse text)) defaults

end Headers

section Results

/-- **A header is read back** if and only if its pattern, if it has one, is a word without quotes at
its edges. -/
theorem readsBack_iff {defaults : Defaults} {text : List Char} (header : IsHeader defaults text) :
    ReadsBack defaults text ↔ ∀ pattern ∈ defaults.hide,
      (∀ c ∈ pattern.toList, isBlank c = false) ∧ IsUnquoted pattern.toList := by
  constructor
  · rintro ⟨parsed, -⟩
    have hidden : (parse text).hide = defaults.hide := by rw [parsed]
    have full : ∀ pattern ∈ defaults.hide, ∀ c ∈ pattern.toList, isBlank c = false :=
      fun pattern given => isBlank_of_mem_hide (hidden ▸ given)
    rw [parse_of_isHeader header full] at hidden
    intro pattern given
    rw [Option.mem_def.1 given] at hidden
    refine ⟨full pattern given, unquote_eq_iff.1 ?_⟩
    have same : String.ofList (unquote pattern.toList) = pattern := Option.some.inj hidden
    exact String.toList_ofList.symm.trans (congrArg String.toList same)
  · intro plain
    have same : (defaults.hide.map fun pattern => String.ofList (unquote pattern.toList)) =
        defaults.hide := by
      refine (Option.map_congr fun pattern given => ?_).trans Option.map_id'
      rw [unquote_eq_iff.2 (plain pattern given).2, String.ofList_toList]
    have parsed := parse_of_isHeader header fun pattern given => (plain pattern given).1
    rw [same] at parsed
    exact ⟨parsed, fun options => parsed ▸ ⟨rfl, rfl, rfl, rfl⟩⟩

/-- Settings in another order than that in which they are listed. -/
theorem readsBack_iff_threeSettings :
    let defaults : Defaults := ⟨some ⟨true, true⟩, some "a=,--b", some false, []⟩
    let text := "--number=no  --features=assessment,multiplicity --hide=\"a=,--b\"".toList
    IsHeader defaults text ∧ ReadsBack defaults text := by
  intro defaults text
  have header : IsHeader defaults text := by
    refine ⟨[.number false, .features ⟨true, true⟩, .hide "a=,--b"], _, by decide,
      .cons (.number false) (.cons (.features (List.Perm.swap _ _ [])) (.cons (.hide _) .nil)), ?_⟩
    exact .more _ 1 (.more _ 0 (.last _))
  refine ⟨header, (readsBack_iff header).2 ?_⟩
  rintro pattern ⟨⟩
  refine ⟨forall_mem_of_all (by decide), ?_, ?_⟩
  · rintro c ⟨⟩
    rfl
  · rintro c ⟨⟩
    rfl

/-- Not every pattern without quotes and line breaks is read back: one of two words is cut. -/
theorem not_forall_readsBack : ¬∀ (defaults : Defaults) (text : List Char), IsHeader defaults text →
    (∀ pattern ∈ defaults.hide, ∀ c ∈ pattern.toList, isQuote c = false ∧ c ≠ '\n' ∧ c ≠ '\r') →
      ReadsBack defaults text := by
  intro all
  have header : IsHeader { hide := some "a b" } "--hide=\"a b\"".toList :=
    ⟨[.hide "a b"], _, .refl _, .cons (.hide _) .nil, .last _⟩
  have unquoted : ∀ pattern ∈ some "a b", ∀ c ∈ pattern.toList,
      isQuote c = false ∧ c ≠ '\n' ∧ c ≠ '\r' := by
    rintro pattern ⟨⟩
    exact forall_mem_of_all (by decide)
  have parsed := (all _ _ header unquoted).parsed
  have cut : parse "--hide=\"a b\"".toList = { hide := some "a", unknown := ["b\""] } := by decide
  rw [cut] at parsed
  exact List.cons_ne_nil _ _ (congrArg Defaults.unknown parsed)

end Results

end Defaults

end LectureDeck
