import LectureDeck.Question.Kind
import LectureDeck.Text.WordChar
import Mathlib.Data.List.TakeWhile

/-!
# Words for kinds

A sheet records the kind of a question by a word. Different kinds have different words, except that
a plugin may be named like a kind that needs none
(`LectureDeck.QuestionKind.keyword_eq_keyword_iff`).
-/

namespace LectureDeck

open LectureDeck.Text

namespace QuestionKind

/-- The plugin of a kind, if it has one, is named by a word. -/
def IsNamed (kind : QuestionKind) : Prop :=
  ∀ name arguments, kind = .plugin name arguments → name.toList.all isWordChar = true

/-- The plugin that has the word of a kind that needs none. -/
def namesake? : QuestionKind → Option QuestionKind
  | choice => some (plugin "choice" "")
  | multichoice => some (plugin "multichoice" "")
  | number => some (plugin "number" "")
  | text => some (plugin "text" "")
  | plainText => some (plugin "text" "plain")
  | codeText => some (plugin "text" "code")
  | plugin .. => none

/-- The name of a plugin, and its argument after a slash if there is one. -/
def pluginWord (name : List Char) : List Char → List Char
  | [] => name
  | c :: rest => name ++ '/' :: c :: rest

theorem toList_keyword_plugin (name arguments : String) :
    (plugin name arguments).keyword.toList = pluginWord name.toList arguments.toList := by
  unfold keyword
  cases given : arguments.toList with
  | nil => simp [String.toList_eq_nil_iff.1 given, pluginWord]
  | cons c rest =>
    have some : arguments.isEmpty = false := by
      rw [Bool.eq_false_iff, ne_eq, String.isEmpty_iff]
      rintro rfl
      contradiction
    simp [some, given, pluginWord]

/-- A word has no slash, so that it ends where the argument of a plugin begins. -/
theorem takeWhile_pluginWord {name : List Char} (word : name.all isWordChar = true)
    (arguments : List Char) : (pluginWord name arguments).takeWhile isWordChar = name := by
  have every := List.all_eq_true.1 word
  cases arguments with
  | nil => exact List.takeWhile_eq_self_iff.2 every
  | cons c rest =>
    have slash : isWordChar '/' = false := by decide
    rw [pluginWord, List.takeWhile_append_of_pos every,
      List.takeWhile_cons_of_neg (by simp [slash]),
      List.append_nil]

theorem drop_pluginWord (name arguments : List Char) :
    (pluginWord name arguments).drop (name.length + 1) = arguments := by
  cases arguments with
  | nil => exact List.drop_eq_nil_of_le (Nat.le_succ _)
  | cons c rest => simp [pluginWord]

theorem eq_of_keyword_plugin_eq {name other arguments others : String}
    (word : name.toList.all isWordChar = true) (otherWord : other.toList.all isWordChar = true)
    (same : (plugin name arguments).keyword = (plugin other others).keyword) :
    plugin name arguments = plugin other others := by
  have chars := congrArg String.toList same
  rw [toList_keyword_plugin, toList_keyword_plugin] at chars
  have names : name = other := by
    rw [← String.toList_inj, ← takeWhile_pluginWord word arguments.toList, chars,
      takeWhile_pluginWord otherWord]
  have parts : arguments = others := by
    rw [← String.toList_inj, ← drop_pluginWord name.toList arguments.toList, chars, names,
      drop_pluginWord]
  rw [names, parts]

/-- A kind that needs no plugin has the word of its namesake. -/
theorem exists_namesake {kind : QuestionKind}
    (other : ∀ name arguments, kind ≠ plugin name arguments) :
    ∃ name arguments, kind.namesake? = some (plugin name arguments) ∧
      name.toList.all isWordChar = true ∧ kind.keyword = (plugin name arguments).keyword := by
  cases kind with
  | plugin name arguments => exact absurd rfl (other name arguments)
  | _ => exact ⟨_, _, rfl, by decide, by decide⟩

theorem namesake?_of_keyword_eq {kind : QuestionKind} {name arguments : String}
    (other : ∀ name arguments, kind ≠ plugin name arguments)
    (word : name.toList.all isWordChar = true)
    (same : kind.keyword = (plugin name arguments).keyword) :
    kind.namesake? = some (plugin name arguments) := by
  obtain ⟨known, argument, namesake, plain, own⟩ := exists_namesake other
  rw [namesake, eq_of_keyword_plugin_eq plain word (own.symm.trans same)]

theorem keyword_of_namesake? {kind namesake : QuestionKind}
    (found : kind.namesake? = some namesake) : kind.keyword = namesake.keyword := by
  cases kind <;> cases found <;> decide

/-- **Two kinds have the same word if and only if they are the same, or one is a plugin that is
named like the other.** -/
theorem keyword_eq_keyword_iff {kind other : QuestionKind} (named : kind.IsNamed)
    (otherNamed : other.IsNamed) : kind.keyword = other.keyword ↔
      kind = other ∨ kind.namesake? = some other ∨ other.namesake? = some kind := by
  constructor
  · intro same
    cases kind with
    | plugin name arguments =>
      have word := named name arguments rfl
      cases other with
      | plugin known argument =>
        exact .inl (eq_of_keyword_plugin_eq word (otherNamed known argument rfl) same)
      | _ => exact .inr (.inr (namesake?_of_keyword_eq nofun word same.symm))
    | _ =>
      cases other with
      | plugin known argument =>
        exact .inr (.inl (namesake?_of_keyword_eq nofun (otherNamed known argument rfl) same))
      | _ =>
        first
          | exact .inl rfl
          | exact absurd same (by decide)
  · rintro (rfl | found | found)
    · rfl
    · exact keyword_of_namesake? found
    · exact (keyword_of_namesake? found).symm

end QuestionKind

end LectureDeck
