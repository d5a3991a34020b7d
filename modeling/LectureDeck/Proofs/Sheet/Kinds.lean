import LectureDeck.Proofs.Deck.Consistency
import LectureDeck.Proofs.Deck.Cues
import LectureDeck.Proofs.Deck.Questions
import LectureDeck.Proofs.Outline.Reads
import LectureDeck.Proofs.Page.Pages
import LectureDeck.Proofs.Question.Keyword
import LectureDeck.Proofs.Sheet.History

/-!
# Kinds of questions on sheets

A sheet may replace another if the words for the kinds of the questions agree. The sheets of two
files that compile agree just if every question has kept its kind, or has become a plugin that is
named like its kind, or has been one (`LectureDeck.Compiled.checkReplaces_eq_ok_iff_kinds`).
-/

namespace LectureDeck

open LectureDeck.Text

namespace Draft

variable {W : Type} [Weight W] {setting : Setting} {after : Draft W}

/-- A plugin that a slide embeds is embedded by a block. -/
theorem exists_embed_of_readFile (read : readFile setting = .ok after) {slide : Slide}
    (ended : slide ∈ after.file.slides) {name : String} (embedded : name ∈ slide.plugins) :
    ∃ arguments, .pluginEmbed name arguments ∈ setting.outline.blocks := by
  obtain ⟨index, inside, rfl⟩ := List.getElem_of_mem ended
  have each := (kept_tells setting).of_readFile read
  have within : index < after.file.scripts.length := by rwa [← each.length_eq]
  have ends := (List.forall₂_iff_get.1 each).2 index inside within
  obtain ⟨-, last, tells, -, question, -, same, -⟩ := ends
  change after.file.slides[index] = _ at same
  rw [same] at embedded
  change name ∈ last.slide.closeAll.embeds at embedded
  rw [SlideDraft.embeds_of_bare (SlideDraft.bare_closeAll last.slide), tells.embeds] at embedded
  obtain ⟨block, member, named⟩ := List.mem_filterMap.1 embedded
  have known : block ∈ setting.outline.blocks := List.mem_of_mem_take (List.mem_of_mem_drop member)
  cases block with
  | pluginEmbed other arguments =>
    cases named
    exact ⟨arguments, known⟩
  | _ => contradiction

/-- The plugins of questions are named by words. -/
theorem isNamed_of_readFile (outlined : Outline.ofSource setting.source = .ok setting.outline)
    (read : readFile setting = .ok after) :
    ∀ question ∈ after.file.questions, question.kind.IsNamed := by
  intro question asked name arguments isPlugin
  obtain ⟨slide, ended, -, formed⟩ := asksWell_of_readFile read question asked
  obtain ⟨_, embedded⟩ :=
    exists_embed_of_readFile read ended (formed.embeds name arguments isPlugin)
  exact Outline.isWord_of_embedded outlined embedded

end Draft

namespace Question

variable {W : Type} {questions others : List (Question W)}

theorem number_getElem
    (numbers : questions.map number = List.range' 1 questions.length) {index : Nat}
    (inside : index < questions.length) : questions[index].number = index + 1 := by
  have same := congrArg (fun listed => listed[index]?) numbers
  simp only [List.getElem?_map, List.getElem?_eq_getElem inside, List.getElem?_range' inside,
    Option.map_some, Option.some.injEq] at same
  omega

/-- Questions that are numbered in order agree as far as the first go if each of these has one of
its number that agrees with it. -/
theorem map_prefix_iff {α : Type} (view : Question W → α)
    (numbers : questions.map number = List.range' 1 questions.length)
    (otherNumbers : others.map number = List.range' 1 others.length) :
    questions.map view <+: others.map view ↔ ∀ question ∈ questions, ∃ other ∈ others,
      other.number = question.number ∧ view question = view other := by
  rw [List.prefix_iff_getElem?]
  constructor
  · intro agree question asked
    obtain ⟨index, inside, rfl⟩ := List.getElem_of_mem asked
    have same := agree index (by simpa using inside)
    rw [List.getElem_map, List.getElem?_map, Option.map_eq_some_iff] at same
    obtain ⟨other, found, same⟩ := same
    obtain ⟨within, rfl⟩ := List.getElem?_eq_some_iff.1 found
    refine ⟨_, List.getElem_mem within, ?_, same.symm⟩
    rw [number_getElem numbers, number_getElem otherNumbers]
  · intro agree index inside
    have inside : index < questions.length := by simpa using inside
    obtain ⟨other, asked, number, same⟩ := agree _ (List.getElem_mem inside)
    obtain ⟨place, within, rfl⟩ := List.getElem_of_mem asked
    rw [number_getElem numbers, number_getElem otherNumbers, Nat.add_right_cancel_iff] at number
    subst number
    rw [List.getElem_map, List.getElem?_map, List.getElem?_eq_getElem within, same]
    rfl

end Question

namespace Compiled

variable {W : Type} [Weight W] {environment : Environment} {fileNumber otherNumber : Nat}
  {name text otherText : String} {compiled first second : Compiled W}

/-- A file that compiles has its name, and questions that are numbered in order. -/
theorem numbered_of_compile (compiles : compile environment fileNumber name text = .ok compiled) :
    compiled.model.file = name ∧ compiled.model.questions.map Question.number =
      List.range' 1 compiled.model.questions.length := by
  obtain ⟨setting, analysis, found, rfl⟩ := ofSource_eq_ok_iff.1 compiles
  obtain ⟨rfl, -, -, -⟩ := setting_of_findSetting (read_eq_ok_iff.1 found).1
  obtain ⟨draft, -, reads, rfl⟩ := exists_readFile_of_read found
  exact ⟨rfl, (Draft.isConsistent_of_readFile reads).agrees.listed.numbers⟩

theorem isNamed_of_compile (compiles : compile environment fileNumber name text = .ok compiled) :
    ∀ question ∈ compiled.model.questions, question.kind.IsNamed := by
  obtain ⟨setting, analysis, found, rfl⟩ := ofSource_eq_ok_iff.1 compiles
  obtain ⟨draft, outlined, reads, rfl⟩ := exists_readFile_of_read found
  exact Draft.isNamed_of_readFile outlined reads

/-- **A sheet may replace another of its file** if and only if each question that was there has the
kind that it had, or has become a plugin that is named like its kind, or was one named like the kind
that it has. -/
theorem checkReplaces_eq_ok_iff_kinds
    (compiles : compile environment fileNumber name text = .ok first)
    (compilesAgain : compile environment otherNumber name otherText = .ok second) :
    (SheetAttributes.ofModel first.model).checkReplaces (.ofModel second.model) = .ok () ↔
      ∀ question ∈ first.model.questions, ∃ other ∈ second.model.questions,
        other.number = question.number ∧ (question.kind = other.kind ∨
          question.kind.namesake? = some other.kind ∨
            other.kind.namesake? = some question.kind) := by
  obtain ⟨file, numbers⟩ := numbered_of_compile compiles
  obtain ⟨otherFile, otherNumbers⟩ := numbered_of_compile compilesAgain
  have kinds (model : FileModel W) : (SheetAttributes.ofModel model).kinds =
      model.questions.map fun question => question.kind.keyword :=
    List.map_map
  have files : (SheetAttributes.ofModel first.model).file =
      (SheetAttributes.ofModel second.model).file := file.trans otherFile.symm
  rw [SheetAttributes.checkReplaces_eq_ok_iff, SheetAttributes.Continues, and_iff_right files,
    kinds, kinds, Question.map_prefix_iff _ numbers otherNumbers]
  apply forall₂_congr
  intro question asked
  apply exists_congr
  intro other
  apply and_congr_right
  intro otherAsked
  apply and_congr_right'
  exact QuestionKind.keyword_eq_keyword_iff (isNamed_of_compile compiles question asked)
    (isNamed_of_compile compilesAgain other otherAsked)

/-- A question that a plugin named like a kind decides. -/
def askedByPlugin : String := "=text()\n\nAnswer: =text.check()\n"

/-- A question of the kind that the plugin is named like. -/
def askedForText : String := "=text()\n\nAnswer: text\n"

/-- A source that is read has one question, which is of a kind. -/
theorem exists_compiled_of_any {text : String} {kind : QuestionKind}
    (seen : (read (W := Float) .plain 1 "a" (Source.ofText text.toList)).toOption.any
      (fun reading =>
      reading.2.model.questions.map (fun question => (question.number, question.kind)) =
        [(1, kind)]) = true) :
    ∃ compiled : Compiled Float, compile .plain 1 "a" text = .ok compiled ∧
      ∃ question : Question Float, compiled.model.questions = [question] ∧ question.number = 1 ∧
        question.kind = kind := by
  obtain ⟨reading, compiles, holds⟩ := exists_compile_of_any seen
  have questions := of_decide_eq_true holds
  obtain ⟨question, rest, listed, same, none⟩ := List.map_eq_cons_iff.1 questions
  obtain rfl := List.map_eq_nil_iff.1 none
  obtain ⟨number, kind⟩ := Prod.mk.inj same
  exact ⟨_, compiles, question, listed, number, kind⟩

theorem exists_compiled_askedByPlugin : ∃ compiled : Compiled Float,
    compile .plain 1 "a" askedByPlugin = .ok compiled ∧
      ∃ question : Question Float, compiled.model.questions = [question] ∧ question.number = 1 ∧
        question.kind = .plugin "text" "" := by
  apply exists_compiled_of_any
  unfold read findSetting
  rw [Outline.ofSource_eq_within 20 (by decide +kernel)]
  decide +kernel

theorem exists_compiled_askedForText : ∃ compiled : Compiled Float,
    compile .plain 1 "a" askedForText = .ok compiled ∧
      ∃ question : Question Float, compiled.model.questions = [question] ∧ question.number = 1 ∧
        question.kind = .text := by
  apply exists_compiled_of_any
  unfold read findSetting
  rw [Outline.ofSource_eq_within 20 (by decide +kernel)]
  decide +kernel

/-- The plugin's question may become one of the kind that it is named like. -/
theorem checkReplaces_askedForText : ∃ first second : Compiled Float,
    compile .plain 1 "a" askedByPlugin = .ok first ∧
      compile .plain 1 "a" askedForText = .ok second ∧
      (SheetAttributes.ofModel first.model).checkReplaces (.ofModel second.model) = .ok () := by
  obtain ⟨first, compiles, question, questions, number, kind⟩ := exists_compiled_askedByPlugin
  obtain ⟨second, compilesAgain, other, others, otherNumber, otherKind⟩ :=
    exists_compiled_askedForText
  refine ⟨first, second, compiles, compilesAgain, ?_⟩
  rw [checkReplaces_eq_ok_iff_kinds compiles compilesAgain, questions, others]
  intro asked member
  rw [List.mem_singleton.1 member]
  refine ⟨other, List.mem_singleton_self _, otherNumber.trans number.symm, .inr (.inr ?_)⟩
  rw [kind, otherKind]
  rfl

/-- A sheet may replace another though the kind of a question has changed. -/
theorem not_forall_kind_eq : ¬ ∀ (environment : Environment) (fileNumber otherNumber : Nat)
    (name text otherText : String) (first second : Compiled Float),
      compile environment fileNumber name text = .ok first →
      compile environment otherNumber name otherText = .ok second →
      (SheetAttributes.ofModel first.model).checkReplaces (.ofModel second.model) = .ok () →
        ∀ question ∈ first.model.questions, ∃ other ∈ second.model.questions,
          other.number = question.number ∧ other.kind = question.kind := by
  intro keeps
  obtain ⟨first, compiles, question, questions, number, kind⟩ := exists_compiled_askedByPlugin
  obtain ⟨second, compilesAgain, other, others, otherNumber, otherKind⟩ :=
    exists_compiled_askedForText
  have continues : (SheetAttributes.ofModel second.model).Continues (.ofModel first.model) := by
    constructor
    · exact (numbered_of_compile compiles).1.trans (numbered_of_compile compilesAgain).1.symm
    · simp only [SheetAttributes.kinds, SheetAttributes.ofModel, questions, others,
        SheetQuestion.ofQuestion, List.map_cons, List.map_nil, kind, otherKind]
      exact List.prefix_rfl
  have kept := keeps _ _ _ _ _ _ first second compiles compilesAgain
    (SheetAttributes.checkReplaces_eq_ok_iff.2 continues) question
  rw [questions, others] at kept
  obtain ⟨same, member, -, kinds⟩ := kept (List.mem_singleton_self _)
  rw [List.mem_singleton.1 member, kind, otherKind] at kinds
  contradiction

end Compiled

end LectureDeck
