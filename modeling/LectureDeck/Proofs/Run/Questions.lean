import LectureDeck.Proofs.Concept.Subquestions
import LectureDeck.Proofs.Decimal.Natural
import LectureDeck.Proofs.Deck.Consistency
import LectureDeck.Proofs.Deck.Tags
import LectureDeck.Proofs.Outline.Reads
import LectureDeck.Proofs.Run.Files

/-!
# Questions of a run

The questions of a run are compared by the concepts that the slides they are on are tagged with
(`LectureDeck.Run.isCompared_ofSources`). Case does not matter there, and a tag that is given twice
counts once.
-/

namespace LectureDeck

section Asking

variable {W : Type}

/-- The slide that a question is on. -/
def FileModel.slideOf? (model : FileModel W) (question : Question W) : Option Slide :=
  model.slides.find? fun slide => slide.number = question.slide

/-- A question of a file, with the tags of the slide that it is on. -/
def Compiled.asked (file : Compiled W) (question : Question W) : AskedQuestion :=
  let slide := file.model.slideOf? question
  ⟨⟨file.name, question.slideId, (slide.bind Slide.header).getD "", question.number⟩,
    (slide.map Slide.tags).getD {}⟩

/-- The questions of a run, in order. -/
def Run.questions (run : Run W) : List AskedQuestion :=
  run.files.flatMap fun file => file.model.questions.map file.asked

/-- The question on a slide, with the tags of the slide. -/
def Slide.asked? (file : String) (slide : Slide) : Option AskedQuestion :=
  slide.question.map fun number =>
    ⟨⟨file, slide.id, slide.header.getD "", number⟩, slide.tags⟩

/-- The question on a slide, with the number of the slide. -/
def Slide.placed? (file : String) (slide : Slide) : Option (Nat × AskedQuestion) :=
  (slide.asked? file).map (slide.number, ·)

theorem Tags.concepts_of_isEmpty {tags : Tags} (none : tags.isEmpty = true) :
    tags.concepts = [] := by
  rw [isEmpty, Bool.and_eq_true, List.isEmpty_iff, List.isEmpty_iff] at none
  rw [concepts, all, none.1, none.2]
  rfl

/-- An index knows the question on a slide if it asks for concepts. -/
theorem Slide.conceptQuestions_occurrence? (file : String) {slide : Slide}
    (given : slide.tags.AreConcepts) :
    (slide.occurrence? file).toList.flatMap Occurrence.conceptQuestions =
      ((slide.asked? file).toList.filter fun asked => asked.concepts.Nonempty).map
        AskedQuestion.indexed := by
  unfold occurrence? asked?
  cases asks : slide.question with
  | none => split <;> rfl
  | some number =>
    let asked : AskedQuestion := ⟨⟨file, slide.id, slide.header.getD "", number⟩, slide.tags⟩
    have some_iff : asked.concepts.Nonempty ↔ slide.tags.concepts ≠ [] := by
      rw [Finset.nonempty_iff_ne_empty, ne_eq, ← AskedQuestion.sorted_eq_nil_iff]
    rw [Option.map_some, Option.toList_some, List.filter_singleton]
    split
    · rename_i untagged
      rw [decide_eq_false fun some => some_iff.1 some (Tags.concepts_of_isEmpty untagged)]
      rfl
    · rw [Option.toList_some, List.flatMap_singleton, Occurrence.conceptQuestions]
      dsimp only
      have key := isEmpty_conceptKey_iff (Tags.isConcept_of_mem_concepts given)
      split
      · rename_i empty
        rw [decide_eq_false fun some => some_iff.1 some (key.1 empty)]
        rfl
      · rename_i nonempty
        rw [decide_eq_true (some_iff.2 (key.not.1 nonempty))]
        rfl

theorem FileModel.slideOf?_eq_some_iff {model : FileModel W}
    (distinct : (model.slides.map Slide.number).Nodup) {question : Question W} {slide : Slide} :
    model.slideOf? question = some slide ↔
      slide ∈ model.slides ∧ slide.number = question.slide := by
  unfold slideOf?
  constructor
  · intro found
    have number := List.find?_some found
    exact ⟨List.mem_of_find?_eq_some found, of_decide_eq_true number⟩
  · rintro ⟨member, same⟩
    cases found : model.slides.find? fun slide => slide.number = question.slide with
    | none => exact absurd (decide_eq_true same) (List.find?_eq_none.1 found slide member)
    | some other =>
      have number := List.find?_some found
      have number := (of_decide_eq_true number).trans same.symm
      rw [List.inj_on_of_nodup_map distinct (List.mem_of_find?_eq_some found) member number]

end Asking

section Files

variable {W : Type} [Weight W] {setting : Setting} {file : FileDraft W} {compiled : Compiled W}

/-- A compiled file is told by a draft whose slides and questions agree. -/
structure Compiled.IsToldBy (compiled : Compiled W) (setting : Setting) (file : FileDraft W) :
    Prop where
  agrees : file.Matches setting
  tags : ∀ slide ∈ file.slides, slide.tags.AreConcepts
  name : compiled.name = setting.file
  fileNumber : compiled.fileNumber = setting.fileNumber
  slides : compiled.model.slides = file.slides
  questions : compiled.model.questions = file.questions
  occurrences : compiled.occurrences = file.occurrences

theorem Compiled.exists_isToldBy {environment : Environment} {fileNumber : Nat}
    {name text : String} (compiles : compile environment fileNumber name text = .ok compiled) :
    ∃ setting file, compiled.IsToldBy setting file := by
  obtain ⟨setting, analysis, found, rfl⟩ := ofSource_eq_ok_iff.1 compiles
  obtain ⟨rfl, rfl, -, -⟩ := setting_of_findSetting (read_eq_ok_iff.1 found).1
  obtain ⟨draft, _, reads, rfl⟩ := exists_readFile_of_read found
  exact ⟨setting, draft.file, (Draft.isConsistent_of_readFile reads).agrees,
    Draft.areConcepts_of_readFile reads, rfl, rfl, rfl, rfl, rfl⟩

namespace Compiled.IsToldBy

theorem slideOf?_eq_some_iff (told : compiled.IsToldBy setting file) {question : Question W}
    {slide : Slide} : compiled.model.slideOf? question = some slide ↔
      slide ∈ file.slides ∧ slide.number = question.slide := by
  rw [← told.slides]
  refine FileModel.slideOf?_eq_some_iff ?_
  rw [told.slides, told.agrees.numbers]
  exact List.nodup_range'

/-- A question is asked as the slide tells that it is on. -/
theorem asked_eq (told : compiled.IsToldBy setting file) {question : Question W}
    (known : question ∈ file.questions) {slide : Slide} (member : slide ∈ file.slides)
    (on : slide.number = question.slide) :
    slide.asked? compiled.name = some (compiled.asked question) := by
  have asks := (told.agrees.asked slide member question.number).2 ⟨question, known, rfl, on.symm⟩
  have id : slide.id = question.slideId := by
    rw [told.agrees.ids slide member, told.agrees.slideIds question known, on]
  rw [Slide.asked?, Compiled.asked, asks, told.slideOf?_eq_some_iff.2 ⟨member, on⟩, id]
  rfl

/-- The questions of a file stand on its slides in order. -/
theorem map_placed (told : compiled.IsToldBy setting file) :
    file.questions.map (fun question => (question.slide, compiled.asked question)) =
      file.slides.filterMap (Slide.placed? compiled.name) := by
  have asking : (file.questions.map fun question =>
      (question.slide, compiled.asked question)).Pairwise (Order.Preimage Prod.fst (· < ·)) := by
    have sorted := told.agrees.listed.sorted
    rw [List.pairwise_map] at sorted ⊢
    exact sorted
  have telling : (file.slides.filterMap (Slide.placed? compiled.name)).Pairwise
      (Order.Preimage Prod.fst (· < ·)) := by
    have ascending : (file.slides.map Slide.number).Pairwise (· < ·) := by
      rw [told.agrees.numbers]
      exact List.pairwise_lt_range'
    refine (List.pairwise_map.1 ascending).filterMap _ ?_
    intro first second before asked isFirst other isSecond
    obtain ⟨_, -, rfl⟩ := Option.map_eq_some_iff.1 isFirst
    obtain ⟨_, -, rfl⟩ := Option.map_eq_some_iff.1 isSecond
    exact before
  -- Both are in ascending order, so it is enough that they tell of the same slides.
  refine asking.eq_of_mem_iff telling fun ⟨number, asked⟩ => ?_
  rw [List.mem_map, List.mem_filterMap]
  constructor
  · rintro ⟨question, known, same⟩
    cases same
    have inside : question.slide ∈ file.slides.map Slide.number := by
      have positive := told.agrees.positive question known
      have ended := told.agrees.listed.ended question known
      rw [told.agrees.numbers, List.mem_range'_1]
      omega
    obtain ⟨slide, member, on⟩ := List.mem_map.1 inside
    refine ⟨slide, member, ?_⟩
    rw [Slide.placed?, told.asked_eq known member on, on]
    rfl
  · rintro ⟨slide, member, found⟩
    obtain ⟨asked, asks, same⟩ := Option.map_eq_some_iff.1 found
    cases same
    obtain ⟨count, counted, -⟩ := Option.map_eq_some_iff.1 asks
    obtain ⟨question, known, -, on⟩ := (told.agrees.asked slide member count).1 counted
    have same := (told.asked_eq known member on.symm).symm.trans asks
    exact ⟨question, known, Prod.ext on (Option.some.inj same)⟩

/-- The questions of a file are those that its slides tell. -/
theorem map_asked (told : compiled.IsToldBy setting file) :
    compiled.model.questions.map compiled.asked =
      compiled.model.slides.filterMap (Slide.asked? compiled.name) := by
  have questions := congrArg (List.map Prod.snd) told.map_placed
  rw [List.map_map, List.map_filterMap] at questions
  have plain (slide : Slide) : (slide.placed? compiled.name).map Prod.snd =
      slide.asked? compiled.name := by
    rw [Slide.placed?, Option.map_map]
    exact Option.map_id'
  simp only [plain] at questions
  rw [told.slides, told.questions]
  exact questions

/-- An index knows the questions of a file that ask for concepts, in order. -/
theorem conceptQuestions_eq (told : compiled.IsToldBy setting file) :
    compiled.occurrences.flatMap Occurrence.conceptQuestions =
      ((compiled.model.questions.map compiled.asked).filter
        fun asked => asked.concepts.Nonempty).map AskedQuestion.indexed := by
  have known : compiled.occurrences = file.slides.flatMap fun slide =>
      (slide.occurrence? compiled.name).toList := by
    rw [told.occurrences, told.agrees.occurrences, told.name, List.filterMap_eq_flatMap_toList]
  rw [told.map_asked, told.slides, known, List.filterMap_eq_flatMap_toList, List.flatMap_assoc,
    List.filter_flatMap, List.map_flatMap]
  apply List.flatMap_congr
  intro slide member
  exact slide.conceptQuestions_occurrence? compiled.name (told.tags slide member)

/-- The tags of a question are those of a slide. -/
theorem areConcepts_asked (told : compiled.IsToldBy setting file) :
    ∀ asked ∈ compiled.model.questions.map compiled.asked, asked.tags.AreConcepts := by
  rw [told.map_asked, told.slides]
  intro asked member
  obtain ⟨slide, known, asks⟩ := List.mem_filterMap.1 member
  obtain ⟨number, -, rfl⟩ := Option.map_eq_some_iff.1 asks
  exact told.tags slide known

theorem slideId_of_mem (told : compiled.IsToldBy setting file) :
    ∀ asked ∈ compiled.model.questions.map compiled.asked,
      ∃ slide, asked.question.slideId = slideId compiled.fileNumber slide := by
  rw [told.questions, told.fileNumber]
  refine List.forall_mem_map.2 fun question known => ⟨question.slide, ?_⟩
  exact told.agrees.slideIds question known

/-- The questions of a file have numbers of their own. -/
theorem nodup_asked (told : compiled.IsToldBy setting file) :
    ((compiled.model.questions.map compiled.asked).map AskedQuestion.question).Nodup := by
  have numbers : (compiled.model.questions.map Question.number).Nodup := by
    rw [told.questions, told.agrees.listed.numbers]
    exact List.nodup_range'
  refine List.Nodup.of_map TaggedQuestion.number ?_
  rwa [List.map_map, List.map_map]

end Compiled.IsToldBy

end Files

namespace Run

variable {W : Type} [Weight W] {environment : Environment} {sources : List SourceFile}
  {files : List (Compiled W)} {run : Run W}

/-- A run whose questions are compared. -/
structure IsCompared (run : Run W) : Prop where
  /-- Every question is told apart from the others. -/
  distinct : (run.questions.map AskedQuestion.question).Nodup
  entries : List.Forall₂ (SubquestionReport.IsOf run.questions)
    (run.questions.filter fun asked => asked.concepts.Nonempty) run.subquestions.entries
  oversized : run.subquestions.oversized =
    (run.questions.filter fun asked => 8 < asked.concepts.card).map
      fun asked => (asked.question, asked.concepts.card)
  warnings : run.warnings.filter Warning.isLargeConceptSet =
    (run.questions.filter fun asked => 8 < asked.concepts.card).map fun asked =>
      ⟨asked.question.file, none, .largeConceptSet asked.question.number asked.concepts.card⟩
  /-- No file warns of its questions on its own. -/
  alone : ∀ file ∈ run.files, ∀ warning ∈ file.warnings, warning.isLargeConceptSet = false

theorem exists_isToldBy_of_mem {before : Nat}
    (compiles : compileFiles environment before sources = .ok files) :
    ∀ compiled ∈ files, ∃ setting file, compiled.IsToldBy setting file := by
  intro compiled member
  obtain ⟨source, -, compiles⟩ := exists_of_mem_compileFiles compiles compiled member
  exact Compiled.exists_isToldBy compiles

/-- Questions of a run are told apart by their numbers, or by their slides if they are in different
files. -/
theorem nodup_questions {before : Nat}
    (compiles : compileFiles environment before sources = .ok files) :
    ((files.flatMap fun file => file.model.questions.map file.asked).map
      AskedQuestion.question).Nodup := by
  have told := exists_isToldBy_of_mem compiles
  have numbers : (files.map Compiled.fileNumber).Nodup := by
    rw [(forall₂_of_compileFiles compiles).2]
    exact List.nodup_range'
  rw [List.map_flatMap, List.nodup_flatMap]
  constructor
  · intro compiled member
    obtain ⟨setting, file, told⟩ := told compiled member
    exact told.nodup_asked
  · refine (List.pairwise_map.1 numbers).imp_of_mem ?_
    intro first second member others different question isFirst isSecond
    obtain ⟨asked, known, rfl⟩ := List.mem_map.1 isFirst
    obtain ⟨other, also, same⟩ := List.mem_map.1 isSecond
    obtain ⟨_, _, firstTold⟩ := told first member
    obtain ⟨_, _, secondTold⟩ := told second others
    obtain ⟨slide, id⟩ := firstTold.slideId_of_mem asked known
    obtain ⟨place, otherId⟩ := secondTold.slideId_of_mem other also
    rw [← same, otherId] at id
    exact different (slideId_inj.1 id).1.symm

/-- The questions that an index knows are those of the run that ask for concepts. -/
theorem questions_conceptIndex_eq {before : Nat}
    (compiles : compileFiles environment before sources = .ok files) :
    (conceptIndex files).questions =
      ((files.flatMap fun file => file.model.questions.map file.asked).filter
        fun asked => asked.concepts.Nonempty).map AskedQuestion.indexed := by
  rw [questions_conceptIndex, List.filter_flatMap, List.map_flatMap]
  apply List.flatMap_congr
  intro compiled member
  obtain ⟨_, _, told⟩ := exists_isToldBy_of_mem compiles compiled member
  exact told.conceptQuestions_eq

/-- What an index knows of a file is known when the file is read. -/
theorem exists_compile_of_read {fileNumber : Nat} {name text : String}
    {questions : List ConceptQuestion}
    (seen : (Compiled.read (W := W) environment fileNumber name
      (Source.ofText text.toList)).toOption.any (fun reading =>
        reading.2.occurrences.flatMap Occurrence.conceptQuestions = questions) = true) :
    ∃ file : Compiled W, compile environment fileNumber name text = .ok file ∧
      file.occurrences.flatMap Occurrence.conceptQuestions = questions := by
  obtain ⟨reading, compiles, asked⟩ := Compiled.exists_compile_of_any seen
  exact ⟨_, compiles, of_decide_eq_true asked⟩

/-- **Questions are compared by their concepts.** The report of a run has an entry for each question
that asks for concepts, in order. With it stand once each the other questions whose concepts are
among its own, unless those are more than eight, and those with the same concepts, but no other
question. A star marks the same concepts, and otherwise the mark tells how many they are; those with
more stand first. The questions with more than eight concepts are told in order, and it is warned of
them and of no other. -/
theorem isCompared_ofSources (compiles : ofSources environment sources = .ok run) :
    run.IsCompared := by
  obtain ⟨files, compiled, rfl⟩ := ofSources_eq_ok_iff.1 compiles
  have given : ∀ asked ∈ (ofFiles environment.options files).questions,
      asked.tags.AreConcepts := by
    intro asked member
    obtain ⟨file, known, member⟩ := List.mem_flatMap.1 member
    obtain ⟨_, _, told⟩ := exists_isToldBy_of_mem compiled file known
    exact told.areConcepts_asked asked member
  have distinct := nodup_questions compiled
  have report : (ofFiles environment.options files).subquestions = SubquestionReport.ofQuestions
      (((ofFiles environment.options files).questions.filter
        fun asked => asked.concepts.Nonempty).map AskedQuestion.indexed) :=
    congrArg SubquestionReport.ofQuestions (questions_conceptIndex_eq compiled)
  have oversized := SubquestionReport.oversized_ofQuestions given
  rw [← report] at oversized
  constructor
  · exact distinct
  · rw [report]
    exact SubquestionReport.isOf_ofQuestions given distinct
  · exact oversized
  · rw [filter_warnings, oversized, List.map_map]
    rfl
  · intro file member
    obtain ⟨source, -, compiles⟩ := exists_of_mem_compileFiles compiled file member
    exact Compiled.warnings_of_compile compiles

/-- A question about two concepts, and in another file one about the first of them. -/
def twoFiles : List SourceFile :=
  [⟨"a.md", "Tags: x; y\n\nAnswer: 5\n"⟩, ⟨"b.md", "Tags: X\n\nAnswer: 6\n"⟩]

theorem isCompared_ofSources_twoFiles : ∃ run : Run Float,
    ofSources .plain twoFiles = .ok run ∧ run.IsCompared ∧
      run.subquestions.entries.map (fun entry => entry.related.map Prod.fst) = [["1"], []] := by
  obtain ⟨first, compiles, firstAsks⟩ : ∃ file : Compiled Float,
      compile .plain 1 "a" "Tags: x; y\n\nAnswer: 5\n" = .ok file ∧
        file.occurrences.flatMap Occurrence.conceptQuestions =
          [⟨⟨"a", "slidoc01-01", "", 1⟩, "x;y"⟩] := by
    apply exists_compile_of_read
    unfold Compiled.read Compiled.findSetting
    rw [Outline.ofSource_eq_within 20 (by decide +kernel)]
    decide +kernel
  obtain ⟨second, alsoCompiles, secondAsks⟩ : ∃ file : Compiled Float,
      compile .plain 2 "b" "Tags: X\n\nAnswer: 6\n" = .ok file ∧
        file.occurrences.flatMap Occurrence.conceptQuestions =
          [⟨⟨"b", "slidoc02-01", "", 1⟩, "x"⟩] := by
    apply exists_compile_of_read
    unfold Compiled.read Compiled.findSetting
    rw [Outline.ofSource_eq_within 20 (by decide +kernel)]
    decide +kernel
  have firstName : Site.stem "a.md" = "a" := by decide +kernel
  have secondName : Site.stem "b.md" = "b" := by decide +kernel
  have run : ofSources .plain twoFiles =
      .ok (ofFiles Environment.plain.options [first, second]) := by
    rw [ofSources_eq_ok_iff]
    refine ⟨_, ?_, rfl⟩
    simp only [twoFiles, compileFiles, SourceFile.name, firstName, secondName, bind_eq_ok,
      pure_eq_ok]
    exact ⟨first, compiles, _, ⟨second, alsoCompiles, [], rfl, rfl⟩, rfl⟩
  refine ⟨_, run, isCompared_ofSources run, ?_⟩
  have questions : (conceptIndex [first, second]).questions =
      [⟨⟨"a", "slidoc01-01", "", 1⟩, "x;y"⟩, ⟨⟨"b", "slidoc02-01", "", 1⟩, "x"⟩] := by
    rw [questions_conceptIndex, List.flatMap_cons, List.flatMap_singleton, firstAsks, secondAsks]
    rfl
  change (SubquestionReport.ofQuestions (conceptIndex [first, second]).questions).entries.map
    (fun entry => entry.related.map Prod.fst) = _
  rw [questions]
  decide +kernel

end Run

end LectureDeck
