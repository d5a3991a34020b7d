import LectureDeck.Deck.Run
import LectureDeck.Proofs.Deck.Lasting
import LectureDeck.Proofs.Page.Pages
import Mathlib.Data.List.Forall2

/-!
# Files of a run

A run compiles its sources one by one, and numbers the files from 1 on
(`LectureDeck.Run.forall₂_of_compileFiles`). What it warns of for all files together are concepts
that no slide has mentioned and questions with many concepts.
-/

namespace LectureDeck

/-- The finding says that a question asks for many concepts. -/
def Finding.isLargeConceptSet : Finding → Bool
  | .largeConceptSet .. => true
  | _ => false

/-- The finding is made when the files of a run are brought together. -/
def Finding.isOfRun : Finding → Bool
  | .conceptNotCovered .. | .largeConceptSet .. => true
  | _ => false

/-- The warning says that a question asks for many concepts. -/
def Warning.isLargeConceptSet (warning : Warning) : Bool := warning.finding.isLargeConceptSet

/-- What the header of a file says of the options. -/
def SourceFile.defaults (file : SourceFile) : Defaults :=
  Defaults.parse ((Source.ofText file.text.toList).defaults.getD [])

section Compiling

variable {W : Type} [Weight W] {environment : Environment}

theorem Compiled.place_of_compile {fileNumber : Nat} {name text : String} {compiled : Compiled W}
    (compiles : compile environment fileNumber name text = .ok compiled) :
    compiled.fileNumber = fileNumber ∧ compiled.name = name := by
  obtain ⟨setting, analysis, -, rfl⟩ := Compiled.ofSource_eq_ok_iff.1 compiles
  exact ⟨rfl, rfl⟩

/-- A file compiles with the options of the run and what its header says. -/
theorem Compiled.options_of_compile {fileNumber : Nat} {source : SourceFile}
    {compiled : Compiled W}
    (compiles : compile environment fileNumber source.name source.text = .ok compiled) :
    compiled.options = environment.options.withDefaults source.defaults := by
  obtain ⟨setting, analysis, -, rfl⟩ := Compiled.ofSource_eq_ok_iff.1 compiles
  rfl

/-- The slides of a file are known when the file is read. -/
theorem Compiled.exists_compile_of_slides {fileNumber : Nat} {name text : String}
    {slides : List Slide}
    (seen : (Compiled.read (W := W) environment fileNumber name
      (Source.ofText text.toList)).toOption.any (fun reading =>
        reading.2.model.slides = slides) = true) :
    ∃ file : Compiled W, compile environment fileNumber name text = .ok file ∧
      file.model.slides = slides := by
  obtain ⟨reading, compiles, same⟩ := Compiled.exists_compile_of_any seen
  exact ⟨_, compiles, of_decide_eq_true same⟩

/-- What is found in a file alone needs no other files. -/
theorem Compiled.isOfRun_of_compile {fileNumber : Nat} {name text : String}
    {compiled : Compiled W} (compiles : compile environment fileNumber name text = .ok compiled) :
    ∀ warning ∈ compiled.warnings, warning.finding.isOfRun = false := by
  obtain ⟨setting, analysis, found, rfl⟩ := Compiled.ofSource_eq_ok_iff.1 compiles
  obtain ⟨draft, -, reads, rfl⟩ := Compiled.exists_readFile_of_read found
  refine List.forall_mem_append.2 ⟨List.forall_mem_map.2 fun _ _ => rfl,
    List.forall_mem_append.2 ⟨?_, List.forall_mem_map.2 fun _ _ => rfl⟩⟩
  intro warning member
  have own := Draft.warnsOfSlides_of_readFile reads warning member
  cases found : warning.finding with
  | conceptNotCovered tag primary =>
    rw [found] at own
    contradiction
  | largeConceptSet question size =>
    rw [found] at own
    contradiction
  | _ => rfl

/-- A file alone is not compared with others. -/
theorem Compiled.warnings_of_compile {fileNumber : Nat} {name text : String}
    {compiled : Compiled W} (compiles : compile environment fileNumber name text = .ok compiled) :
    ∀ warning ∈ compiled.warnings, warning.isLargeConceptSet = false := by
  intro warning member
  have own := isOfRun_of_compile compiles warning member
  unfold Warning.isLargeConceptSet
  cases found : warning.finding with
  | largeConceptSet question size =>
    rw [found] at own
    contradiction
  | _ => rfl

/-- **The files of a run are compiled from its sources**, in order, and are numbered. -/
theorem Run.forall₂_of_compileFiles {sources : List SourceFile} {files : List (Compiled W)}
    {before : Nat} (compiles : compileFiles environment before sources = .ok files) :
    List.Forall₂ (fun source file =>
        compile environment file.fileNumber source.name source.text = .ok file) sources files ∧
      files.map Compiled.fileNumber = List.range' (before + 1) files.length := by
  induction sources generalizing before files with
  | nil =>
    cases compiles
    exact ⟨.nil, rfl⟩
  | cons source rest later =>
    simp only [compileFiles, bind_eq_ok, pure_eq_ok] at compiles
    obtain ⟨file, first, others, compiled, rfl⟩ := compiles
    obtain ⟨number, -⟩ := Compiled.place_of_compile first
    obtain ⟨each, numbers⟩ := later compiled
    refine ⟨.cons (number.symm ▸ first) each, ?_⟩
    rw [List.map_cons, numbers, number, List.length_cons, List.range'_succ]

theorem Run.exists_of_mem_compileFiles {sources : List SourceFile} {files : List (Compiled W)}
    {before : Nat} (compiles : compileFiles environment before sources = .ok files) :
    ∀ file ∈ files, ∃ source ∈ sources,
      compile environment file.fileNumber source.name source.text = .ok file := by
  intro file member
  obtain ⟨each, -⟩ := forall₂_of_compileFiles compiles
  clear compiles
  induction each with
  | nil => contradiction
  | cons first _ later =>
    rcases List.mem_cons.1 member with rfl | member
    · exact ⟨_, List.mem_cons_self, first⟩
    · obtain ⟨source, known, compiled⟩ := later member
      exact ⟨source, List.mem_cons_of_mem _ known, compiled⟩

theorem Run.ofSources_eq_ok_iff {sources : List SourceFile} {run : Run W} :
    ofSources environment sources = .ok run ↔
      ∃ files, compileFiles environment 0 sources = .ok files ∧
        run = ofFiles environment.options files := by
  simp only [ofSources, bind_eq_ok, pure_eq_ok, @eq_comm _ run]

end Compiling

section Indexing

variable {W : Type}

theorem ConceptIndex.questions_merge (index : ConceptIndex) (occurrences : List Occurrence) :
    (index.merge occurrences).questions =
      index.questions ++ occurrences.flatMap Occurrence.conceptQuestions := by
  induction occurrences generalizing index with
  | nil => exact (List.append_nil _).symm
  | cons occurrence rest later =>
    rw [merge, List.foldl_cons, ← merge, later, List.flatMap_cons, ← List.append_assoc]
    rfl

/-- The questions of an index are those of the files, in order. -/
theorem Run.questions_conceptIndex (files : List (Compiled W)) :
    (conceptIndex files).questions =
      files.flatMap fun file => file.occurrences.flatMap Occurrence.conceptQuestions := by
  have merged (index : ConceptIndex) :
      (files.foldl (fun index file => index.merge file.occurrences) index).questions =
        index.questions ++
          files.flatMap fun file => file.occurrences.flatMap Occurrence.conceptQuestions := by
    induction files generalizing index with
    | nil => exact (List.append_nil _).symm
    | cons file rest later =>
      rw [List.foldl_cons, later, ConceptIndex.questions_merge, List.flatMap_cons,
        List.append_assoc]
  exact merged {}

theorem ConceptIndex.filter_mergeWarnings (assessment : Bool) (index : ConceptIndex)
    (occurrences : List Occurrence) :
    (index.mergeWarnings assessment occurrences).filter Warning.isLargeConceptSet = [] := by
  induction occurrences generalizing index with
  | nil => rfl
  | cons occurrence rest later =>
    rw [mergeWarnings, List.filter_append, later, List.append_nil, List.filter_eq_nil_iff]
    intro warning member
    split at member
    · contradiction
    · unfold uncovered at member
      split at member
      · contradiction
      · obtain ⟨tag, -, rfl⟩ := List.mem_map.1 member
        exact Bool.false_ne_true

theorem Run.filter_coverageWarnings (index : ConceptIndex) (files : List (Compiled W)) :
    (coverageWarnings index files).filter Warning.isLargeConceptSet = [] := by
  induction files generalizing index with
  | nil => rfl
  | cons file rest later =>
    rw [coverageWarnings, List.filter_append, ConceptIndex.filter_mergeWarnings, later]
    rfl

/-- A run warns of questions with many concepts as its report tells of them. -/
theorem Run.filter_warnings (options : Options) (files : List (Compiled W)) :
    (ofFiles options files).warnings.filter Warning.isLargeConceptSet =
      (ofFiles options files).subquestions.oversized.map oversizedWarning := by
  rw [ofFiles]
  dsimp only
  rw [List.filter_append, filter_coverageWarnings, List.nil_append, List.filter_eq_self]
  exact List.forall_mem_map.2 fun _ _ => rfl

end Indexing

end LectureDeck
