import LectureDeck.Concept.Subquestion
import LectureDeck.Concept.View
import LectureDeck.Deck.Compile
import LectureDeck.Site.Path

/-!
# Runs

The files of a run compile one by one, and are numbered in their order. Then their concepts are
brought together, so that what is said of them depends on the order of the files alone.
-/

namespace LectureDeck

/-- A file to compile. -/
structure SourceFile where
  path : String
  text : String
deriving DecidableEq, Repr

/-- The name of a file: that of its path without the extension. -/
def SourceFile.name (file : SourceFile) : String := Site.stem file.path

/-- What a run yields. -/
structure Run (W : Type) where
  files : List (Compiled W)
  /-- The concepts that slides mention. -/
  concepts : IndexView
  /-- The concepts that questions ask for. -/
  questionConcepts : IndexView
  subquestions : SubquestionReport
  /-- The warnings that belong to no single file. -/
  warnings : List Warning
deriving Repr

namespace Run

variable {W : Type}

/-- The files of a run compiled, given how many came before them. -/
def compileFiles [Weight W] (environment : Environment) (before : Nat) :
    List SourceFile → Except (CompileError W) (List (Compiled W))
  | [] => .ok []
  | file :: rest => do
    let compiled ← compile environment (before + 1) file.name file.text
    return compiled :: (← compileFiles environment (before + 1) rest)

def conceptIndex (files : List (Compiled W)) : ConceptIndex :=
  files.foldl (fun index file => index.merge file.occurrences) {}

/-- The warnings of files that are added to an index. -/
def coverageWarnings (index : ConceptIndex) : List (Compiled W) → List Warning
  | [] => []
  | file :: rest =>
    ConceptIndex.mergeWarnings file.options.features.assessment index file.occurrences ++
      coverageWarnings (index.merge file.occurrences) rest

/-- The warning of a question with too many concepts. -/
def oversizedWarning (question : TaggedQuestion × Nat) : Warning :=
  ⟨question.1.file, none, .largeConceptSet question.1.number question.2⟩

/-- What compiled files yield together. -/
def ofFiles (options : Options) (files : List (Compiled W)) : Run W :=
  let index := conceptIndex files
  let subquestions := SubquestionReport.ofQuestions index.questions
  { files := files
    concepts := index.conceptView (.concepts options)
    questionConcepts := index.questionView (.questions options)
    subquestions := subquestions
    warnings := coverageWarnings {} files ++ subquestions.oversized.map oversizedWarning }

/-- What a run of files yields. -/
def ofSources [Weight W] (environment : Environment) (sources : List SourceFile) :
    Except (CompileError W) (Run W) := do
  return ofFiles environment.options (← compileFiles environment 0 sources)

/-- All warnings: those of the files in order, and those of the run. -/
def allWarnings (run : Run W) : List Warning :=
  run.files.flatMap Compiled.warnings ++ run.warnings

end Run

end LectureDeck
