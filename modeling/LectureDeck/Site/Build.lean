import LectureDeck.Page.Contents
import LectureDeck.Sheet.Attributes
import LectureDeck.Site.Sources

/-!
# Building a site

The files that a run writes: for each source its page, its record and its sheet, and four pages for
the run as a whole. A source can be verified later against its record.
-/

namespace LectureDeck.Site

/-- A file to be written, by its path. -/
structure Artifact where
  path : String
  content : String
deriving DecidableEq, Repr

def page (title body : String) : String :=
  "<!DOCTYPE html>\n<html>\n<head>\n<meta charset=\"utf-8\">\n<title>" ++ title ++
    "</title>\n</head>\n<body>\n" ++ body ++ "</body>\n</html>\n"

/-- The files that a source yields. -/
def fileArtifacts (target : String) (file : Compiled Float) : List Artifact :=
  let path := fun ending => join target (file.name ++ ending)
  let sheet := SheetAttributes.ofModel file.model
  [⟨path ".html", page (file.model.header.getD file.name) file.page⟩,
    ⟨path ".record.json", file.record.print⟩,
    ⟨path ".sheet.json", (sheet.encode Json.ofFloat Json.ofFloat).pretty⟩]

/-- The pages for a run as a whole. -/
def runArtifacts (target : String) (options : Options) (run : Run Float) : List Artifact :=
  let path := join target
  let site := options.siteUrl
  [⟨path options.indexFile, page "Concept index" (run.concepts.markup site)⟩,
    ⟨path options.questionIndexFile, page "Question concepts" (run.questionConcepts.markup site)⟩,
    ⟨path options.contentsFile, page "Contents" (run.contents options)⟩,
    ⟨path options.crossReferenceFile, page "Cross-reference" (run.crossReferences options)⟩]

/-- All files that a run writes, in order. -/
def artifacts (target : String) (options : Options) (run : Run Float) : List Artifact :=
  run.files.flatMap (fileArtifacts target) ++ runArtifacts target options run

/-- The run of sources with a configuration. Code is not marked up, and images stay where they
are. -/
def compileSite (config : Config) (sources : List SourceFile) : Except Error (Run Float) := do
  let noMarkup : Highlighter := fun _ _ => none
  let noImages : ImageSource := fun _ _ _ => none
  let environment ←
    (Environment.ofOptions config.options config.plugins noMarkup noImages).mapError
      Error.invalidOptions
  (Run.ofSources environment sources).mapError Error.compile

/-- The tree after files are written one by one. A file that cannot be written ends it, and those
before it stay. -/
def writeAll (tree : FileTree) : List Artifact → FileTree × Except Error Unit
  | [] => (tree, .ok ())
  | artifact :: rest =>
    match tree.write? artifact.path artifact.content with
    | some tree => writeAll tree rest
    | none => (tree, .error (.notWritten artifact.path))

/-- The tree after the files of a run are written, and their paths. -/
def writeRun (tree : FileTree) (target : String) (options : Options) (run : Run Float) :
    FileTree × Except Error (List String) :=
  match tree.makeDirectories target with
  | (tree, false) => (tree, .error (.directoryNotMade target))
  | (tree, true) =>
    let artifacts := artifacts target options run
    let (tree, outcome) := writeAll tree artifacts
    (tree, outcome.map fun _ => artifacts.map Artifact.path)

/-- The run of the sources that paths lead to. -/
def compilePaths (tree : FileTree) (config : Config) (paths : List String) :
    Except Error (Run Float) := do
  compileSite config (← collect tree config paths)

/-- The tree after a site is built, with the run and the paths of the files written. -/
def build (tree : FileTree) (config : Config) (paths : List String) (target : String) :
    FileTree × Except Error (Run Float × List String) :=
  match compilePaths tree config paths with
  | .error error => (tree, .error error)
  | .ok run =>
    let (tree, outcome) := writeRun tree target config.options run
    (tree, outcome.map fun paths => (run, paths))

/-- The text of a file. -/
def readFile (tree : FileTree) (path : String) : Except Error String :=
  match tree.read? path with
  | some text => .ok text
  | none => .error (.unreadable path)

/-- The text of slides of a source that agrees with its record, or of all of them. -/
def verifyFile (tree : FileTree) (source record : String) (range : Option (Nat × Nat)) :
    Except Error String := do
  let text ← readFile tree source
  let stored ← readFile tree record
  match (Json.read? stored).bind Record.decode? with
  | none => .error (.invalidRecord record)
  | some reading =>
    let slides ← (reading.verify text.toList).mapError (Error.mismatch source)
    match range with
    | none => .ok (String.ofList slides.source)
    | some (first, last) =>
      let text ← (slides.extract first last).mapError Error.outOfRange
      .ok (String.ofList text)

end LectureDeck.Site
