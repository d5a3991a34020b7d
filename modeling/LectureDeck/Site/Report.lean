import LectureDeck.Deck.Run
import LectureDeck.Json.Printer
import LectureDeck.Text.Lowercase

/-!
# Reports

What a run tells of itself: on a terminal, with colours, or as data.
-/

namespace LectureDeck.Site

/-- The form of a report. -/
inductive ReportForm where
  | terminal
  | data
deriving DecidableEq, Repr

/-- The form that a word names, whatever the case of its letters. -/
def ReportForm.ofWord? (word : String) : Option ReportForm :=
  match String.ofList (Text.lowercase word.toList) with
  | "text" => some .terminal
  | "json" => some .data
  | _ => none

/-- A way to show text on a terminal. -/
inductive Shade where
  | bold
  | dimmed
  | green
  | yellow
  | cyan
deriving DecidableEq, Repr

/-- The codes that begin and end a shade. -/
def Shade.codes : Shade → String × String
  | bold => ("1", "0")
  | dimmed => ("2", "0")
  | green => ("32", "39")
  | yellow => ("33", "39")
  | cyan => ("36", "39")

def shaded (shade : Shade) (text : String) : String :=
  let (start, stop) := shade.codes
  "\x1b[" ++ start ++ "m" ++ text ++ "\x1b[" ++ stop ++ "m"

def counted (count : Nat) (noun : String) : String := Decimal.naturalText count ++ " " ++ noun

def questionLine {W : Type} (question : Question W) : String :=
  "      " ++ shaded .dimmed ("Q" ++ Decimal.naturalText question.number) ++ " " ++
    question.slideId ++ " " ++ shaded .cyan question.kind.keyword ++ "\n"

/-- The lines of a file, with its questions when all is asked for. -/
def fileLines {W : Type} [Weight W] (verbose : Bool) (file : Compiled W) : String :=
  let model := file.model
  "  " ++ shaded .green "+" ++ " " ++ shaded .bold file.name ++ " (" ++
    counted model.slides.length "slides, " ++ counted model.questions.length "questions, " ++
    "score weight " ++ Weight.text model.totalScore ++ ")\n" ++
    if verbose then String.join (model.questions.map questionLine) else ""

def warningLine (warning : Warning) : String :=
  let place := match warning.slide with
    | some slide => warning.file ++ ":" ++ Decimal.naturalText slide
    | none => warning.file
  "  " ++ shaded .yellow "-" ++ " " ++ shaded .dimmed place ++ " - " ++
    warning.finding.message ++ "\n"

/-- The lines of the warnings, if there are any. -/
def warningLines (warnings : List Warning) : String :=
  if warnings.isEmpty then ""
  else shaded .bold (shaded .yellow "!") ++ " Warnings (" ++ Decimal.naturalText warnings.length ++
    "):\n" ++ String.join (warnings.map warningLine) ++ "\n"

def terminalReport {W : Type} [Weight W] (verbose : Bool) (run : Run W) : String :=
  "\n" ++ shaded .bold "##" ++ " " ++ shaded .bold (shaded .cyan "Compile Report") ++ "\n\n" ++
    String.join (run.files.map (fileLines verbose)) ++ "\nConcepts: " ++
    counted run.concepts.entries.length "indexed, " ++
    counted run.questionConcepts.entries.length "on questions\n\n" ++ warningLines run.allWarnings

/-- The name of what a warning is about, and its parts. -/
def findingFields : Finding → String × List (String × Json)
  | .conceptNotCovered tag primary =>
    ("concept_not_covered", [("tag", .string tag), ("primary", .bool primary)])
  | .duplicateReference id renamed =>
    ("duplicate_reference", [("id", .string id), ("renamed", .string renamed)])
  | .unresolvedLink id => ("unresolved_forward_link", [("id", .string id)])
  | .missingEmbed plugin => ("missing_inline_plugin", [("plugin", .string plugin)])
  | .duplicateAnswer => ("duplicate_answer", [])
  | .tagsAfterNotes => ("tags_after_notes", [])
  | .unknownPlugin plugin => ("unknown_plugin", [("plugin", .string plugin)])
  | .imageNotFound path => ("image_not_found", [("path", .string path)])
  | .largeConceptSet question size =>
    ("large_concept_set", [("qnumber", .ofNat question), ("size", .ofNat size)])
  | .unknownDefault key => ("unknown_default", [("key", .string key)])

/-- What a warning is about as a value. -/
def findingValue (finding : Finding) : Json :=
  let (name, fields) := findingFields finding
  .object (("kind", .string name) :: fields)

def warningValue (warning : Warning) : Json :=
  .object [("file", .string warning.file), ("slide", .ofOption .ofNat warning.slide),
    ("kind", findingValue warning.finding)]

/-- A file as a value, given how weights are written. -/
def fileValue {W : Type} [Weight W] (weight : W → Json) (file : Compiled W) : Json :=
  let model := file.model
  .object [("name", .string file.name), ("chapter_id", .string model.chapterId),
    ("slides", .ofNat model.slides.length), ("questions", .ofNat model.questions.length),
    ("total_score", weight model.totalScore), ("total_grade", weight model.totalGrade),
    ("digest", .string file.record.digest)]

/-- The report as data, given how weights are written. -/
def dataReport {W : Type} [Weight W] (weight : W → Json) (run : Run W) : String :=
  (Json.object [("files", .ofList (fileValue weight) run.files),
    ("concepts", .ofNat run.concepts.entries.length),
    ("question_concepts", .ofNat run.questionConcepts.entries.length),
    ("warnings", .ofList warningValue run.allWarnings)]).pretty

def report (form : ReportForm) (verbose : Bool) (run : Run Float) : String :=
  match form with
  | .terminal => terminalReport verbose run
  | .data => dataReport Json.ofFloat run

end LectureDeck.Site
