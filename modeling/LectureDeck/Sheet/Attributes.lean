import LectureDeck.Deck.Model
import LectureDeck.Json.Value

/-!
# Sheet attributes

What a grading sheet keeps of a file: for each question how it is answered and what it counts.
-/

namespace LectureDeck

/-- What a sheet keeps of a question. -/
structure SheetQuestion (W : Type) where
  number : Nat
  slideId : String
  /-- The word for the kind of the question. -/
  kind : String
  /-- The correct answer as it is shown. -/
  correct : Option String
  weight : W
  gradeWeight : Option W
  voteWeight : W
  settings : QuestionSettings
  retry : Option Retry
  hints : List Float
  digest : String
  skip : Option (Skip W)
deriving Repr

/-- What a sheet keeps of a file. -/
structure SheetAttributes (W : Type) where
  file : String
  chapterId : String
  questions : List (SheetQuestion W)
  scores : List W
  grades : List W
  totalScore : W
  totalGrade : W
deriving Repr

variable {W : Type}

/-- What a sheet keeps of a question of a model. -/
def SheetQuestion.ofQuestion (question : Question W) : SheetQuestion W where
  number := question.number
  slideId := question.slideId
  kind := question.kind.keyword
  correct := question.correct.map CorrectAnswer.shown
  weight := question.weight
  gradeWeight := question.gradeWeight
  voteWeight := question.voteWeight
  settings := question.settings
  retry := question.retry
  hints := question.hints
  digest := question.digest
  skip := question.skip

namespace SheetAttributes

def ofModel [Weight W] (model : FileModel W) : SheetAttributes W where
  file := model.file
  chapterId := model.chapterId
  questions := model.questions.map SheetQuestion.ofQuestion
  scores := model.ledger.scores
  grades := model.ledger.grades
  totalScore := model.totalScore
  totalGrade := model.totalGrade

end SheetAttributes

def QuestionSettings.encode (settings : QuestionSettings) : Json :=
  .object [("disabled", .bool settings.disabled),
    ("explain", .ofOption (fun explain => .string (Explain.word explain)) settings.explain),
    ("share", .ofOption (fun share => .string (Share.word share)) settings.share),
    ("team", .ofOption (fun team => .string (Team.word team)) settings.team),
    ("vote", .ofOption (fun vote => .string (Vote.word vote)) settings.vote),
    ("participation", .bool settings.participation)]

/-- Tries as a value. -/
def Retry.encode (retry : Retry) : Json :=
  .object [("count", .ofNat retry.count), ("delay", .ofNat retry.delay)]

/-- A skip as a value, given how a weight is written. -/
def Skip.encode (weight : W → Json) (skip : Skip W) : Json :=
  .object [("target_slide", .ofNat skip.targetSlide), ("slides_skipped", .ofNat skip.slidesSkipped),
    ("score_weight_skipped", weight skip.scoreWeight)]

/-- A question as a value, given how weights and penalties are written. -/
def SheetQuestion.encode (weight : W → Json) (penalty : Float → Json) (question : SheetQuestion W) :
    Json :=
  .object [("qnumber", .ofNat question.number), ("slide_id", .string question.slideId),
    ("qtype", .string question.kind), ("correct", .ofOption .string question.correct),
    ("weight", weight question.weight), ("gweight", .ofOption weight question.gradeWeight),
    ("vweight", weight question.voteWeight), ("options", question.settings.encode),
    ("retry", .ofOption Retry.encode question.retry), ("hints", .ofList penalty question.hints),
    ("digest", .string question.digest), ("skip", .ofOption (Skip.encode weight) question.skip)]

/-- What a sheet keeps of a file as a value, given how weights and penalties are written. -/
def SheetAttributes.encode (weight : W → Json) (penalty : Float → Json)
    (sheet : SheetAttributes W) : Json :=
  .object [("file", .string sheet.file), ("chapter_id", .string sheet.chapterId),
    ("questions", .ofList (SheetQuestion.encode weight penalty) sheet.questions),
    ("cum_score", .ofList weight sheet.scores), ("cum_grade", .ofList weight sheet.grades),
    ("total_score", weight sheet.totalScore), ("total_grade", weight sheet.totalGrade)]

end LectureDeck
