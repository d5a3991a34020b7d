import LectureDeck.Question.Kind

/-!
# Faults in slides

What can be wrong with a slide, and what is said of it. Each fault names its cause; the words are
in one place.
-/

namespace LectureDeck

/-- Parts of a slide that can be shown or left out as a whole. -/
inductive Region where
  | hidden
  | notes
  | hint
  | extra
deriving DecidableEq, Repr

def Region.name : Region → String
  | hidden => "hidden"
  | notes => "notes"
  | hint => "hint"
  | extra => "extra"

/-- Why an answer is invalid. -/
inductive AnswerFault where
  | badNumber
  | badError
  | badPattern (pattern : String)
  | argumentMismatch (argument pattern : String)
  | lettersExpected
  | oneLetterExpected
  | numberExpected
  | nothingPresented
  | notPresented (letter : Char)
deriving DecidableEq, Repr

/-- What is said of an invalid answer. -/
def AnswerFault.message : AnswerFault → String
  | badNumber => "bad number"
  | badError => "bad error"
  | badPattern pattern => "bad plugin argument pattern '" ++ pattern ++ "'"
  | argumentMismatch argument pattern =>
    "argument '" ++ argument ++ "' does not match '" ++ pattern ++ "'"
  | lettersExpected => "expected choice letters"
  | oneLetterExpected => "more than one correct choice requires multichoice"
  | numberExpected => "expected a number"
  | nothingPresented => "no choices presented"
  | notPresented letter => "choice '" ++ String.singleton letter ++ "' was not presented"

/-- Why an option of an answer is invalid. -/
inductive OptionFault where
  | unterminated (quote : Char)
  | nameExpected
  | numberExpected
  | negativeWeight
  | weightForm
  | retryForm
  | explainForm
  | shareForm
  | voteForm
  | teamForm
  | yesNoForm
  | unknownOption
  | voteWithoutShare
deriving DecidableEq, Repr

/-- What is said of an invalid option. -/
def OptionFault.message : OptionFault → String
  | unterminated quote => "unterminated " ++ String.singleton quote ++ " quote"
  | nameExpected => "expected name=value"
  | numberExpected => "expected a number"
  | negativeWeight => "weights must be non-negative"
  | weightForm => "expected weight=s[,g[,v]]"
  | retryForm => "expected retry=count[,delay]"
  | explainForm => "expected text or markdown"
  | shareForm => "expected after_answering, after_grading or never"
  | voteForm => "expected show_completed or show_live"
  | teamForm => "expected response or setup"
  | yesNoForm => "expected yes or no"
  | unknownOption => "unknown option"
  | voteWithoutShare => "vote requires share"

/-- What is wrong with a slide. -/
inductive SlideFault where
  | choiceOutOfSequence (expected found : Char)
  | alternativeChoice (letter : Char)
  | choiceTypeConflict (letter : Char) (kind : QuestionKind)
  | invalidAnswer (text : String) (fault : AnswerFault)
  | answerTypeConflict (expected found : QuestionKind)
  | invalidOption (option : String) (fault : OptionFault)
  | duplicateTags
  | regionAlreadyOpen (region : Region)
  | duplicatePlugin (plugin : String)
  | missingPlugin (plugin : String)
deriving DecidableEq, Repr

def SlideFault.message : SlideFault → String
  | choiceOutOfSequence expected found =>
    "choice '" ++ String.singleton found ++ "' out of sequence (expected '" ++
      String.singleton expected ++ "')"
  | alternativeChoice letter =>
    "alternative choice '" ++ String.singleton letter ++ "*' requires the multiplicity feature"
  | choiceTypeConflict letter kind =>
    "choice '" ++ String.singleton letter ++ "..' in a question of type '" ++ kind.keyword ++ "'"
  | invalidAnswer text fault => "invalid answer '" ++ text ++ "': " ++ fault.message
  | answerTypeConflict expected found =>
    "answer type '" ++ found.keyword ++ "' conflicts with question type '" ++
    expected.keyword ++ "'"
  | invalidOption option fault =>
    "invalid answer option '" ++ option ++ "': " ++ fault.message
  | duplicateTags => "duplicate Tags: line"
  | regionAlreadyOpen region => region.name ++ " block opened while one is already open"
  | duplicatePlugin plugin => "plugin '" ++ plugin ++ "' embedded twice in one slide"
  | missingPlugin plugin =>
    "answer is bound to plugin '" ++ plugin ++ "' but the slide does not embed it"

end LectureDeck
