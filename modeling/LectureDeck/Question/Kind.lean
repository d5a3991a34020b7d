import LectureDeck.Decimal.Layout

/-!
# Kinds of questions and correct answers

How a question is answered, what its correct answer is, and how it is run.
-/

namespace LectureDeck

/-- How a question is answered. -/
inductive QuestionKind where
  | choice
  | multichoice
  | number
  | text
  | plainText
  | codeText
  /-- A plugin collects the answer. -/
  | plugin (name arguments : String)
deriving DecidableEq, Repr

namespace QuestionKind

def ofKeyword? (word : String) : Option QuestionKind :=
  match word with
  | "choice" => some choice
  | "multichoice" => some multichoice
  | "number" => some number
  | "text" => some text
  | "markdown" => some text
  | "text/plain" => some plainText
  | "text/code" => some codeText
  | "text/x-code" => some codeText
  | _ => none

/-- The word for a kind. -/
def keyword : QuestionKind → String
  | choice => "choice"
  | multichoice => "multichoice"
  | number => "number"
  | text => "text"
  | plainText => "text/plain"
  | codeText => "text/code"
  | plugin name arguments => if arguments.isEmpty then name else name ++ "/" ++ arguments

/-- The answer is one or more of the choices presented. -/
def isChoice : QuestionKind → Bool
  | choice => true
  | multichoice => true
  | _ => false

end QuestionKind

/-- The correct answer of a question. -/
inductive CorrectAnswer where
  | literal (value : String)
  /-- A number and how far an answer may be from it. -/
  | number (value error : Float)
  /-- Letters of choices, in ascending order without repetition. -/
  | choices (letters : List Char)
  /-- A plugin decides by an action. -/
  | plugin (name action argument : String)
deriving Repr

def CorrectAnswer.shown : CorrectAnswer → String
  | literal value => value
  | number value error =>
    if error == 0.0 then Decimal.text value else Decimal.text value ++ "+/-" ++ Decimal.text error
  | choices letters => String.ofList letters
  | plugin name action argument => "=" ++ name ++ "." ++ action ++ "(" ++ argument ++ ")"

/-- How an explanation is given. -/
inductive Explain where
  | text
  | markdown
deriving DecidableEq, Repr

/-- The word for a way to give explanations. -/
def Explain.word : Explain → String
  | text => "text"
  | markdown => "markdown"

/-- When answers are shared. -/
inductive Share where
  | afterAnswering
  | afterGrading
  | never
deriving DecidableEq, Repr

/-- The word for a time to share answers. -/
def Share.word : Share → String
  | afterAnswering => "after_answering"
  | afterGrading => "after_grading"
  | never => "never"

/-- When votes are shown. -/
inductive Vote where
  | showCompleted
  | showLive
deriving DecidableEq, Repr

/-- The word for a time to show votes. -/
def Vote.word : Vote → String
  | showCompleted => "show_completed"
  | showLive => "show_live"

/-- What a team does together. -/
inductive Team where
  | response
  | setup
deriving DecidableEq, Repr

/-- The word for a part of a team's work. -/
def Team.word : Team → String
  | response => "response"
  | setup => "setup"

/-- How a question is run. -/
structure QuestionSettings where
  disabled : Bool := false
  explain : Option Explain := none
  share : Option Share := none
  team : Option Team := none
  vote : Option Vote := none
  participation : Bool := false
deriving DecidableEq, Repr

/-- How often a question may be tried again, and after what time. -/
structure Retry where
  count : Nat
  delay : Nat
deriving DecidableEq, Repr

end LectureDeck
