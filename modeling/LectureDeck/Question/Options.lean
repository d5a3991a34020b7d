import LectureDeck.Deck.Fault
import LectureDeck.Question.Weight
import LectureDeck.Text.Blank

/-!
# Options of answers

What follows the semicolon of an answer: weights, tries, and how the question is run.

Options are words with space between them. Quotes keep space inside a word, and a backslash keeps
the next character as it is, except between single quotes.
-/

namespace LectureDeck.Words

/-- The last word of a text, if there is one, or the quote that is open at its end. -/
def finish (quote : Option Char) (word : Option (List Char)) : Except Char (List (List Char)) :=
  match quote with
  | some mark => .error mark
  | none => .ok (word.toList.map List.reverse)

/-- A backslash keeps the next character, unless a single quote is open. -/
def keepsNext (quote : Option Char) (c : Char) : Bool := c == '\\' && quote != some '\x27'

/-- The rest of the words of a text, given the quote that is open and the current word, its last
character first. An open quote at the end is an error. -/
def splitFrom (quote : Option Char) (word : Option (List Char)) :
    List Char → Except Char (List (List Char))
  | [] => finish quote word
  | c :: rest =>
    if quote = some c then splitFrom none word rest
    else if keepsNext quote c then
      match rest with
      | next :: more => splitFrom quote (some (next :: word.getD [])) more
      | [] => finish quote (some (word.getD []))
    else if quote.isSome then splitFrom quote (some (c :: word.getD [])) rest
    else if c = '"' || c = '\x27' then splitFrom (some c) (some (word.getD [])) rest
    else if Text.isBlank c then
      (splitFrom none none rest).map fun words => word.toList.map List.reverse ++ words
    else splitFrom none (some (c :: word.getD [])) rest

/-- The words of a text, or the quote that is open at its end. -/
def split (cs : List Char) : Except Char (List (List Char)) := splitFrom none none cs

end LectureDeck.Words

namespace LectureDeck

/-- The options of an answer. -/
structure AnswerOptions (W : Type) where
  weight : W
  gradeWeight : Option W
  voteWeight : W
  retry : Option Retry
  settings : QuestionSettings
deriving Repr

namespace AnswerOptions

variable {W : Type} [Weight W]

def initial : AnswerOptions W := ⟨Weight.one, none, Weight.zero, none, {}⟩

def invalid {α : Type} (option : List Char) (fault : OptionFault) : Except SlideFault α :=
  .error (.invalidOption (String.ofList option) fault)

/-- Numbers with commas between them. -/
def numbers {N : Type} (read : List Char → Option N) (option value : List Char) :
    Except SlideFault (List N) :=
  match ((Text.fields ',' value).map Text.trim).mapM read with
  | some numbers => .ok numbers
  | none => invalid option .numberExpected

/-- A word that says yes or no. -/
def yesNo (option value : List Char) : Except SlideFault Bool :=
  match String.ofList value with
  | "yes" => .ok true
  | "no" => .ok false
  | _ => invalid option .yesNoForm

/-- The weights for score, grade and vote, of which the later may be left out. -/
def withWeights (options : AnswerOptions W) (option value : List Char) :
    Except SlideFault (AnswerOptions W) := do
  let weights ← numbers Weight.read? option value
  if weights.all Weight.admissible then
    match weights with
    | [score] => .ok { options with weight := score }
    | [score, grade] => .ok { options with weight := score, gradeWeight := some grade }
    | [score, grade, vote] =>
      .ok { options with weight := score, gradeWeight := some grade, voteWeight := vote }
    | _ => invalid option .weightForm
  else invalid option .negativeWeight

/-- The number of tries and the time between them, which may be left out. -/
def withRetry (options : AnswerOptions W) (option value : List Char) :
    Except SlideFault (AnswerOptions W) := do
  match ← numbers (Decimal.readNatural? 4294967296) option value with
  | [count] => .ok { options with retry := some ⟨count, 0⟩ }
  | [count, delay] => .ok { options with retry := some ⟨count, delay⟩ }
  | _ => invalid option .retryForm

/-- The one of some things that a word names. -/
def named? {α : Type} (all : List α) (word : α → String) (value : List Char) : Option α :=
  all.find? fun a => word a == String.ofList value

/-- How explanations are given, by name. -/
def explain? : List Char → Option Explain := named? [.text, .markdown] Explain.word

/-- When answers are shared, by name. -/
def share? : List Char → Option Share :=
  named? [.afterAnswering, .afterGrading, .never] Share.word

/-- When votes are shown, by name. -/
def vote? : List Char → Option Vote := named? [.showCompleted, .showLive] Vote.word

/-- What a team does together, by name. -/
def team? : List Char → Option Team := named? [.response, .setup] Team.word

/-- A value that must have a reading. -/
def required {α : Type} (option : List Char) (fault : OptionFault) : Option α → Except SlideFault α
  | some a => .ok a
  | none => invalid option fault

/-- The name and the value of an option. A bare number is a weight. -/
def nameValue (option : List Char) : Except SlideFault (String × List Char) :=
  match Text.cut? '=' option with
  | some (name, value) => .ok (String.ofList (Text.trim name), Text.trim value)
  | none =>
    match option with
    | c :: _ =>
      if c.isDigit || c == '.' then .ok ("weight", option) else invalid option .nameExpected
    | [] => invalid option .nameExpected

/-- Options changed as one option says. -/
def apply (options : AnswerOptions W) (option : List Char) :
    Except SlideFault (AnswerOptions W) := do
  let (name, value) ← nameValue option
  let settings := options.settings
  match name with
  | "weight" => options.withWeights option value
  | "retry" => options.withRetry option value
  | "explain" =>
    let explain ← required option .explainForm (explain? value)
    .ok { options with settings := { settings with explain := some explain } }
  | "share" =>
    let share ← required option .shareForm (share? value)
    .ok { options with settings := { settings with share := some share } }
  | "vote" =>
    let vote ← required option .voteForm (vote? value)
    .ok { options with settings := { settings with vote := some vote } }
  | "team" =>
    let team ← required option .teamForm (team? value)
    .ok { options with settings := { settings with team := some team } }
  | "disabled" =>
    let disabled ← yesNo option value
    .ok { options with settings := { settings with disabled := disabled } }
  | "participation" =>
    let participation ← yesNo option value
    .ok { options with settings := { settings with participation := participation } }
  | _ => invalid option .unknownOption

/-- Options that agree with one another: votes need answers that are shared. -/
def checked (options : AnswerOptions W) : Except SlideFault (AnswerOptions W) :=
  if options.settings.vote.isSome && options.settings.share.isNone then
    .error (.invalidOption "vote" .voteWithoutShare)
  else .ok options

/-- The options that words give, in order. -/
def ofWords (words : List (List Char)) : Except SlideFault (AnswerOptions W) := do
  (← words.foldlM apply initial).checked

def parse (text : List Char) : Except SlideFault (AnswerOptions W) :=
  match Words.split text with
  | .ok words => ofWords words
  | .error quote => invalid text (.unterminated quote)

end AnswerOptions

end LectureDeck
