import LectureDeck.Pattern.Reader
import LectureDeck.Plugin.Registry
import LectureDeck.Question.Options
import LectureDeck.Text.Line

/-!
# Answers

An answer gives the kind of its question, the correct answer, and options after a semicolon. A
backslash keeps a semicolon in the answer.
-/

namespace LectureDeck

open LectureDeck.Text

/-- What an answer says of its question. -/
structure Answer (W : Type) where
  /-- The kind that the answer establishes, if it does. -/
  kind : Option QuestionKind
  correct : Option CorrectAnswer
  /-- The plugin that the slide must embed. -/
  requiredPlugin : Option String
  options : AnswerOptions W
deriving Repr

namespace Answer

/-- What an answer says before its options are read. -/
structure Statement where
  kind : Option QuestionKind := none
  correct : Option CorrectAnswer := none
  requiredPlugin : Option String := none
deriving Repr

/-- The text before the first semicolon that is not escaped, and what follows it. `escaped` tells
that a backslash stands before the text. -/
def cutUnescaped (escaped : Bool) : List Char → List Char × Option (List Char)
  | [] => ([], none)
  | c :: rest =>
    if c = ';' && !escaped then ([], some rest)
    else
      let part := cutUnescaped (c == '\\' && !escaped) rest
      (c :: part.1, part.2)

/-- A text with its escaped semicolons made plain. -/
def unescapeSemicolons : List Char → List Char
  | [] => []
  | '\\' :: ';' :: rest => ';' :: unescapeSemicolons rest
  | c :: rest => c :: unescapeSemicolons rest

def invalid {α : Type} (statement : List Char) (fault : AnswerFault) : Except SlideFault α :=
  .error (.invalidAnswer (String.ofList statement) fault)

/-- The argument of a plugin matches what the plugin asks for. -/
def checkArgument (statement : List Char) (pattern : Option String) (argument : String) :
    Except SlideFault Unit :=
  match pattern with
  | none => .ok ()
  | some pattern =>
    match Pattern.read? pattern with
    | none => invalid statement (.badPattern pattern)
    | some reading =>
      if reading.matches argument then .ok ()
      else invalid statement (.argumentMismatch argument pattern)

/-- A letter that can stand in an answer to a choice question. -/
def isAnswerLetter (c : Char) : Bool := ('A' ≤ c && c ≤ 'P') || ('a' ≤ c && c ≤ 'p')

/-- A text of letters of choices only. -/
def areLetters (cs : List Char) : Bool := !cs.isEmpty && cs.all isAnswerLetter

/-- A letter put into letters in ascending order. -/
def insertLetter (letter : Char) : List Char → List Char
  | [] => [letter]
  | first :: rest =>
    if letter < first then letter :: first :: rest
    else if letter = first then first :: rest
    else first :: insertLetter letter rest

/-- The letters of an answer as capitals, in ascending order without repetition. -/
def letters (cs : List Char) : List Char := cs.foldr (fun c set => insertLetter c.toUpper set) []

/-- Digits with at most one point among or before them, and perhaps a power of ten. -/
def unsigned? (cs : List Char) : Option (List Char × List Char) :=
  let whole := cs.takeWhile isDecimalDigit
  let rest := cs.dropWhile isDecimalDigit
  let (mantissa, rest) := match rest with
    | '.' :: after =>
      (whole ++ '.' :: after.takeWhile isDecimalDigit, after.dropWhile isDecimalDigit)
    | _ => (whole, rest)
  if whole.isEmpty && mantissa.length ≤ 1 then none
  else
    match rest with
    | c :: after =>
      if c = 'e' || c = 'E' then
        let (sign, digits) := match after with
          | '-' :: digits => (['-'], digits)
          | '+' :: digits => (['+'], digits)
          | _ => ([], after)
        match run? isDecimalDigit digits with
        | some (power, rest) => some (mantissa ++ c :: sign ++ power, rest)
        | none => some (mantissa, c :: after)
      else some (mantissa, c :: after)
    | [] => some (mantissa, [])

/-- A number with a sign, which may be left out. -/
def signed? (cs : List Char) : Option (List Char × List Char) :=
  match cs with
  | '-' :: rest => (unsigned? rest).map fun part => ('-' :: part.1, part.2)
  | '+' :: rest => (unsigned? rest).map fun part => ('+' :: part.1, part.2)
  | _ => unsigned? cs

/-- What stands between a number and its error. -/
def errorMark? (cs : List Char) : Option (List Char) :=
  match literal? "+/-" (skipGap cs) with
  | some rest => some (skipGap rest)
  | none => gap? cs

/-- The error of a number and whether it is a percentage, at the end of a text. -/
def errorPart? (cs : List Char) : Option (List Char × Bool) := do
  let (digits, rest) ← unsigned? (← errorMark? cs)
  match rest with
  | [] => some (digits, false)
  | ['%'] => some (digits, true)
  | _ => none

/-- A number with its error, if the text is one. -/
def number? (cs : List Char) : Except SlideFault (Option CorrectAnswer) :=
  match signed? cs with
  | none => .ok none
  | some (digits, rest) =>
    let error := errorPart? rest
    if !rest.isEmpty && error.isNone then .ok none
    else
      match Decimal.readFloat? digits, error with
      | none, _ => invalid cs .badNumber
      | some value, none => .ok (some (.number value 0.0))
      | some value, some (digits, percent) =>
        match Decimal.readFloat? digits with
        | none => invalid cs .badError
        | some error =>
          .ok (some (.number value (if percent then value.abs * error / 100.0 else error)))

/-- The correct answer that is given after the word for its kind. -/
def typedValue (statement : List Char) (kind : QuestionKind) (value : List Char) :
    Except SlideFault (Option CorrectAnswer) :=
  if value.isEmpty then .ok none
  else if kind.isChoice then
    if !areLetters value then invalid statement .lettersExpected
    else if 1 < (letters value).length && kind == .choice then invalid statement .oneLetterExpected
    else .ok (some (.choices (letters value)))
  else if kind == .number then do
    match ← number? value with
    | some number => .ok (some number)
    | none => invalid statement .numberExpected
  else .ok (some (.literal (String.ofList value)))

/-- A call of a plugin's action with an argument. -/
def pluginCall? (cs : List Char) : Option (String × String × String) := do
  let (name, rest) ← run? isWordChar (← literal? "=" cs)
  let (action, rest) ← run? isWordChar (← literal? "." rest)
  let rest ← literal? "(" rest
  let close := fun cs => (literal? ")" (skipGap cs)).bind fun rest =>
    if rest.isEmpty then some () else none
  let (argument, _) ← upTo? isLineBreak close (skipGap rest)
  some (String.ofList name, String.ofList action, String.ofList argument)

/-- A word and a value with an equals sign between them. -/
def typed? (cs : List Char) : Option (String × List Char) :=
  match cs with
  | c :: rest =>
    if c.isAlpha then
      let isKeyword := fun c => isWordChar c || c == '/' || c == '-'
      (literal? "=" (skipGap (rest.dropWhile isKeyword))).map fun value =>
        (String.ofList (c :: rest.takeWhile isKeyword), trim value)
    else none
  | [] => none

/-- A name, perhaps with an argument after a slash. -/
def pluginName? (cs : List Char) : Option (String × List Char) := do
  let (name, rest) ← run? isWordChar cs
  match rest with
  | [] => some (String.ofList name, [])
  | '/' :: argument =>
    if argument.contains '\n' then none else some (String.ofList name, trim argument)
  | _ => none

def statePluginCall (plugins : Plugins) (statement : List Char) (name action argument : String) :
    Except SlideFault Statement := do
  checkArgument statement ((plugins.get? name).bind Plugin.argumentPattern) argument
  .ok ⟨some (.plugin name ""), some (.plugin name action argument), some name⟩

/-- The statement of a value after a word, if the word names a kind or a plugin. -/
def stateTyped? (plugins : Plugins) (statement : List Char) :
    Except SlideFault (Option Statement) :=
  match typed? statement with
  | none => .ok none
  | some (keyword, value) =>
    match QuestionKind.ofKeyword? keyword with
    | some kind => (typedValue statement kind value).map fun correct =>
      some ⟨some kind, correct, none⟩
    | none =>
      if plugins.contains keyword then
        let correct :=
          if value.isEmpty then none else some (CorrectAnswer.literal (String.ofList value))
        .ok (some ⟨some (.plugin keyword ""), correct, some keyword⟩)
      else .ok none

/-- The statement of a plugin's name, if there is such a plugin. -/
def statePluginName? (plugins : Plugins) (statement : List Char) :
    Except SlideFault (Option Statement) :=
  match pluginName? statement with
  | none => .ok none
  | some (name, argument) =>
    match plugins.get? name with
    | none => .ok none
    | some plugin => do
      let argument := String.ofList argument
      checkArgument statement plugin.argumentPattern argument
      let correct := if argument.isEmpty then none
        else some (CorrectAnswer.plugin name "response" argument)
      .ok (some ⟨some (.plugin name argument), correct, some name⟩)

def stateLetters (statement : List Char) : Statement :=
  let letters := letters statement
  ⟨some (if 1 < letters.length then .multichoice else .choice), some (.choices letters), none⟩

/-- What the text of an answer states. A text that is nothing else is a literal answer. -/
def resolve (statement : List Char) (hasChoices : Bool) (plugins : Plugins) :
    Except SlideFault Statement :=
  if statement.isEmpty then .ok {}
  else
    match pluginCall? statement with
    | some (name, action, argument) => statePluginCall plugins statement name action argument
    | none => do
      if let some typed ← stateTyped? plugins statement then return typed
      if let some number ← number? statement then return ⟨some .number, some number, none⟩
      if let some kind := QuestionKind.ofKeyword? (String.ofList statement) then
        return ⟨some kind, none, none⟩
      if let some plugin ← statePluginName? plugins statement then return plugin
      if hasChoices && areLetters statement then return stateLetters statement
      return ⟨some .text, some (.literal (String.ofList statement)), none⟩

/-- The answer that a text gives on a slide, given whether choices stand before it. -/
def parse {W : Type} [Weight W] (text : String) (hasChoices : Bool) (plugins : Plugins) :
    Except SlideFault (Answer W) := do
  let (statement, options) := cutUnescaped false text.toList
  let options ← AnswerOptions.parse (options.getD [])
  let stated ← resolve (unescapeSemicolons (trim statement)) hasChoices plugins
  return ⟨stated.kind, stated.correct, stated.requiredPlugin, options⟩

end Answer

end LectureDeck
