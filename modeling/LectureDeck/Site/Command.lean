import LectureDeck.Decimal.Reader
import LectureDeck.Json.Value
import LectureDeck.Site.Config
import LectureDeck.Site.Report

/-!
# Commands

What the words of a command line ask for: to build a site, or to verify a source against its
record.
-/

namespace LectureDeck.Site

/-- What building a site is told. -/
structure BuildCommand where
  paths : List String := []
  config : Option String := none
  target : Option String := none
  form : ReportForm := .terminal
  verbose : Bool := false
  /-- The files below the working directory are listed on the standard input. -/
  filesListed : Bool := false
deriving Repr

/-- What a command line asks for. -/
inductive Command where
  | help
  | build (command : BuildCommand)
  | verify (source record : String) (range : Option (Nat × Nat))
deriving Repr

namespace Command

/-- How the program is used. -/
def usage : String :=
  "usage: [-c CONFIG] [-o DIRECTORY] [-f text|json] [-v] [-l] FILE_OR_DIRECTORY...\n" ++
    "       verify SOURCE RECORD [FIRST [LAST]]\n\n" ++
    "Paths lead from the working directory. With -l the files below it are listed on the " ++
    "standard\ninput, one a line, so that directories can be named.\n"

/-- What is said of a form of reports that there is not. -/
def unknownForm (word : String) : String :=
  "Unknown format '" ++ word ++ "' (expected text or json)"

/-- The change that a word makes alone. -/
def flag? (word : String) (command : BuildCommand) : Option BuildCommand :=
  match word with
  | "-v" => some { command with verbose := true }
  | "--verbose" => some { command with verbose := true }
  | "-l" => some { command with filesListed := true }
  | "--listed" => some { command with filesListed := true }
  | _ => none

/-- The change that a word makes with the word after it. -/
def setting? (word value : String) (command : BuildCommand) :
    Option (Except String BuildCommand) :=
  let form := match ReportForm.ofWord? value with
    | some form => .ok { command with form := form }
    | none => .error (unknownForm value)
  match word with
  | "-c" => some (.ok { command with config := some value })
  | "--config" => some (.ok { command with config := some value })
  | "-o" => some (.ok { command with target := some value })
  | "--out-dir" => some (.ok { command with target := some value })
  | "-f" => some form
  | "--format" => some form
  | _ => none

/-- The change that a path makes. Nothing that begins with a dash is a path. -/
def addPath (word : String) (command : BuildCommand) : Except String BuildCommand :=
  if ['-'].isPrefixOf word.toList then .error usage
  else .ok { command with paths := command.paths ++ [word] }

/-- A build told more by the words of a command line. -/
def addWords (command : BuildCommand) : List String → Except String BuildCommand
  | [] => .ok command
  | word :: rest =>
    match flag? word command with
    | some command => addWords command rest
    | none =>
      match rest with
      | [] => addPath word command
      | value :: more =>
        match setting? word value command with
        | some (.ok command) => addWords command more
        | some (.error message) => .error message
        | none =>
          match addPath word command with
          | .ok command => addWords command (value :: more)
          | .error message => .error message

def slideNumber (word : String) : Except String Nat :=
  match Decimal.readNatural? Json.wordBound word.toList with
  | some number => .ok number
  | none => .error usage

/-- What the words of a command line ask for, or what is said of them. -/
def parse (words : List String) : Except String Command :=
  match words with
  | [] => .ok .help
  | ["-h"] => .ok .help
  | ["--help"] => .ok .help
  | ["verify", source, record] => .ok (.verify source record none)
  | ["verify", source, record, number] => do
    let number ← slideNumber number
    return .verify source record (some (number, number))
  | ["verify", source, record, first, last] => do
    return .verify source record (some (← slideNumber first, ← slideNumber last))
  | "verify" :: _ => .error usage
  | words => do return .build (← addWords {} words)

/-- The files that a build reads besides those that are listed for it. -/
def filesOf (command : BuildCommand) : List String :=
  command.config.getD Config.defaultPath :: command.paths

end Command

end LectureDeck.Site
