import LectureDeck.Deck.Error
import LectureDeck.Deck.Record

/-!
# Errors of a site

Why a site is not built or a source not verified. An error has a chain of causes, of which the
innermost may be one that the surroundings of the program give.
-/

namespace LectureDeck.Site

/-- Why a site is not built, or a source not verified. -/
inductive Error where
  | missingConfig (path : String)
  | unreadableConfig (path : String)
  | invalidConfig (path : String)
  /-- A path that leads neither to a source nor to a directory. -/
  | notSource (path : String)
  | unreadableSource (path : String)
  | noSources
  | invalidOptions (error : CompileError Float)
  | compile (error : CompileError Float)
  | directoryNotMade (path : String)
  | notWritten (path : String)
  | unreadable (path : String)
  | invalidRecord (path : String)
  | mismatch (path : String) (found : Mismatch)
  | outOfRange (found : Mismatch)
deriving Repr

/-- A cause in the chain of an error. -/
inductive Cause where
  | said (text : String)
  /-- The file system refused. -/
  | system
  /-- A text is no data value of the form asked for. -/
  | data
  /-- A pattern cannot be read. -/
  | pattern
deriving DecidableEq, Repr

def Cause.text : Cause → String
  | said text => text
  | system => "the file system refused"
  | data => "the data do not have the form asked for"
  | pattern => "the pattern cannot be read"

/-- What is said when there is no configuration. -/
def missingConfigText (path : String) : String :=
  "Config file not found at " ++ path ++
    "\n\nCreate a config file with your compile options:\n\n\x7b\n" ++
    "  \"options\": \x7b \"strip\": [\"notes\"], \"number\": true \x7d,\n" ++
    "  \"out_dir\": \"slides\",\n  \"plugins\": \x7b\x7d\n\x7d"

def compileCauses (error : CompileError Float) : List Cause :=
  match error with
  | .hidePattern _ => [.said error.message, .pattern]
  | _ => [.said error.message]

/-- The causes of an error, the outermost first. -/
def Error.causes : Error → List Cause
  | missingConfig path => [.said (missingConfigText path)]
  | unreadableConfig path => [.said ("Failed to read config file: " ++ path), .system]
  | invalidConfig path => [.said ("Failed to parse config file: " ++ path), .data]
  | notSource path => [.said (path ++ " is not a markdown file or directory")]
  | unreadableSource path => [.said ("failed to read " ++ path), .system]
  | noSources => [.said "No markdown files found. Usage: slidoc [--config PATH] FILE_OR_DIR..."]
  | invalidOptions error => .said "Invalid compile options" :: compileCauses error
  | compile error => compileCauses error
  | directoryNotMade path => [.said ("Failed to create " ++ path), .system]
  | notWritten path => [.said ("Failed to write " ++ path), .system]
  | unreadable path => [.said ("Failed to read " ++ path), .system]
  | invalidRecord path => [.said ("Failed to parse record " ++ path), .data]
  | mismatch path found =>
    .said (path ++ " does not match its record") :: found.messages.map Cause.said
  | outOfRange found => found.messages.map Cause.said

end LectureDeck.Site
