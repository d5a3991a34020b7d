/-!
# Inline tokens

The parts of running text: plain text, emphasis, code, mathematics, links, references and calls
to plugins.
-/

namespace LectureDeck

/-- A part of running text. -/
inductive Inline where
  | text (content : String)
  /-- `A..` at the start of a line presents a choice, and `A*..` one more version of it. -/
  | choice (letter : Char) (alternative : Bool)
  | displayMath (content : String)
  | inlineMath (content : String)
  /-- A call of a plugin's action with an argument. -/
  | call (plugin action argument : String)
  /-- A text that defines a reference under a key. -/
  | definition (text key : String)
  | link (text url : String) (title : Option String) (image : Bool)
  /-- A link whose target is looked up by key. -/
  | keyedLink (text key : String) (image : Bool)
  | autolink (url : String)
  | code (content : String)
  | escape (char : Char)
  /-- The content is markup of its own. -/
  | strong (content : String)
  /-- The content is markup of its own. -/
  | emphasis (content : String)
  | html (content : String)
  | lineBreak
deriving DecidableEq, Repr

/-- The text of a token that holds markup of its own. -/
def Inline.nested? : Inline → Option String
  | strong content => some content
  | emphasis content => some content
  | _ => none

end LectureDeck
