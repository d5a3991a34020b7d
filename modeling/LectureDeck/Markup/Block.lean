/-!
# Block tokens

The parts of a source that stand on lines of their own: paragraphs, headings, code, lists, and the
directives that make questions, hints and notes of them.
-/

namespace LectureDeck

/-- A part of a source that stands on lines of its own. -/
inductive Block where
  /-- A paragraph of running text. -/
  | text (content : String)
  | heading (level : Nat) (content : String)
  | displayMath (content : String)
  | environment (name content : String)
  | pluginDefinition (name content : String)
  | pluginEmbed (name arguments : String)
  /-- A comment that tells something of the file. -/
  | metadata (name content : String)
  | answer (content : String)
  | discuss (content : String)
  | tags (content : String)
  /-- The penalty is in percent. -/
  | hint (penalty : Option Float)
  | notes
  | extra
  | minirule
  | pause
  /-- A rule, which ends a slide. -/
  | rule
  | listItem (ordered : Bool) (content : String)
  | code (language : Option String) (content : String)
  | quoteStart
  | quoteEnd
  | html (content : String)
deriving Repr

/-- The target of a link that is given by key. -/
structure LinkTarget where
  url : String
  title : Option String
deriving DecidableEq, Repr

end LectureDeck
