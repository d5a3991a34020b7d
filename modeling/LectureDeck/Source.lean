import LectureDeck.Text.Line

/-!
# Sources

A source is read with plain line breaks and without its annotations, which are lines for the
author alone. Its first line may hold defaults for the options of the file.
-/

namespace LectureDeck

open LectureDeck.Text

/-- A source as it is read. -/
structure Source where
  text : List Char
  /-- What the defaults header of the source says, if it has one. -/
  defaults : Option (List Char)
deriving DecidableEq, Repr

namespace Source

/-- A text in which each line break is one newline character. -/
def plainBreaks : List Char → List Char
  | [] => []
  | '\r' :: '\n' :: rest => '\n' :: plainBreaks rest
  | c :: rest => (if c = '\r' then '\n' else c) :: plainBreaks rest

/-- A line is an annotation. -/
def isAuthorNote (line : List Char) : Bool :=
  ((indent? line).bind (literal? "Annotation:")).isSome

def headerEnd? (cs : List Char) : Option (List Char) := literal? "-->" (skipGap cs)

/-- What the defaults header at the start of a text says. -/
def defaultsHeader? (cs : List Char) : Option (List Char) := do
  let rest ← literal? "<!--slidoc-defaults" (trimStart cs)
  let (text, _) ← upTo? isLineBreak headerEnd? (← gap? rest)
  some text

def ofText (text : List Char) : Source :=
  let kept := ((lines (plainBreaks text)).filter fun line => !isAuthorNote line).flatten
  ⟨kept, defaultsHeader? kept⟩

end Source

end LectureDeck
