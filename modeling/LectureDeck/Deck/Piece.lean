import LectureDeck.Deck.Fault
import LectureDeck.Reference.Table

/-!
# Pieces of pages

What reading a slide writes, before it is decided how the page is presented. A piece is a leaf, or
the opening or the closing of an element. Each entry of a script remembers the regions in which its
piece was written, so that regions can be left out later.
-/

namespace LectureDeck

/-- What stands before a heading. -/
inductive HeadingNumber where
  | absent
  | chapter (file : Nat)
  | section (file ordinal : Nat)
deriving DecidableEq, Repr

/-- A part of a page with an opening and a closing. -/
inductive Element where
  | paragraph
  | list (ordered : Bool)
  | listItem
  /-- The choices of a question together. -/
  | choices
  /-- A restatement of the question among the choices. -/
  | restatement
  | choice (letter : Char)
  | heading (level : Nat) (id : Option String) (number : HeadingNumber)
  | discussion (slideId : String)
  | quote
  | strong
  | emphasis
  /-- A link to a reference that shows its label. -/
  | labelLink (id : String)
  | region (region : Region) (id : String)
deriving DecidableEq, Repr

/-- A piece of a page. -/
inductive Piece where
  | opening (element : Element)
  | closing (element : Element)
  | text (content : String)
  /-- A marker of a choice that presents none, because it stands inside other text. -/
  | choiceMark (letter : Char) (alternative : Bool)
  | spanMath (content : String)
  | inlineMath (content : String)
  | call (plugin action argument : String)
  | anchor (id : String) (kind : ReferenceKind) (content label : String)
  | conceptLink (tag content : String)
  /-- The label of a reference, which may be defined only later. -/
  | label (id : String)
  | goto (id content : String)
  | hyperlink (url content : String) (title : Option String)
  /-- An image by path, or with its bytes in the page. -/
  | image (path : String) (bytes : Option (List UInt8)) (alternative : String)
    (title : Option String)
  | autolink (url : String)
  | spanCode (content : String)
  | spanHtml (content : String)
  | lineBreak
  | blockMath (content : String)
  | environment (name content : String)
  | comment (name content : String)
  | concepts (tags : List String)
  | answer (slideId keyword : String) (correct : Option CorrectAnswer)
  | minirule
  | pause
  | rule
  | blockCode (language : Option String) (content : String)
  | blockHtml (content : String)
  | missingPlugin (name arguments : String)
  | plugin (slideId name top body button : String)
deriving Repr

/-- A piece with the regions in which it was written, the innermost first. -/
structure Entry where
  piece : Piece
  regions : List Region
  /-- The piece is in no page. -/
  isDiscarded : Bool
deriving Repr

end LectureDeck
