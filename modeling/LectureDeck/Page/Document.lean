import LectureDeck.Text.Sorted

/-!
# Documents

The slides of a page as fragments of markup. The label of a reference that may be defined later
stands in a document as a pending fragment, and is put in when all references are known.
-/

namespace LectureDeck

/-- A part of a slide's markup. -/
inductive Fragment where
  | markup (content : String)
  /-- The label of a reference that is not known yet. -/
  | pending (id : String)
deriving DecidableEq, Repr

/-- The markup of a slide. -/
structure SlidePage where
  number : Nat
  id : String
  fragments : List Fragment
deriving DecidableEq, Repr

/-- The markup of a file. -/
structure Document where
  chapterId : String
  slides : List SlidePage
  /-- A rule stands between slides. -/
  rules : Bool
deriving DecidableEq, Repr

namespace Fragment

/-- What stands for a label that is not known. -/
def unknownLabel (id : String) : String := "(" ++ id ++ ")??"

/-- The reference whose label is pending. -/
def pending? : Fragment → Option String
  | markup _ => none
  | pending id => some id

def resolve (label : String → Option String) : Fragment → Fragment
  | markup content => markup content
  | pending id => markup ((label id).getD (unknownLabel id))

def text : Fragment → String
  | markup content => content
  | pending id => unknownLabel id

end Fragment

/-- The references whose labels are pending on a slide, in order. -/
def SlidePage.pending (slide : SlidePage) : List String :=
  slide.fragments.filterMap Fragment.pending?

def SlidePage.resolve (label : String → Option String) (slide : SlidePage) : SlidePage :=
  { slide with fragments := slide.fragments.map (Fragment.resolve label) }

def SlidePage.text (chapterId : String) (slide : SlidePage) : String :=
  "<div id=\"" ++ slide.id ++ "\" class=\"slidoc-slide " ++ chapterId ++ "-slide\">\n" ++
    String.join (slide.fragments.map Fragment.text) ++ "</div>\n"

namespace Document

/-- The references whose labels are pending, in ascending order. -/
def pending (document : Document) : List String :=
  Text.sortedSet (document.slides.flatMap SlidePage.pending)

def resolve (label : String → Option String) (document : Document) : Document :=
  { document with slides := document.slides.map (SlidePage.resolve label) }

/-- What stands between two slides. -/
def separator (document : Document) : String :=
  if document.rules then "<hr class=\"slidoc-noslide\">\n" else ""

def text (document : Document) : String :=
  "<div id=\"" ++ document.chapterId ++ "\" class=\"slidoc-container\">\n" ++
    String.intercalate document.separator
      (document.slides.map (SlidePage.text document.chapterId)) ++
    "</div>\n"

end Document

end LectureDeck
