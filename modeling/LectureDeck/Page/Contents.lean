import LectureDeck.Concept.Subquestion
import LectureDeck.Concept.View
import LectureDeck.Deck.Run
import LectureDeck.Text.Entity

/-!
# Indexes, contents and cross-references

The markup of concept indexes and of the list of sub-questions, and the pages of a run as a whole:
one lists the files with their sections, the other tells where each concept comes first, what each
file covers, and what there is to warn of.
-/

namespace LectureDeck

open LectureDeck.Text

/-- A text, or another when it is empty. -/
def orElse (text other : String) : String := if text.isEmpty then other else text

/-- The link of an index to a slide. Slides about the concept stand out. -/
def IndexLink.markup (site : String) (link : IndexLink) : String :=
  let header := escape (orElse link.place.header "slide")
  "<a href=\"" ++ site ++ link.file ++ ".html" ++ link.query.getD "" ++ "#" ++ link.place.slideId ++
    "\" target=\"_blank\">" ++
    (if link.primary then "<b>" ++ header ++ "</b>" else header) ++ "</a>"

namespace IndexEntry

def letterLink (indexId : String) (letter : Char) : String :=
  let letter := String.singleton letter
  "<a href=\"#" ++ indexId ++ "-letter-" ++ letter ++ "\">" ++ letter ++ "</a>"

/-- What stands before an entry: the beginning of a group after the end of the one before, or
space between families of tags. -/
def opening (indexId : String) (isFirst : Bool) (entry : IndexEntry) : String :=
  match entry.letter with
  | some letter =>
    let letter := String.singleton letter
    (if isFirst then "" else "</ul>\n") ++ "<b id=\"" ++ indexId ++ "-letter-" ++ letter ++ "\">" ++
      letter ++ "</b>\n<ul class=\"slidoc-index-list\">\n"
  | none => if entry.isSpaced then "<li class=\"slidoc-index-spacer\">&nbsp;</li>\n" else ""

def line (site : String) (entry : IndexEntry) : String :=
  "<li id=\"" ++ entry.id ++ "\"><b>" ++ escape entry.label ++ "</b>: " ++
    String.intercalate ", " (entry.links.map (IndexLink.markup site)) ++ "</li>\n"

end IndexEntry

def IndexView.markup (site : String) (view : IndexView) : String :=
  "<div id=\"" ++ view.indexId ++ "\" class=\"slidoc-index\">\n<b>INDEX</b><blockquote>\n" ++
    String.intercalate "&nbsp;&nbsp;" (view.letters.map (IndexEntry.letterLink view.indexId)) ++
    "\n</blockquote>\n" ++
    String.join (view.entries.mapIdx fun position entry =>
      entry.opening view.indexId (position == 0) ++ entry.line site) ++
    (if view.entries.isEmpty then "" else "</ul>\n") ++ "</div>\n"

def TaggedQuestion.link (site : String) (question : TaggedQuestion) : String :=
  "<a href=\"" ++ site ++ question.file ++ ".html#" ++ question.slideId ++
    "\" target=\"_blank\">" ++
    escape question.file ++ ".Q" ++ Decimal.naturalText question.number ++ ": " ++
    escape (orElse question.header "question") ++ "</a>"

/-- The line of a question with its related questions. -/
def SubquestionEntry.line (site : String) (entry : SubquestionEntry) : String :=
  let related := entry.related.map fun (mark, question) =>
    question.link site ++ "<sup>" ++ mark ++ "</sup>"
  "<li><b>" ++ entry.question.link site ++ "</b>: " ++ String.intercalate ", " related ++ "</li>\n"

/-- The markup of the list of sub-questions. -/
def SubquestionReport.markup (site : String) (report : SubquestionReport) : String :=
  "<p><b>CONCEPT SUB-QUESTIONS</b><br>Sub-questions address a subset of the original question's " ++
    "concepts. (*) marks a variant covering the same concepts; a number gives how many concepts " ++
    "are shared.</p>\n<ul class=\"slidoc-subquestions\" style=\"list-style-type: none;\">\n" ++
    String.join (report.entries.map (SubquestionEntry.line site)) ++ "</ul>\n"

end LectureDeck

namespace LectureDeck.Run

open LectureDeck.Text

variable {W : Type}

/-- The beginning of a list, which has no marks when it is not numbered. -/
def listOpening (numbered : Bool) : String :=
  if numbered then "<ol>\n" else "<ul style=\"list-style-type: none;\">\n"

/-- The end of a list. -/
def listClosing (numbered : Bool) : String := if numbered then "</ol>\n" else "</ul>\n"

/-- The link to the concept index, if there are concepts. -/
def indexLink (options : Options) (index : IndexView) : String :=
  if index.entries.isEmpty then ""
  else "<a href=\"" ++ options.siteUrl ++ options.indexFile ++ "#" ++ index.indexId ++
    "\">INDEX</a><p></p>\n"

/-- The line of a file with the list of its sections. -/
def contentsLine (site : String) (numbered : Bool) (file : Compiled W) : String :=
  let url := site ++ file.name ++ ".html"
  "<li><a href=\"" ++ url ++ "#" ++ file.model.chapterId ++ "\"><b>" ++
    escape (file.model.header.getD file.name) ++ "</b></a>\n" ++ file.model.contents url numbered ++
    "</li>\n"

def contents (options : Options) (run : Run W) : String :=
  let numbered := !options.strip.sections
  "<div class=\"slidoc-toc-container\">\n" ++ indexLink options run.concepts ++
    listOpening numbered ++
    String.join (run.files.map (contentsLine options.siteUrl numbered)) ++
    listClosing numbered ++ "</div>\n"

/-- A link to a slide of a file that opens beside the page. -/
def slideLink (site file slideId text : String) : String :=
  "<a href=\"" ++ site ++ file ++ ".html#" ++ slideId ++ "\" target=\"_blank\">" ++ escape text ++
    "</a>"

/-- The line of a concept with the files that mention it. -/
def conceptLine (site : String) (concept : String × List IndexLink) : String :=
  let links := concept.2.map fun link => slideLink site link.file link.place.slideId link.file
  escape concept.1 ++ ": " ++ String.intercalate ", " links ++ "<br>\n"

/-- The line of a file with the concepts that its slides are about, if there are any. -/
def coverageLine (site : String) (view : IndexView) (file : Compiled W) : String :=
  match view.covered.lookup file.name with
  | none => ""
  | some covered =>
    let links := covered.map fun (tag, place) => slideLink site file.name place.slideId tag
    escape file.name ++ ": " ++ String.intercalate "; " links ++ "<br>\n"

/-- The warnings of a run, if there are any. -/
def warningList (warnings : List Warning) : String :=
  if warnings.isEmpty then ""
  else "<pre>\n" ++ String.join (warnings.map fun warning => escape warning.message ++ "\n") ++
    "</pre>\n"

def crossReferences (options : Options) (run : Run W) : String :=
  let site := options.siteUrl
  "<a href=\"" ++ site ++ options.contentsFile ++ "\">BACK TO CONTENTS</a><p></p>\n" ++
    "<h3>Concepts cross-reference</h3><p></p>\n<b>Concepts -> files mapping:</b><br>\n" ++
    String.join (run.concepts.firstLinks.map (conceptLine site)) ++
    "<p></p><b>Primary concepts covered in each file:</b><br>\n" ++
    String.join (run.files.map (coverageLine site run.concepts)) ++
    warningList run.warnings ++ run.subquestions.markup site

end LectureDeck.Run
