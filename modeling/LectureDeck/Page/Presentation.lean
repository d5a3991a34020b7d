import LectureDeck.Deck.Reading
import LectureDeck.Deck.Options
import LectureDeck.Page.Document
import LectureDeck.Text.Utf8

/-!
# Presentation

How pieces become markup. The options of presentation decide which regions are left out, which
numbers are shown, and where links lead; they decide nothing else.
-/

namespace LectureDeck

open LectureDeck.Text

/-- Marks up code given its language, where it can. -/
abbrev Highlighter : Type := (language : Option String) → (code : String) → Option String

/-- The media type of an image by the extension of its path. -/
def mediaType (path : String) : String :=
  match cut? '.' path.toList.reverse with
  | none => "application/octet-stream"
  | some (extension, _) =>
    match String.ofList (extension.reverse.map Char.toLower) with
    | "png" => "image/png"
    | "jpg" => "image/jpeg"
    | "jpeg" => "image/jpeg"
    | "gif" => "image/gif"
    | "svg" => "image/svg+xml"
    | "webp" => "image/webp"
    | _ => "application/octet-stream"

/-- An attribute, which is left out when it has no value. -/
def attribute? (name : String) : Option String → String
  | some value => " " ++ name ++ "=\"" ++ escapeAttribute value ++ "\""
  | none => ""

/-- The address of a concept in the index page. -/
def conceptAddress (options : Options) (tag : String) : String :=
  options.siteUrl ++ options.indexFile ++ "#" ++ conceptAnchor indexId tag

/-- A number before a heading, as far as it is shown. -/
def HeadingNumber.text (strip : Strip) : HeadingNumber → String
  | absent => ""
  | chapter file => if strip.chapters then "" else Decimal.naturalText file ++ ". "
  | «section» file ordinal =>
    if strip.sections then ""
    else Decimal.naturalText file ++ "." ++ Decimal.naturalText ordinal ++ " "

def ReferenceKind.word : ReferenceKind → String
  | plain => "plain"
  | counted => "counted"
  | chapterCounted => "chapter"

/-- A text in which no two dashes follow one another in a pair. -/
def spreadDashes : List Char → List Char
  | '-' :: '-' :: rest => '-' :: ' ' :: '-' :: spreadDashes rest
  | c :: rest => c :: spreadDashes rest
  | [] => []

def Element.opening (strip : Strip) : Element → String
  | paragraph => "<p>"
  | list ordered => if ordered then "<ol>\n" else "<ul>\n"
  | listItem => "<li>"
  | choices => "<blockquote class=\"slidoc-choice-question\">\n"
  | restatement => "<div class=\"slidoc-choice-question\">"
  | choice letter =>
    let letter := String.singleton letter
    "<div class=\"slidoc-choice-item\" data-choice=\"" ++ letter ++
      "\"><span class=\"slidoc-choice\">" ++ letter ++ "</span>. "
  | heading level id number =>
    let mark := (id.map fun id => " id=\"" ++ id ++ "\"").getD ""
    "<h" ++ Decimal.naturalText level ++ mark ++ ">" ++ number.text strip
  | discussion slideId => "<div id=\"" ++ slideId ++ "-discuss\" class=\"slidoc-discuss\">"
  | quote => "<blockquote>\n"
  | strong => "<strong>"
  | emphasis => "<em>"
  | labelLink id => "<a class=\"slidoc-ref-link\" href=\"#" ++ id ++ "\">"
  | region kind id =>
    "<!--slidoc-" ++ kind.name ++ "-block-begin[" ++ id ++ "]--><div id=\"" ++ id ++
      "\" class=\"slidoc-" ++ kind.name ++ " " ++ id ++ "\">\n"

def Element.closing : Element → String
  | paragraph => "</p>\n"
  | list ordered => if ordered then "</ol>\n" else "</ul>\n"
  | listItem => "</li>\n"
  | choices => "</blockquote>\n"
  | restatement => "</div>\n"
  | choice _ => "</div>\n"
  | heading level _ _ => "</h" ++ Decimal.naturalText level ++ ">\n"
  | discussion _ => "</div>\n"
  | quote => "</blockquote>\n"
  | strong => "</strong>"
  | emphasis => "</em>"
  | labelLink _ => "</a>"
  | region kind id => "</div><!--slidoc-" ++ kind.name ++ "-block-end[" ++ id ++ "]-->\n"

namespace Piece

/-- The markup of an anchor. Its label follows its text. -/
def anchorMarkup (id : String) (kind : ReferenceKind) (content label : String) : String :=
  let space := if content.isEmpty || label.isEmpty then "" else " "
  "<span id=\"" ++ id ++ "\" class=\"slidoc-ref slidoc-ref-" ++ kind.word ++ "\">" ++
    escape content ++ space ++ escape label ++ "</span>"

/-- The markup of an image. One whose bytes are known holds them. -/
def imageMarkup (path : String) (bytes : Option (List UInt8)) (alternative : String)
    (title : Option String) : String :=
  let source := match bytes with
    | some bytes => "data:" ++ mediaType path ++ ";base64," ++ String.ofList (base64 bytes)
    | none => path
  "<img src=\"" ++ escapeAttribute source ++ "\" alt=\"" ++ escapeAttribute alternative ++ "\"" ++
    attribute? "title" title ++ ">"

def tagLink (options : Options) (tag : String) : String :=
  "<a class=\"slidoc-concept\" href=\"" ++ conceptAddress options tag ++ "\">" ++
    escape tag ++ "</a>"

def conceptsMarkup (options : Options) (tags : List String) : String :=
  "<div class=\"slidoc-concepts\">Concepts: " ++
    String.intercalate "; " (tags.map (tagLink options)) ++ "</div>\n"

def answerMarkup (strip : Strip) (slideId keyword : String) (correct : Option CorrectAnswer) :
    String :=
  let value := match correct with
    | some correct =>
      if strip.answers then ""
      else " <span class=\"slidoc-answer-value\">" ++ escape correct.shown ++ "</span>"
    | none => ""
  "<div id=\"" ++ slideId ++ "-answer\" class=\"slidoc-answer\" data-qtype=\"" ++
    escapeAttribute keyword ++ "\">Answer:" ++ value ++ "</div>\n"

def codeMarkup (highlight : Highlighter) (language : Option String) (content : String) : String :=
  match highlight language content with
  | some markup => markup
  | none =>
    let mark := match language with
      | some language => " class=\"language-" ++ escapeAttribute language ++ "\""
      | none => ""
    "<pre><code" ++ mark ++ ">" ++ escape content ++ "</code></pre>\n"

def pluginMarkup (slideId name content : String) : String :=
  "<div id=\"" ++ slideId ++ "-plugin-" ++ name ++ "\" class=\"slidoc-plugin slidoc-plugin-" ++
    name ++ "\">\n" ++ content ++ "</div>\n"

def callMarkup (plugin action argument : String) : String :=
  "<code class=\"slidoc-inline-js\" data-slidoc-js-function=\"" ++ escapeAttribute plugin ++ "." ++
    escapeAttribute action ++ "\" data-slidoc-js-argument=\"" ++
    escapeAttribute argument ++ "\">" ++
    escape argument ++ "</code>"

/-- The markup of a piece. -/
def fragment (options : Options) (highlight : Highlighter) : Piece → Fragment
  | opening element => .markup (element.opening options.strip)
  | closing element => .markup element.closing
  | text content => .markup (escape content)
  | choiceMark letter alternative =>
    .markup (String.singleton letter ++ (if alternative then "*" else "") ++ ".. ")
  | spanMath content =>
    .markup ("<span class=\"slidoc-block-math\">$$" ++ escape content ++ "$$</span>")
  | inlineMath content =>
    .markup ("<span class=\"slidoc-inline-math\">\\(" ++ escape content ++ "\\)</span>")
  | call name action argument => .markup (callMarkup name action argument)
  | anchor id kind content ordinal => .markup (anchorMarkup id kind content ordinal)
  | conceptLink tag content =>
    .markup ("<a class=\"slidoc-concept-link\" href=\"" ++ conceptAddress options tag ++
      "\" target=\"_blank\">" ++ escape content ++ "</a>")
  | label id => .pending id
  | goto id content =>
    .markup ("<span class=\"slidoc-clickable slidoc-goto\" data-slidoc-goto=\"#" ++ id ++ "\">" ++
      escape content ++ "</span>")
  | hyperlink url content title =>
    .markup ("<a href=\"" ++ escapeAttribute url ++ "\"" ++ attribute? "title" title ++ ">" ++
      escape content ++ "</a>")
  | image path bytes alternative title => .markup (imageMarkup path bytes alternative title)
  | autolink url => .markup ("<a href=\"" ++ escapeAttribute url ++ "\">" ++ escape url ++ "</a>")
  | spanCode content => .markup ("<code>" ++ escape content ++ "</code>")
  | spanHtml content => .markup content
  | lineBreak => .markup "<br>\n"
  | blockMath content =>
    .markup ("<div class=\"slidoc-block-math\">$$" ++ escape content ++ "$$</div>\n")
  | environment name content =>
    .markup ("<div class=\"slidoc-latex slidoc-latex-" ++ escapeAttribute name ++ "\">" ++
      escape content ++ "</div>\n")
  | comment name content =>
    .markup ("<!--slidoc-" ++ name ++ " " ++ String.ofList (spreadDashes content.toList) ++ "-->\n")
  | concepts tags => .markup (conceptsMarkup options tags)
  | answer slideId keyword correct => .markup (answerMarkup options.strip slideId keyword correct)
  | minirule => .markup "<hr class=\"slidoc-minirule\">\n"
  | pause => .markup "<span class=\"slidoc-pause\"></span>\n"
  | rule => .markup "<hr>\n"
  | blockCode language content => .markup (codeMarkup highlight language content)
  | blockHtml content => .markup (content ++ "\n")
  | missingPlugin name arguments =>
    .markup ("<div class=\"slidoc-plugin-missing\">=" ++ escape name ++ "(" ++ escape arguments ++
      ")</div>\n")
  | plugin slideId name top body button =>
    .markup (pluginMarkup slideId name (top ++ body ++ button))

end Piece

/-- A region is left out. -/
def Strip.omits (strip : Strip) : Region → Bool
  | .hidden => strip.hidden
  | .notes => strip.notes
  | .hint => false
  | .extra => false

/-- A piece is left out wherever it stands. -/
def Strip.omitsPiece (strip : Strip) : Piece → Bool
  | .concepts _ => strip.concepts
  | _ => false

/-- An entry is in the page: it was not discarded, and neither it nor a region around it is left
out. -/
def Entry.isShown (strip : Strip) (entry : Entry) : Bool :=
  !entry.isDiscarded && !entry.regions.any strip.omits && !strip.omitsPiece entry.piece

namespace SlidePage

/-- The heading of a slide that has none. -/
def untitled (fileNumber number : Nat) : Fragment :=
  .markup ("<h3 class=\"slidoc-untitled\">Slide " ++ Decimal.naturalText fileNumber ++ "." ++
    Decimal.naturalText number ++ "</h3>\n")

/-- The page of a slide, given what the slide wrote. -/
def ofScript (options : Options) (highlight : Highlighter) (fileNumber : Nat) (slide : Slide)
    (script : List Entry) : SlidePage where
  number := slide.number
  id := slide.id
  fragments :=
    (if options.number && slide.header.isNone then [untitled fileNumber slide.number] else []) ++
      (script.filter (Entry.isShown options.strip)).map fun entry =>
        entry.piece.fragment options highlight

end SlidePage

namespace Document

variable {W : Type}

/-- The page of a file before labels are put in. -/
def ofAnalysis (options : Options) (highlight : Highlighter)
    (analysis : Analysis W) : Document where
  chapterId := analysis.model.chapterId
  slides := List.zipWith (SlidePage.ofScript options highlight analysis.model.fileNumber)
    analysis.model.slides analysis.scripts
  rules := !options.strip.rule

end Document

def FileModel.label? {W : Type} (model : FileModel W) (id : String) : Option String :=
  (model.references.find? fun reference => reference.id == id).map Reference.label

end LectureDeck
