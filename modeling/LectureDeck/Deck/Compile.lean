import LectureDeck.Deck.Record
import LectureDeck.Pattern.Reader
import LectureDeck.Render.File

/-!
# Compiling a file

A source is rendered, which makes a model and a page of it, and a record is kept by which its slides
can be found again.
-/

namespace LectureDeck

open LectureDeck.Text

/-- What all files of a run share. -/
structure Environment where
  options : Options
  plugins : Plugins
  /-- The pattern of hidden headings that the options give. -/
  hide : Option Pattern
  highlight : Highlighter
  images : ImageSource

namespace Environment

variable {W : Type}

/-- A pattern of hidden headings. -/
def readHide (pattern : Option String) : Except (CompileError W) (Option Pattern) :=
  match pattern with
  | none => .ok none
  | some pattern =>
    match Pattern.read? pattern with
    | some reading => .ok (some reading)
    | none => .error (.hidePattern pattern)

/-- The environment that options and plugins give. -/
def ofOptions (options : Options) (plugins : Plugins) (highlight : Highlighter)
    (images : ImageSource) : Except (CompileError W) Environment := do
  return ⟨options, plugins, ← readHide options.hide, highlight, images⟩

end Environment

/-- The number at the end of an image's name before its first dot. -/
def imageNumber? (path : String) : Option Nat :=
  let name := ((fields '/' path.toList).getLast?).getD []
  let stem := ((fields '.' name).head?).getD []
  Decimal.readNatural? Json.wordBound (stem.reverse.takeWhile Char.isDigit).reverse

/-- A number for the next image: one more than the largest that an image has. It is a word, so that
after the last number come small ones again. -/
def nextImageNumber (images : List (List String)) : Nat :=
  match (images.flatten.filterMap imageNumber?).max? with
  | some number => (number + 1) % Json.wordBound
  | none => 1

/-- What compiling a file yields. -/
structure Compiled (W : Type) where
  name : String
  fileNumber : Nat
  /-- The options of the run with the defaults of the file. -/
  options : Options
  model : FileModel W
  /-- What the plugins put at the head of the page. -/
  heads : List String
  document : Document
  record : Record
  occurrences : List Occurrence
  warnings : List Warning
deriving Repr

namespace Compiled

variable {W : Type} [Weight W]

/-- The markup of a file: what its plugins put at the head, and its slides. -/
def page (compiled : Compiled W) : String :=
  String.join (compiled.heads.map (· ++ "\n")) ++ compiled.document.text

/-- What rendering a source depends on, given an environment: the options are those of the run with
the defaults of the header. -/
def findContext (environment : Environment) (fileNumber : Nat) (name : String) (source : Source) :
    Except (CompileError W) RenderContext := do
  let defaults := Defaults.parse (source.defaults.getD [])
  let fileHide ← Environment.readHide defaults.hide
  let outline ← (Outline.ofSource source.text).mapError CompileError.unread
  return {
    file := name, fileNumber := fileNumber
    options := environment.options.withDefaults defaults
    hide := fileHide.or environment.hide, plugins := environment.plugins
    highlight := environment.highlight, images := environment.images
    source := source.text, outline := outline }

/-- The record of a source with its outline and its slides. -/
def recordOf (source : Source) (outline : Outline) (slides : List Slide) : Record :=
  let images := slides.map Slide.images
  ⟨digest source.text, source.defaults.map String.ofList, outline.breaks, images,
    nextImageNumber images⟩

/-- What a file yields, given what rendering it yields. -/
def ofRendered (context : RenderContext) (source : Source) (rendered : Rendered W) :
    Compiled W where
  name := context.file
  fileNumber := context.fileNumber
  options := context.options
  model := rendered.model
  heads := rendered.heads
  document := rendered.document
  record := recordOf source context.outline rendered.model.slides
  occurrences := rendered.occurrences
  warnings := (Defaults.parse (source.defaults.getD [])).unknown.map (fun key =>
    ⟨context.file, none, .unknownDefault key⟩) ++ rendered.warnings

/-- What a source yields that is read already, with the defaults of its header. -/
def ofSource (environment : Environment) (fileNumber : Nat) (name : String) (source : Source) :
    Except (CompileError W) (Compiled W) := do
  let context ← findContext environment fileNumber name source
  return ofRendered context source (← render context)

end Compiled

/-- What a file yields, given its number in the run and its text. -/
def compile {W : Type} [Weight W] (environment : Environment) (fileNumber : Nat)
    (name text : String) : Except (CompileError W) (Compiled W) :=
  Compiled.ofSource environment fileNumber name (Source.ofText text.toList)

end LectureDeck
