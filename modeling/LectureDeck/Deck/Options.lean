import LectureDeck.Json.Value
import LectureDeck.Text.Blank

/-!
# Options

What a run leaves out, numbers and links to, and the overrides that the header of a file gives.
-/

namespace LectureDeck

/-- What is left out of pages. -/
structure Strip where
  answers : Bool := false
  /-- The number of the file before its first heading. -/
  chapters : Bool := false
  concepts : Bool := false
  hidden : Bool := false
  notes : Bool := false
  /-- The rule between slides. -/
  rule : Bool := false
  /-- The numbers of sections. -/
  sections : Bool := false
deriving DecidableEq, Repr

/-- Parts of the markup that are off unless asked for. -/
structure Features where
  /-- Choices may have more than one version. -/
  multiplicity : Bool := false
  /-- Concepts need not be covered before they are asked for. -/
  assessment : Bool := false
deriving DecidableEq, Repr

/-- The options of a run. -/
structure Options where
  /-- A pattern of headings whose slides begin hidden. -/
  hide : Option String := none
  strip : Strip := {}
  /-- Slides without a heading get a number. -/
  number : Bool := false
  /-- Stands before links to other pages. -/
  siteUrl : String := ""
  indexFile : String := "ind.html"
  questionIndexFile : String := "qind.html"
  contentsFile : String := "toc.html"
  crossReferenceFile : String := "xref.html"
  features : Features := {}
  /-- Images that are found become part of the page. -/
  embedImages : Bool := false
deriving DecidableEq, Repr

namespace Strip

/-- The names of what is left out, in a fixed order. -/
def names (strip : Strip) : List String :=
  [("answers", strip.answers), ("chapters", strip.chapters), ("concepts", strip.concepts),
    ("hidden", strip.hidden), ("notes", strip.notes), ("rule", strip.rule),
    ("sections", strip.sections)].filterMap fun (name, isSet) => if isSet then some name else none

/-- One more thing that is left out, by name. -/
def with? (strip : Strip) (name : String) : Option Strip :=
  match name with
  | "answers" => some { strip with answers := true }
  | "chapters" => some { strip with chapters := true }
  | "concepts" => some { strip with concepts := true }
  | "hidden" => some { strip with hidden := true }
  | "notes" => some { strip with notes := true }
  | "rule" => some { strip with rule := true }
  | "sections" => some { strip with sections := true }
  | _ => none

end Strip

namespace Features

/-- The names of the features that are on, in a fixed order. -/
def names (features : Features) : List String :=
  [("multiplicity", features.multiplicity), ("assessment", features.assessment)].filterMap
    fun (name, isSet) => if isSet then some name else none

/-- One more feature, by name. -/
def with? (features : Features) (name : String) : Option Features :=
  match name with
  | "multiplicity" => some { features with multiplicity := true }
  | "assessment" => some { features with assessment := true }
  | _ => none

end Features

/-- The word that a value gives, alone or with nothing attached to it. -/
def Json.word? : Json → Option String
  | .string word => some word
  | .object [(word, .null)] => some word
  | _ => none

/-- What a field holds, or its initial value when it is left out. -/
def Json.fieldOr? {α : Type} (initial : α) (decode : Json → Option α) : Option Json → Option α
  | some value => decode value
  | none => some initial

/-- What a list of words adds up to. -/
def Json.collect? {α : Type} (initial : α) (add : α → String → Option α) (value : Json) :
    Option α := do
  (← value.list? Json.word?).foldlM add initial

/-- The options that a value describes. Fields that are left out have their defaults. -/
def Options.decode? (value : Json) : Option Options := do
  let fields ← value.fields? ["hide", "strip", "number", "site_url", "index_file", "qindex_file",
    "toc_file", "crossref_file", "features", "embed_images"]
  let initial : Options := {}
  match fields with
  | [hide, strip, number, siteUrl, index, questionIndex, contents, crossReference,
    features, embed] =>
    let hide ← Json.fieldOr? none (Json.option? Json.string?) hide
    let strip ← Json.fieldOr? {} (Json.collect? {} Strip.with?) strip
    let number ← Json.fieldOr? false Json.bool? number
    let siteUrl ← Json.fieldOr? "" Json.string? siteUrl
    let index ← Json.fieldOr? initial.indexFile Json.string? index
    let questionIndex ← Json.fieldOr? initial.questionIndexFile Json.string? questionIndex
    let contents ← Json.fieldOr? initial.contentsFile Json.string? contents
    let crossReference ← Json.fieldOr? initial.crossReferenceFile Json.string? crossReference
    let features ← Json.fieldOr? {} (Json.collect? {} Features.with?) features
    let embed ← Json.fieldOr? false Json.bool? embed
    some ⟨hide, strip, number, siteUrl, index, questionIndex, contents, crossReference,
      features, embed⟩
  | _ => none

/-- What the header of a file says of its options. -/
structure Defaults where
  features : Option Features := none
  hide : Option String := none
  number : Option Bool := none
  /-- Keys and features that there are not. -/
  unknown : List String := []
deriving DecidableEq, Repr

namespace Defaults

/-- A quote of either kind. -/
def isQuote (c : Char) : Bool := c == '"' || c == '\x27'

/-- A value without the quotes around it. -/
def unquote (value : List Char) : List Char := Text.dropEndWhile isQuote (value.dropWhile isQuote)

def withFeatures (defaults : Defaults) (value : List Char) : Defaults :=
  let names := ((Text.fields ',' value).filter fun name => !name.isEmpty).map String.ofList
  let start : Defaults := { defaults with features := some {} }
  names.foldl (fun defaults name =>
    match (defaults.features.getD {}).with? name with
    | some features => { defaults with features := some features }
    | none => { defaults with unknown := defaults.unknown ++ ["features=" ++ name] }) start

/-- Defaults changed as one word says. -/
def apply (defaults : Defaults) (word : List Char) : Defaults :=
  match Text.after? ['-', '-'] word with
  | none => { defaults with unknown := defaults.unknown ++ [String.ofList word] }
  | some argument =>
    let (key, value) := match Text.cut? '=' argument with
      | some (key, value) => (String.ofList key, some (unquote value))
      | none => (String.ofList argument, none)
    match key with
    | "features" => defaults.withFeatures (value.getD [])
    | "hide" => { defaults with hide := value.map String.ofList }
    | "number" =>
      let isOff := (value.map String.ofList).any fun value =>
        value == "no" || value == "false" || value == "0"
      { defaults with number := some !isOff }
    | _ => { defaults with unknown := defaults.unknown ++ [key] }

def parse (text : List Char) : Defaults := (Text.words text).foldl apply {}

end Defaults

/-- Options with what the header of a file says. -/
def Options.withDefaults (options : Options) (defaults : Defaults) : Options :=
  { options with
    features := defaults.features.getD options.features
    hide := defaults.hide.or options.hide
    number := defaults.number.getD options.number }

end LectureDeck
