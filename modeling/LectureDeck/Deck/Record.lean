import LectureDeck.Digest.Short
import LectureDeck.Json.Printer
import LectureDeck.Markup.Outline
import LectureDeck.Source

/-!
# Records of published files

A record keeps the digest of a published source and the places where its slides begin. Slides are
taken from a source only when the source still agrees with the record.
-/

namespace LectureDeck

open LectureDeck.Text

/-- What is kept of a published file. -/
structure Record where
  /-- The digest of the source as it is read. -/
  digest : String
  /-- What the defaults header says. -/
  defaults : Option String
  /-- The offsets in bytes at which the slides after the first begin. -/
  breaks : List Nat
  /-- The paths of the images on each slide. -/
  images : List (List String)
  /-- A number for the next image. -/
  nextImage : Nat
deriving DecidableEq, Repr

/-- Why slides are not taken from a source. -/
inductive Mismatch where
  | digest (recorded current : String)
  | slideCount (recorded current : Nat)
  | breaks (recorded current : List Nat)
  /-- The slices put one after another are not the source. -/
  | reassembly
  | outOfRange (first last count : Nat)
  | unread (text : UnreadText)
deriving DecidableEq, Repr

namespace Mismatch

def offsetsText (offsets : List Nat) : String :=
  "[" ++ String.intercalate ", " (offsets.map Decimal.naturalText) ++ "]"

/-- What is said of a mismatch. -/
def message : Mismatch → String
  | digest recorded current =>
    "content digest changed: recorded " ++ recorded ++ ", current " ++ current
  | slideCount recorded current =>
    "slide count changed: recorded " ++ Decimal.naturalText recorded ++ ", current " ++
      Decimal.naturalText current
  | breaks recorded current =>
    "slide breaks moved: recorded " ++ offsetsText recorded ++ ", current " ++ offsetsText current
  | reassembly => "slide slices do not reproduce the source"
  | outOfRange first last count =>
    "slides " ++ Decimal.naturalText first ++ "..=" ++ Decimal.naturalText last ++
      " out of range (1..=" ++ Decimal.naturalText count ++ ")"
  | unread _ => "current source does not tokenize"

/-- What is said of a mismatch and of what brought it about, the outermost first. -/
def messages : Mismatch → List String
  | unread text => [(unread text).message, text.message]
  | found => [found.message]

end Mismatch

/-- The slides of a source that agrees with its record. -/
structure SlideTexts where
  source : List Char
  slices : List Slice
deriving DecidableEq, Repr

namespace SlideTexts

/-- The number of slides. -/
def size (slides : SlideTexts) : Nat := slides.slices.length

def texts (slides : SlideTexts) : List (List Char) :=
  slides.slices.map fun slice => slice.text slides.source

/-- The text of a slide. The first slide has number 1. -/
def get? (slides : SlideTexts) (number : Nat) : Option (List Char) :=
  if number = 0 then none
  else (slides.slices[number - 1]?).map fun slice => slice.text slides.source

/-- The text from the start of a slide to the end of another. -/
def extract (slides : SlideTexts) (first last : Nat) : Except Mismatch (List Char) :=
  if inside : first = 0 ∨ last < first ∨ slides.slices.length < last then
    .error (.outOfRange first last slides.slices.length)
  else
    let start := slides.slices[first - 1].start
    let stop := slides.slices[last - 1].stop
    .ok (byteRange start stop slides.source)

end SlideTexts

/-- The slides of a source, if its digest and the places where its slides begin are as recorded. -/
def verify (source : List Char) (recorded : String) (breaks : List Nat) :
    Except Mismatch SlideTexts :=
  let text := (Source.ofText source).text
  let current := LectureDeck.digest text
  if current ≠ recorded then .error (.digest recorded current)
  else
    match Outline.ofSource text with
    | .error unread => .error (.unread unread)
    | .ok outline =>
      if outline.slices.length ≠ breaks.length + 1 then
        .error (.slideCount (breaks.length + 1) outline.slices.length)
      else if outline.breaks ≠ breaks then .error (.breaks breaks outline.breaks)
      else if outline.joined text ≠ text then .error .reassembly
      else .ok ⟨text, outline.slices⟩

namespace Record

/-- The slides of a source that agrees with the record. -/
def verify (record : Record) (source : List Char) : Except Mismatch SlideTexts :=
  LectureDeck.verify source record.digest record.breaks

/-- The names of the fields of a record, in order. -/
def fieldNames : List String :=
  ["content_digest", "defaults_text", "slide_break_offsets", "slide_images", "next_image_number"]

/-- A record as a value. -/
def encode (record : Record) : Json :=
  .object (fieldNames.zip [.string record.digest, .ofOption .string record.defaults,
    .ofList .ofNat record.breaks, .ofList (.ofList .string) record.images, .ofNat record.nextImage])

/-- The text in which a record is stored. -/
def print (record : Record) : String := record.encode.pretty

/-- The record that a value describes. Only the defaults may be left out. -/
def decode? (value : Json) : Option Record := do
  match ← value.fields? fieldNames with
  | [digest, defaults, breaks, images, nextImage] =>
    let digest ← (← digest).string?
    let defaults ← (defaults.getD .null).option? Json.string?
    let breaks ← (← breaks).list? Json.natural?
    let images ← (← images).list? (Json.list? Json.string?)
    let nextImage ← (← nextImage).natural?
    some ⟨digest, defaults, breaks, images, nextImage⟩
  | _ => none

end Record

end LectureDeck
