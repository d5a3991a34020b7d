import LectureDeck.Decimal.Layout
import LectureDeck.Text.Line
import LectureDeck.Text.WordChar

/-!
# Templates

The markup of a plugin holds placeholders in double braces. Filling a template replaces each of
them by the value of its field; what is put in is not read again.
-/

namespace LectureDeck

open LectureDeck.Text

/-- A part of a template. -/
inductive TemplatePart where
  | char (c : Char)
  | field (name : String)
deriving DecidableEq, Repr

/-- The values that a template may ask for. -/
structure TemplateFields where
  plugin : String
  slideId : String
  arguments : String
  fileNumber : Nat
deriving DecidableEq, Repr

def TemplateFields.value? (fields : TemplateFields) (name : String) : Option String :=
  match name with
  | "pluginName" => some fields.plugin
  | "pluginId" => some (fields.slideId ++ "-plugin-" ++ fields.plugin)
  | "pluginLabel" => some ("slidoc-plugin-" ++ fields.plugin)
  | "pluginArgs" => some fields.arguments
  | "pluginSlide" => some fields.slideId
  | "pluginNumber" => some (Decimal.naturalText fields.fileNumber)
  | _ => none

namespace Template

/-- The name in a placeholder at the start of a text, and the size of the placeholder. -/
def placeholder? (cs : List Char) : Option (String × Nat) := do
  let start := skipGap (← after? ['{', '{'] cs)
  let rest ← after? ['}', '}'] (skipGap (start.dropWhile isWordChar))
  some (String.ofList (start.takeWhile isWordChar), cs.length - rest.length)

/-- The parts of a template from which a number of characters is left out first. -/
def partsAfter : Nat → List Char → List TemplatePart
  | _, [] => []
  | skipped + 1, _ :: rest => partsAfter skipped rest
  | 0, c :: rest =>
    match placeholder? (c :: rest) with
    | some (name, size) => .field name :: partsAfter (size - 1) rest
    | none => .char c :: partsAfter 0 rest

def parts (template : String) : List TemplatePart := partsAfter 0 template.toList

/-- The names of fields that a template asks for, in order of first use. -/
def fieldNames (template : String) : List String :=
  ((parts template).filterMap fun part =>
    match part with
    | .char _ => none
    | .field name => some name).eraseDups

/-- A part with its placeholder filled, or the name of the field that there is not. -/
def fillPart (fields : TemplateFields) : TemplatePart → Except String (List Char)
  | .char c => .ok [c]
  | .field name =>
    match fields.value? name with
    | some value => .ok value.toList
    | none => .error name

/-- A template with its placeholders filled, or the name of the first field that there is not. -/
def fill (template : String) (fields : TemplateFields) : Except String String :=
  ((parts template).mapM (fillPart fields)).map fun texts => String.ofList texts.flatten

/-- What is said of a field that there is not. -/
def unknownField (name : String) : String := "unknown template field '" ++ name ++ "'"

end Template

end LectureDeck
