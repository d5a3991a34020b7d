import LectureDeck.Json.Value

/-!
# Plugins

The interactive plugins that a run knows, by name.
-/

namespace LectureDeck

/-- The markup of a plugin. -/
structure Plugin where
  /-- Stands once at the head of a page. -/
  head : String := ""
  /-- Stands before the first use in a file. -/
  top : String := ""
  /-- Stands at each use. -/
  body : String := ""
  button : String := ""
  /-- What the argument of an answer must match. -/
  argumentPattern : Option String := none
deriving DecidableEq, Repr

/-- Plugins by name. Of plugins of one name the last counts. -/
structure Plugins where
  entries : List (String × Plugin)
deriving DecidableEq, Repr

namespace Plugins

def empty : Plugins := ⟨[]⟩

def get? (plugins : Plugins) (name : String) : Option Plugin := plugins.entries.reverse.lookup name

def contains (plugins : Plugins) (name : String) : Bool := (plugins.get? name).isSome

def decodePlugin? (value : Json) : Option Plugin := do
  let fields ← value.fields? ["head", "top", "body", "button", "arg_pattern"]
  match fields with
  | [head, top, body, button, pattern] =>
    let text := fun (field : Option Json) =>
      match field with
      | some value => value.string?
      | none => some ""
    let head ← text head
    let top ← text top
    let body ← text body
    let button ← text button
    let pattern ← (pattern.getD .null).option? Json.string?
    some ⟨head, top, body, button, pattern⟩
  | _ => none

def decode? (value : Json) : Option Plugins := do
  let members ← value.members?
  let entries ← members.mapM fun (name, value) =>
    (decodePlugin? value).map fun plugin => (name, plugin)
  some ⟨entries⟩

end Plugins

end LectureDeck
