import LectureDeck.Decimal.Layout
import LectureDeck.Decimal.Reader

/-!
# Data values

The values of configuration files, stored records and reports. A number is kept as it is
written, and an object keeps its members in order, repeated ones included.

A quoted text may hold half of a surrogate pair without the other half. Such a text is well formed
but stands for no characters, so a value that needs it is kept as `garbled`: it may stand where
nobody looks, and no decoder takes it.
-/

namespace LectureDeck

/-- A data value. -/
inductive Json where
  | null
  | bool (value : Bool)
  | number (literal : String)
  | string (text : String)
  | array (items : List Json)
  | object (members : List (String × Json))
  | garbled
deriving Repr, Inhabited

namespace Json

/-- A text that may stand for no characters, as a value. -/
def ofText (text : Option String) : Json := text.elim garbled string

/-- An object some of whose names may stand for no characters; all of them are needed. -/
def ofMembers (members : List (Option String × Json)) : Json :=
  if members.all fun member => member.1.isSome then
    object (members.map fun member => (member.1.getD "", member.2))
  else garbled

def ofNat (n : Nat) : Json := number (Decimal.naturalText n)

/-- A float as a stored value; one that is not finite has none. -/
def ofFloat (x : Float) : Json :=
  match Decimal.stored.finite? x with
  | some literal => number (String.ofList literal)
  | none => null

/-- A value that may be absent. -/
def ofOption {α : Type} (encode : α → Json) : Option α → Json
  | some a => encode a
  | none => null

/-- A list of values. -/
def ofList {α : Type} (encode : α → Json) (items : List α) : Json := array (items.map encode)

/-- One past the largest number that counters and offsets can hold. -/
def wordBound : Nat := 18446744073709551616

/-- A truth value. -/
def bool? : Json → Option Bool
  | bool value => some value
  | _ => none

/-- A text. -/
def string? : Json → Option String
  | string text => some text
  | _ => none

/-- A natural number of 64 bits, written with digits only. -/
def natural? : Json → Option Nat
  | number literal =>
    let digits := literal.toList
    if digits.all Char.isDigit then Decimal.readNatural? wordBound digits else none
  | _ => none

/-- A value that may be absent, written as null. -/
def option? {α : Type} (decode : Json → Option α) : Json → Option (Option α)
  | null => some none
  | value => (decode value).map some

/-- A list of values, all of one kind. -/
def list? {α : Type} (decode : Json → Option α) : Json → Option (List α)
  | array items => items.mapM decode
  | _ => none

/-- The members of an object. -/
def members? : Json → Option (List (String × Json))
  | object members => some members
  | _ => none

/-- The values of a record's fields, given their names in order. A record is an object in which
no field stands twice, other members being ignored, or an array of values in the order of the
fields. -/
def fields? (names : List String) : Json → Option (List (Option Json))
  | object members =>
    let known := (members.map Prod.fst).filter names.contains
    if known.eraseDups.length = known.length then some (names.map (members.lookup ·)) else none
  | array items =>
    if items.length ≤ names.length then
      some (items.map some ++ List.replicate (names.length - items.length) none)
    else none
  | _ => none

def member? (name : String) : Json → Option Json
  | object members => members.reverse.lookup name
  | _ => none

end Json

end LectureDeck
