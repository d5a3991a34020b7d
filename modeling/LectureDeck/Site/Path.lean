import LectureDeck.Text.Blank

/-!
# Paths

A path is read as its components. Slashes that follow one another count as one, and a dot counts
only where a path begins with it.
-/

namespace LectureDeck.Site

open LectureDeck.Text

/-- A component of a path. -/
inductive Component where
  | root
  | here
  | parent
  | name (text : List Char)
deriving DecidableEq, Repr

def components (path : List Char) : List Component :=
  let parts := (fields '/' path).filter fun part => !part.isEmpty
  let component := fun part => if part = ['.', '.'] then Component.parent else .name part
  let inner := fun parts => (List.filter (· != ['.']) parts).map component
  if path.head? == some '/' then .root :: inner parts
  else
    match parts with
    | ['.'] :: rest => .here :: inner rest
    | _ => inner parts

/-- The name of the file that a path leads to. -/
def fileName? (path : List Char) : Option (List Char) :=
  match (components path).getLast? with
  | some (.name text) => some text
  | _ => none

/-- A file name cut at its last dot, unless that is its first character. -/
def splitName (name : List Char) : List Char × Option (List Char) :=
  match cut? '.' name.reverse with
  | some (after, before) =>
    if before.isEmpty then (name, none) else (before.reverse, some after.reverse)
  | none => (name, none)

/-- The name of a file without its extension, empty when the path leads to no file. -/
def stem (path : String) : String :=
  match fileName? path.toList with
  | some name => String.ofList (splitName name).1
  | none => ""

/-- The extension of a file. -/
def extension? (path : String) : Option String :=
  (fileName? path.toList).bind fun name => (splitName name).2.map String.ofList

/-- Files with one of these extensions are sources. -/
def sourceExtensions : List String := ["md", "markdown"]

def isSource (path : String) : Bool := (extension? path).any sourceExtensions.contains

/-- A path that begins at another, unless it is absolute. -/
def join (base path : String) : String :=
  if path.toList.head? == some '/' then path
  else if base.isEmpty || base.toList.getLast? == some '/' then base ++ path
  else base ++ "/" ++ path

end LectureDeck.Site
