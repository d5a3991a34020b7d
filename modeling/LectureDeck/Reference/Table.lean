import LectureDeck.Decimal.Layout
import LectureDeck.Reference.Name
import LectureDeck.Text.Blank

/-!
# Reference table

The places in a file that links can lead to. Each has an identifier of its own; a name that is
taken already is given a new one. Some kinds of references are numbered, by the text they stand
under.
-/

namespace LectureDeck

open LectureDeck.Text

/-- How a reference is numbered. -/
inductive ReferenceKind where
  /-- Without a number. -/
  | plain
  /-- Numbered through the file. -/
  | counted
  /-- Numbered through the file, with the number of the file in front. -/
  | chapterCounted
deriving DecidableEq, Repr

/-- A place in a file that links can lead to. -/
structure Reference where
  id : String
  kind : ReferenceKind
  label : String
  owningSlide : Nat
deriving DecidableEq, Repr

namespace Reference

/-- What a definition of a reference says. -/
structure Declaration where
  kind : ReferenceKind
  name : String
deriving DecidableEq, Repr

namespace Declaration

/-- The kind that colons at the start of a key give, and the rest of the key. -/
def kindOf (key : List Char) : ReferenceKind × List Char :=
  match key with
  | ':' :: ':' :: rest => (.chapterCounted, rest)
  | ':' :: rest => (.counted, rest)
  | _ => (.plain, key)

/-- The declaration that a key and the text beside it make. A key without a name takes the text
for its name. -/
def parse (key text : String) : Declaration :=
  let (kind, name) := kindOf key.toList
  let name := trim name
  ⟨kind, String.ofList (if name.isEmpty then trim text.toList else name)⟩

/-- The identifier that a declaration asks for. -/
def id (declaration : Declaration) : String := idOf declaration.name

end Declaration

/-- What became of a definition. -/
structure Defined where
  id : String
  label : String
  /-- The identifier was free. -/
  isNew : Bool
deriving DecidableEq, Repr

/-- The references of a file. -/
structure Table where
  fileNumber : Nat
  references : List Reference := []
  /-- The kind and the counter of each definition so far. -/
  history : List (ReferenceKind × String) := []
deriving Repr

namespace Table

/-- The reference of an identifier. -/
def get? (table : Table) (id : String) : Option Reference :=
  table.references.find? fun reference => reference.id == id

/-- There is a reference of an identifier. -/
def contains (table : Table) (id : String) : Bool :=
  table.references.any fun reference => reference.id == id

/-- The label of the next reference of a kind under a counter. -/
def nextLabel (table : Table) (kind : ReferenceKind) (counter : String) : String :=
  let ordinal := Decimal.naturalText (table.history.count (kind, counter) + 1)
  match kind with
  | .plain => ""
  | .counted => ordinal
  | .chapterCounted => Decimal.naturalText table.fileNumber ++ "." ++ ordinal

/-- The identifiers that a repeated definition may have. One of them is free, because there are
more of them than references. -/
def candidates (table : Table) (id : String) : List String :=
  (List.range (table.references.length + 1)).map fun n =>
    id ++ "-duplicate-" ++ Decimal.naturalText (n + 1)

/-- An identifier that is free, for a repeated definition. -/
def freshId (table : Table) (id : String) : String :=
  ((table.candidates id).find? fun candidate => !table.contains candidate).getD (id ++ "-duplicate")

/-- The table with one more definition, and what became of it. -/
def define (table : Table) (id : String) (kind : ReferenceKind) (counter : String) (slide : Nat) :
    Table × Defined :=
  let label := table.nextLabel kind counter
  let isNew := !table.contains id
  let kept := if isNew then id else table.freshId id
  ({ table with
      references := table.references ++ [⟨kept, kind, label, slide⟩]
      history := table.history ++ [(kind, counter)] },
    ⟨kept, label, isNew⟩)

end Table

end Reference

end LectureDeck
