/-!
# Sets and maps of code points

A character class is a list of closed ranges of code points, and a case mapping is a list of
strided ranges that move by a fixed distance. Both are given in ascending order.
-/

namespace LectureDeck.Text

/-- A class of characters holds a character whose code point lies in one of its ranges. -/
def inRanges (ranges : List (Nat × Nat)) (c : Char) : Bool :=
  ranges.any fun range => range.1 ≤ c.toNat && c.toNat ≤ range.2

/-- A run of code points `first, first + stride, …, last`, each mapped `distance` away. -/
structure Shift where
  first : Nat
  last : Nat
  stride : Nat
  distance : Int
deriving DecidableEq, Repr

/-- A shift applies to the code points of its run. -/
def Shift.applies (shift : Shift) (code : Nat) : Bool :=
  shift.first ≤ code && code ≤ shift.last && (code - shift.first) % shift.stride == 0

/-- The image of a character under a list of shifts, itself when none applies. -/
def shiftChar (shifts : List Shift) (c : Char) : Char :=
  match shifts.find? (·.applies c.toNat) with
  | some shift => Char.ofNat (Int.ofNat c.toNat + shift.distance).toNat
  | none => c

def unshiftChar (shifts : List Shift) (image : Char) : List Char :=
  shifts.filterMap fun shift =>
    let code := (Int.ofNat image.toNat - shift.distance).toNat
    if shift.applies code && shift.distance != 0 then some (Char.ofNat code) else none

end LectureDeck.Text
