import LectureDeck.Pattern.Basic
import LectureDeck.Text.Utf8

/-!
# Sets as ranges

The characters of a set as closed ranges of code points, and the byte sequences of their encoded
forms. Ranges are kept in ascending order with a gap between neighbours, so that a set has one
list of ranges, surrogates apart, which no set holds.
-/

namespace LectureDeck

/-- Closed ranges of code points. -/
abbrev Ranges : Type := List (Nat × Nat)

namespace Ranges

/-- A range and those that begin after it, in ascending order, with neighbours joined. -/
def joinOnto (current : Nat × Nat) : Ranges → Ranges
  | [] => [current]
  | range :: rest =>
    if range.1 ≤ current.2 + 1 then joinOnto (current.1, max current.2 range.2) rest
    else current :: joinOnto range rest

/-- Any ranges in ascending order, with neighbours joined. -/
def ofList (ranges : List (Nat × Nat)) : Ranges :=
  match ranges.mergeSort fun left right => left.1 ≤ right.1 with
  | [] => []
  | first :: rest => joinOnto first rest

/-- What two ranges share. -/
def shared (left right : Nat × Nat) : Ranges :=
  let first := max left.1 right.1
  let last := min left.2 right.2
  if first ≤ last then [(first, last)] else []

/-- The ranges between ranges, from a code point on. -/
def gaps (next : Nat) : Ranges → Ranges
  | [] => if next ≤ 0x10FFFF then [(next, 0x10FFFF)] else []
  | range :: rest =>
    if next < range.1 then (next, range.1 - 1) :: gaps (range.2 + 1) rest
    else gaps (range.2 + 1) rest

/-- The parts of a range below and above the surrogates. -/
def characters (range : Nat × Nat) : Ranges :=
  shared range (0, 0xD7FF) ++ shared range (0xE000, 0x10FFFF)

/-- The characters that are in no range. -/
def complement (ranges : Ranges) : Ranges := (gaps 0 ranges).flatMap characters

/-- The characters in one of two lists of ranges. -/
def union (left right : Ranges) : Ranges := ofList (left ++ right)

/-- The characters in both of two lists of ranges. -/
def inter (left right : Ranges) : Ranges :=
  complement (union (complement left) (complement right))

/-- The code points of a shift's run that lie in a range. -/
def ofShift (shift : Text.Shift) (range : Nat × Nat) : Ranges :=
  (shared (shift.first, shift.last) range).flatMap fun part =>
    if shift.stride = 1 then [part]
    else
      let start := part.1 + (shift.stride - (part.1 - shift.first) % shift.stride) % shift.stride
      (List.range ((part.2 + shift.stride - start) / shift.stride)).map fun index =>
        let code := start + index * shift.stride
        (code, code)

def moved (distance : Int) (range : Nat × Nat) : Nat × Nat :=
  ((Int.ofNat range.1 + distance).toNat, (Int.ofNat range.2 + distance).toNat)

/-- The characters that differ in case only from one in the ranges: those that these fold to, and
all that fold to one of both. -/
def anyCase (ranges : Ranges) : Ranges :=
  let images := Text.foldShifts.flatMap fun shift =>
    ranges.flatMap fun range => (ofShift shift range).map (moved shift.distance)
  let folded := ofList (ranges ++ images)
  let origins := Text.foldShifts.flatMap fun shift =>
    folded.flatMap fun range => ofShift shift (moved (-shift.distance) range)
  ofList (folded ++ origins)

/-- The code points whose encoded forms have one length each, without the surrogates. -/
def encodedLengths : Ranges :=
  [(0, 0x7F), (0x80, 0x7FF), (0x800, 0xD7FF), (0xE000, 0xFFFF), (0x10000, 0x10FFFF)]

/-- A range cut so that each part lies in one block of a size or is made of whole blocks. -/
def cutAtBlocks (size : Nat) (range : Nat × Nat) : Ranges :=
  if range.1 / size = range.2 / size then [range]
  else
    let start := (range.1 + size - 1) / size * size
    let stop := (range.2 + 1) / size * size
    (if range.1 < start then [(range.1, start - 1)] else []) ++
      (if start < stop then [(start, stop - 1)] else []) ++
      (if stop ≤ range.2 then [(stop, range.2)] else [])

/-- The bytes of the encoded form of a code point. -/
def encoded (code : Nat) : List Nat := (Text.charBytes (Char.ofNat code)).map UInt8.toNat

/-- The byte sequences of a range, each given by a range for every byte. -/
def byteSequences (range : Nat × Nat) : List Ranges :=
  encodedLengths.flatMap fun length =>
    (shared range length).flatMap fun part =>
      if part.2 < 0x80 then [[part]]
      else
        (((cutAtBlocks 0x40 part).flatMap (cutAtBlocks 0x1000)).flatMap (cutAtBlocks 0x40000)).map
          fun part => (encoded part.1).zip (encoded part.2)

/-- Blank characters. -/
def blank : Ranges :=
  [(0x09, 0x0D), (0x20, 0x20), (0x85, 0x85), (0xA0, 0xA0), (0x1680, 0x1680), (0x2000, 0x200A),
    (0x2028, 0x2029), (0x202F, 0x202F), (0x205F, 0x205F), (0x3000, 0x3000)]

end Ranges

def CharSet.ranges : CharSet → Ranges
  | range first last => Ranges.shared (first.toNat, last.toNat) (0, 0x10FFFF)
  | word => Text.wordRanges
  | digit => Text.digitRanges
  | blank => Ranges.blank
  | none => []
  | not set => set.ranges.complement
  | union left right => left.ranges.union right.ranges
  | inter left right => left.ranges.inter right.ranges
  | anyCase set => set.ranges.anyCase

end LectureDeck
