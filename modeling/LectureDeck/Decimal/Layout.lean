import LectureDeck.Text.Blank

/-!
# Written forms of numbers

A binary number stands for every real that rounds to it. Its decimal is the one with the fewest
digits among those reals, and of two such decimals the nearer one. It is found in exact integer
arithmetic: on each decimal grid, coarsest first, only the two neighbours of the number can hit.

The digits of a number are laid out in one of two ways: positionally in texts, and with an
exponent for very large and very small numbers in stored records.
-/

namespace LectureDeck.Decimal

/-- A positive binary number `significand * 2 ^ exponent`, and whether the gap below it is half
the gap above. -/
structure Binary where
  significand : Nat
  exponent : Int
  narrowBelow : Bool
deriving DecidableEq, Repr

/-- A positive decimal number `0.d₁d₂… * 10 ^ point`, the last digit not being zero. -/
structure Digits where
  digits : List Char
  point : Int
deriving DecidableEq, Repr

/-- The positive binary number that the bits of a finite float denote, without its sign. -/
def Binary.ofBits (bits : UInt64) : Binary :=
  let field := (bits >>> 52).toNat % 2048
  let fraction := bits.toNat % 4503599627370496
  if field = 0 then ⟨fraction, -1074, false⟩
  else ⟨fraction + 4503599627370496, Int.ofNat field - 1075, fraction == 0 && 1 < field⟩

/-- The numerator of `significand * 2 ^ exponent / 10 ^ step`. -/
def Binary.scaleUp (exponent step : Int) : Nat :=
  Nat.pow 2 exponent.toNat * Nat.pow 10 (-step).toNat

/-- The denominator of `significand * 2 ^ exponent / 10 ^ step`. -/
def Binary.scaleDown (exponent step : Int) : Nat :=
  Nat.pow 2 (-exponent).toNat * Nat.pow 10 step.toNat

/-- A grid point `count * 10 ^ step` rounds to the number. Ends of the interval count when the
significand is even. -/
def Binary.rounds (number : Binary) (step : Int) (count : Nat) : Bool :=
  let up := scaleUp number.exponent step
  let point := 4 * count * scaleDown number.exponent step
  let low := (4 * number.significand - (if number.narrowBelow then 1 else 2)) * up
  let high := (4 * number.significand + 2) * up
  if number.significand % 2 = 0 then low ≤ point && point ≤ high
  else low < point && point < high

/-- The neighbour of the number on a grid that rounds to it, the nearer of two, the even one of
two equally near. -/
def Binary.hit? (number : Binary) (step : Int) : Option Nat :=
  let value := number.significand * scaleUp number.exponent step
  let unit := scaleDown number.exponent step
  let below := value / unit
  match number.rounds step below && below != 0, number.rounds step (below + 1) with
  | true, true =>
    let past := 2 * (value % unit)
    some (if past < unit || (past == unit && below % 2 == 0) then below else below + 1)
  | true, false => some below
  | false, true => some (below + 1)
  | false, false => none

/-- How many times a fraction below one can be multiplied by ten and stay below one. -/
def zerosAfterPoint (numerator denominator : Nat) : Nat → Nat
  | 0 => 0
  | fuel + 1 =>
    if numerator * 10 < denominator then zerosAfterPoint (numerator * 10) denominator fuel + 1
    else 0

/-- The position of the decimal point: `10 ^ (point - 1) ≤ number < 10 ^ point`. -/
def Binary.point (number : Binary) : Int :=
  let numerator := number.significand * scaleUp number.exponent 0
  let denominator := scaleDown number.exponent 0
  if numerator < denominator then -Int.ofNat (zerosAfterPoint numerator denominator 400)
  else Int.ofNat (Nat.toDigits 10 (numerator / denominator)).length

/-- The first hit on the grids of `17 - more + 1` and further digits. -/
def Binary.firstHit (number : Binary) (point : Int) : Nat → Int × Nat
  | 0 => (point - 17, number.significand * scaleUp number.exponent (point - 17) /
      scaleDown number.exponent (point - 17))
  | more + 1 =>
    let step := point - Int.ofNat (17 - more)
    match number.hit? step with
    | some count => (step, count)
    | none => number.firstHit point more

/-- The shortest decimal that rounds to the number. -/
def Binary.shortest (number : Binary) : Digits :=
  let hit := number.firstHit number.point 17
  let all := Nat.toDigits 10 hit.2
  ⟨Text.dropEndWhile (· == '0') all, hit.1 + Int.ofNat all.length⟩

/-- What a written form decides beyond the digits. -/
structure Layout where
  /-- What follows a whole number. -/
  wholeMark : List Char
  /-- The positions of the decimal point that are written without an exponent. -/
  isPositional : Int → Bool

/-- Texts show a number positionally, and a whole number without a point. -/
def shown : Layout := ⟨[], fun _ => true⟩

/-- Records store whole numbers with a point, and use an exponent from `10 ^ 16` on and below
`10 ^ -5`. -/
def stored : Layout := ⟨['.', '0'], fun point => -5 < point && point ≤ 16⟩

def natural (n : Nat) : List Char := Nat.toDigits 10 n

def naturalText (n : Nat) : String := String.ofList (natural n)

/-- Digits around a decimal point. -/
def Layout.positional (layout : Layout) (number : Digits) : List Char :=
  let count := number.digits.length
  if number.point ≤ 0 then
    ['0', '.'] ++ List.replicate (-number.point).toNat '0' ++ number.digits
  else if Int.ofNat count ≤ number.point then
    number.digits ++ List.replicate (number.point.toNat - count) '0' ++ layout.wholeMark
  else
    number.digits.take number.point.toNat ++ ['.'] ++ number.digits.drop number.point.toNat

/-- One digit before the decimal point, and the power of ten. -/
def scientific (number : Digits) : List Char :=
  let exponent := number.point - 1
  let sign := if exponent < 0 then '-' else '+'
  number.digits.take 1 ++
    (if number.digits.length ≤ 1 then [] else '.' :: number.digits.drop 1) ++
    ['e', sign] ++ natural exponent.natAbs

def Layout.digits (layout : Layout) (number : Digits) : List Char :=
  if layout.isPositional number.point then layout.positional number else scientific number

/-- A float in a layout, and `none` for one that is not finite. -/
def Layout.finite? (layout : Layout) (x : Float) : Option (List Char) :=
  if !x.isFinite then none
  else
    let sign := if x.toBits ≥ 0x8000000000000000 then ['-'] else []
    let number := Binary.ofBits x.toBits
    some (sign ++
      if number.significand = 0 then '0' :: layout.wholeMark
      else layout.digits number.shortest)

def text (x : Float) : String :=
  match shown.finite? x with
  | some text => String.ofList text
  | none => if x.isNaN then "NaN" else if x < 0 then "-inf" else "inf"

/-- The digits of a number, at least two of them. -/
def twoDigits (n : Nat) : List Char :=
  let digits := natural n
  if digits.length < 2 then '0' :: digits else digits

end LectureDeck.Decimal
