import LectureDeck.Text.Blank

/-!
# Reading numbers

A number is read from the whole of a text: a sign, digits with at most one point, and a power of
ten. The words for the infinities and for no number are read in any case of letters.
-/

namespace LectureDeck.Decimal

/-- The value of digits in base ten. -/
def digitsValue (digits : List Char) : Nat :=
  digits.foldl (fun value digit => value * 10 + (digit.toNat - 48)) 0

/-- A sign at the start of a text, and what follows it. -/
def takeSign : List Char → Bool × List Char
  | '-' :: rest => (true, rest)
  | '+' :: rest => (false, rest)
  | rest => (false, rest)

/-- An exact decimal number `± coefficient * 10 ^ exponent`. -/
structure Exact where
  negative : Bool
  coefficient : Nat
  exponent : Int
deriving DecidableEq, Repr

/-- The power of ten written at the end of a number, which may be absent. -/
def readPower? : List Char → Option Int
  | [] => some 0
  | mark :: rest =>
    if mark = 'e' || mark = 'E' then
      let (negative, digits) := takeSign rest
      if digits.isEmpty || !digits.all Char.isDigit then none
      else
        let value := Int.ofNat (digitsValue digits)
        some (if negative then -value else value)
    else none

/-- The decimal number that a text without a sign writes. -/
def readUnsigned? (negative : Bool) (cs : List Char) : Option Exact :=
  let whole := cs.takeWhile Char.isDigit
  let rest := cs.dropWhile Char.isDigit
  let (fraction, tail) := match rest with
    | '.' :: after => (after.takeWhile Char.isDigit, after.dropWhile Char.isDigit)
    | _ => ([], rest)
  if whole.isEmpty && fraction.isEmpty then none
  else
    (readPower? tail).map fun power =>
      ⟨negative, digitsValue (whole ++ fraction), power - Int.ofNat fraction.length⟩

/-- The decimal number that a text writes. -/
def readExact? (cs : List Char) : Option Exact :=
  let (negative, rest) := takeSign cs
  readUnsigned? negative rest

/-- The float nearest to a decimal number. Powers of ten beyond the range of floats are cut to
it first. -/
def Exact.toFloat (number : Exact) : Float :=
  let size := Int.ofNat (Nat.toDigits 10 number.coefficient).length + number.exponent
  let magnitude :=
    if number.coefficient = 0 || size < -400 then 0.0
    else if 400 < size then 1.0 / 0.0
    else if number.exponent < 0 then
      Float.ofScientific number.coefficient true number.exponent.natAbs
    else Float.ofScientific number.coefficient false number.exponent.natAbs
  if number.negative then -magnitude else magnitude

/-- The float that a text writes. -/
def readFloat? (cs : List Char) : Option Float :=
  let (negative, rest) := takeSign cs
  let word := String.ofList (rest.map Char.toLower)
  if word == "inf" || word == "infinity" then
    some (if negative then -1.0 / 0.0 else 1.0 / 0.0)
  else if word == "nan" then some (0.0 / 0.0)
  else (readUnsigned? negative rest).map Exact.toFloat

/-- The natural number below a bound that a text writes, with an optional plus sign. -/
def readNatural? (bound : Nat) (cs : List Char) : Option Nat :=
  let digits := match cs with
    | '+' :: rest => rest
    | _ => cs
  if digits.isEmpty || !digits.all Char.isDigit then none
  else
    let value := digitsValue digits
    if value < bound then some value else none

end LectureDeck.Decimal
