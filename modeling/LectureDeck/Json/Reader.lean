import LectureDeck.Json.Value

/-!
# Reading data values

A value is read from the whole of a text. Arrays and objects nest as deep as they like, and no
comma may stand before a closing bracket. Two escaped surrogates that make a pair are read as one
character; a text with any other surrogate is well formed and stands for no characters.
-/

namespace LectureDeck.Json

/-- A character that may stand between parts of a value. -/
def isSpace (c : Char) : Bool := c == ' ' || c == '\n' || c == '\t' || c == '\r'

/-- A text without the space at its start. -/
def skipSpace (cs : List Char) : List Char := cs.dropWhile isSpace

/-- The value of a digit in base 16. -/
def hexDigit? (c : Char) : Option Nat :=
  if c.isDigit then some (c.toNat - 48)
  else if 'a' ≤ c && c ≤ 'f' then some (c.toNat - 87)
  else if 'A' ≤ c && c ≤ 'F' then some (c.toNat - 55)
  else none

/-- The code point of four digits in base 16. -/
def hexUnit? (a b c d : Char) : Option Nat := do
  some ((← hexDigit? a) * 4096 + (← hexDigit? b) * 256 + (← hexDigit? c) * 16 + (← hexDigit? d))

/-- The code point of an escape of one character. -/
def escaped? : Char → Option Nat
  | '"' => some '"'.toNat
  | '\\' => some '\\'.toNat
  | '/' => some '/'.toNat
  | 'b' => some 8
  | 'f' => some 12
  | 'n' => some 10
  | 'r' => some 13
  | 't' => some 9
  | _ => none

/-- The code points of a quoted text up to its closing quote, and what follows it. Surrogates are
among the code points, each as it is escaped. -/
def unquote? : List Char → Option (List Nat × List Char)
  | [] => none
  | '"' :: rest => some ([], rest)
  | '\\' :: 'u' :: a :: b :: c :: d :: rest => do
    let first ← hexUnit? a b c d
    let (codes, rest) ← unquote? rest
    some (first :: codes, rest)
  | '\\' :: c :: rest => do
    let first ← escaped? c
    let (codes, rest) ← unquote? rest
    some (first :: codes, rest)
  | c :: rest =>
    if c = '\\' || c.toNat < 32 then none
    else do
      let (codes, rest) ← unquote? rest
      some (c.toNat :: codes, rest)

/-- The first half of a surrogate pair. -/
def isHighSurrogate (code : Nat) : Bool := 0xD800 ≤ code && code < 0xDC00

/-- The second half of a surrogate pair. -/
def isLowSurrogate (code : Nat) : Bool := 0xDC00 ≤ code && code < 0xE000

/-- The characters that code points stand for, where every surrogate is half of a pair. -/
def joinPairs? : List Nat → Option (List Char)
  | [] => some []
  | [code] =>
    if isHighSurrogate code || isLowSurrogate code then none else some [Char.ofNat code]
  | code :: next :: rest =>
    if isHighSurrogate code then
      if isLowSurrogate next then
        (joinPairs? rest).map
          (Char.ofNat (0x10000 + (code - 0xD800) * 1024 + (next - 0xDC00)) :: ·)
      else none
    else if isLowSurrogate code then none
    else (joinPairs? (next :: rest)).map (Char.ofNat code :: ·)

/-- A quoted text without its opening quote, where it stands for characters, and what follows
it. -/
def quotedText? (cs : List Char) : Option (Option String × List Char) :=
  (unquote? cs).map fun part => ((joinPairs? part.1).map String.ofList, part.2)

/-- The digits at the start of a text, at least one, and what follows them. -/
def someDigits? (cs : List Char) : Option (List Char × List Char) :=
  let digits := cs.takeWhile Char.isDigit
  if digits.isEmpty then none else some (digits, cs.dropWhile Char.isDigit)

/-- The whole part of a number: no zero stands before other digits. -/
def wholePart? : List Char → Option (List Char × List Char)
  | '0' :: rest =>
    match rest with
    | c :: _ => if c.isDigit then none else some (['0'], rest)
    | [] => some (['0'], rest)
  | cs => someDigits? cs

/-- The fraction of a number, which may be absent. -/
def fractionPart? : List Char → Option (List Char × List Char)
  | '.' :: rest => (someDigits? rest).map fun part => ('.' :: part.1, part.2)
  | cs => some ([], cs)

/-- The power of ten of a number, which may be absent. -/
def powerPart? : List Char → Option (List Char × List Char)
  | c :: rest =>
    if c = 'e' || c = 'E' then
      match rest with
      | '+' :: digits => (someDigits? digits).map fun part => (c :: '+' :: part.1, part.2)
      | '-' :: digits => (someDigits? digits).map fun part => (c :: '-' :: part.1, part.2)
      | _ => (someDigits? rest).map fun part => (c :: part.1, part.2)
    else some ([], c :: rest)
  | [] => some ([], [])

/-- A number as it is written, and what follows it. -/
def numberLiteral? (cs : List Char) : Option (List Char × List Char) := do
  let (sign, rest) := match cs with
    | '-' :: rest => (['-'], rest)
    | _ => ([], cs)
  let (whole, rest) ← wholePart? rest
  let (fraction, rest) ← fractionPart? rest
  let (power, rest) ← powerPart? rest
  some (sign ++ whole ++ fraction ++ power, rest)

mutual

/-- A value at the start of a text, and what follows it, in a number of steps bounded by the
fuel. -/
def value? : Nat → List Char → Option (Json × List Char)
  | 0, _ => none
  | fuel + 1, cs =>
    match skipSpace cs with
    | 'n' :: 'u' :: 'l' :: 'l' :: rest => some (null, rest)
    | 't' :: 'r' :: 'u' :: 'e' :: rest => some (bool true, rest)
    | 'f' :: 'a' :: 'l' :: 's' :: 'e' :: rest => some (bool false, rest)
    | '"' :: rest => (quotedText? rest).map fun part => (ofText part.1, part.2)
    | '[' :: rest =>
      match skipSpace rest with
      | ']' :: after => some (array [], after)
      | _ => (items? fuel rest).map fun part => (array part.1, part.2)
    | '{' :: rest =>
      match skipSpace rest with
      | '}' :: after => some (object [], after)
      | _ => (namedItems? fuel rest).map fun part => (ofMembers part.1, part.2)
    | other => (numberLiteral? other).map fun part => (number (String.ofList part.1), part.2)

/-- The items of an array, at least one, up to its end. -/
def items? : Nat → List Char → Option (List Json × List Char)
  | 0, _ => none
  | fuel + 1, cs => do
    let (item, rest) ← value? fuel cs
    match skipSpace rest with
    | ']' :: after => some ([item], after)
    | ',' :: more => do
      let (others, after) ← items? fuel more
      some (item :: others, after)
    | _ => none

/-- The members of an object, at least one, up to its end. -/
def namedItems? : Nat → List Char → Option (List (Option String × Json) × List Char)
  | 0, _ => none
  | fuel + 1, cs =>
    match skipSpace cs with
    | '"' :: start => do
      let (name, rest) ← quotedText? start
      match skipSpace rest with
      | ':' :: rest => do
        let (item, rest) ← value? fuel rest
        match skipSpace rest with
        | '}' :: after => some ([(name, item)], after)
        | ',' :: more => do
          let (others, after) ← namedItems? fuel more
          some ((name, item) :: others, after)
        | _ => none
      | _ => none
    | _ => none

end

/-- The value that a text writes. -/
def read? (text : String) : Option Json := do
  let cs := text.toList
  let (value, rest) ← value? (cs.length + 1) cs
  if (skipSpace rest).isEmpty then some value else none

end LectureDeck.Json
