/-!
# Sizes and bytes of texts

Offsets into a source count the bytes of its encoded form. Two textual forms of bytes are used
in pages: percent-encoding in ids and queries, and base 64 in embedded images.
-/

namespace LectureDeck.Text

/-- The number of bytes of a text. -/
def byteSize (cs : List Char) : Nat := cs.foldr (fun c size => c.utf8Size + size) 0

@[simp]
theorem byteSize_nil : byteSize [] = 0 := rfl

@[simp]
theorem byteSize_cons (c : Char) (cs : List Char) :
    byteSize (c :: cs) = c.utf8Size + byteSize cs := rfl

@[simp]
theorem byteSize_append (first rest : List Char) :
    byteSize (first ++ rest) = byteSize first + byteSize rest := by
  induction first with
  | nil => simp
  | cons c first same => simp [same, Nat.add_assoc]

theorem byteSize_pos {cs : List Char} (nonempty : cs ≠ []) : 0 < byteSize cs := by
  cases cs with
  | nil => contradiction
  | cons c rest => exact Nat.add_pos_left c.utf8Size_pos _

/-- What follows a number of bytes at the start of a text. A character that only begins in them is
dropped with them. -/
def dropBytes : Nat → List Char → List Char
  | 0, cs => cs
  | _ + 1, [] => []
  | size + 1, c :: rest => dropBytes (size + 1 - c.utf8Size) rest

/-- The characters that begin in a number of bytes at the start of a text. -/
def takeBytes : Nat → List Char → List Char
  | 0, _ => []
  | _ + 1, [] => []
  | size + 1, c :: rest => c :: takeBytes (size + 1 - c.utf8Size) rest

/-- The part of a text between two offsets in bytes. -/
def byteRange (start stop : Nat) (cs : List Char) : List Char :=
  takeBytes (stop - start) (dropBytes start cs)

/-- A character of a text begins at an offset in bytes, or the text ends there. -/
def IsBoundary (cs : List Char) (offset : Nat) : Prop :=
  ∃ first rest, cs = first ++ rest ∧ byteSize first = offset

theorem dropBytes_cons (c : Char) (rest : List Char) (size : Nat) :
    dropBytes (c.utf8Size + size) (c :: rest) = dropBytes size rest := by
  cases width : c.utf8Size with
  | zero => exact absurd c.utf8Size_pos (by omega)
  | succ before =>
    rw [Nat.succ_add, dropBytes, width]
    congr 1
    omega

theorem takeBytes_cons (c : Char) (rest : List Char) (size : Nat) :
    takeBytes (c.utf8Size + size) (c :: rest) = c :: takeBytes size rest := by
  cases width : c.utf8Size with
  | zero => exact absurd c.utf8Size_pos (by omega)
  | succ before =>
    rw [Nat.succ_add, takeBytes, width]
    congr 2
    omega

theorem dropBytes_byteSize_append (first rest : List Char) :
    dropBytes (byteSize first) (first ++ rest) = rest := by
  induction first with
  | nil => simp [dropBytes]
  | cons c first same => rw [byteSize_cons, List.cons_append, dropBytes_cons, same]

theorem takeBytes_byteSize_append (first rest : List Char) :
    takeBytes (byteSize first) (first ++ rest) = first := by
  induction first with
  | nil => simp [takeBytes]
  | cons c first same => rw [byteSize_cons, List.cons_append, takeBytes_cons, same]

/-- Between the offsets at which a part of a text begins and ends, the text is that part. -/
theorem byteRange_append (first part rest : List Char) :
    byteRange (byteSize first) (byteSize first + byteSize part) (first ++ part ++ rest) = part := by
  rw [byteRange, Nat.add_sub_cancel_left, List.append_assoc, dropBytes_byteSize_append,
    takeBytes_byteSize_append]

/-- The bytes of one character. -/
def charBytes (c : Char) : List UInt8 := String.utf8EncodeChar c

/-- The bytes of a text. -/
def bytes (cs : List Char) : List UInt8 := cs.flatMap charBytes

/-- A digit of a number in base 16, written with a capital letter. -/
def hexCapital (n : Nat) : Char := if n < 10 then Char.ofNat (48 + n) else Char.ofNat (55 + n)

/-- A digit of a number in base 16, written with a small letter. -/
def hexSmall (n : Nat) : Char := if n < 10 then Char.ofNat (48 + n) else Char.ofNat (87 + n)

/-- A character that percent-encoding leaves alone. -/
def isUnreserved (c : Char) : Bool :=
  c.isAlphanum || c == '-' || c == '.' || c == '_' || c == '~'

/-- A percent sign and the two digits of a byte. -/
def percentByte (byte : UInt8) : List Char :=
  ['%', hexCapital (byte.toNat / 16), hexCapital (byte.toNat % 16)]

/-- The percent-encoded form of a text. -/
def percentEncode (cs : List Char) : List Char :=
  cs.flatMap fun c => if isUnreserved c then [c] else (charBytes c).flatMap percentByte

def base64Digit (n : Nat) : Char :=
  if n < 26 then Char.ofNat (65 + n)
  else if n < 52 then Char.ofNat (71 + n)
  else if n < 62 then Char.ofNat (n - 4)
  else if n = 62 then '+' else '/'

/-- The base 64 form of bytes, padded to groups of four digits. -/
def base64 : List UInt8 → List Char
  | a :: b :: c :: rest =>
    let n := a.toNat * 65536 + b.toNat * 256 + c.toNat
    base64Digit (n / 262144) :: base64Digit (n / 4096 % 64) :: base64Digit (n / 64 % 64) ::
      base64Digit (n % 64) :: base64 rest
  | [a, b] =>
    let n := a.toNat * 1024 + b.toNat * 4
    [base64Digit (n / 4096), base64Digit (n / 64 % 64), base64Digit (n % 64), '=']
  | [a] => [base64Digit (a.toNat / 4), base64Digit (a.toNat % 4 * 16), '=', '=']
  | [] => []

end LectureDeck.Text
