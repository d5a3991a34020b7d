import LectureDeck.Digest.Blake3
import LectureDeck.Text.Utf8

/-!
# Digests of texts

A text is known by the first eight digits of its hash in base 16.
-/

namespace LectureDeck

/-- The number of digits kept of a hash. -/
def digestSize : Nat := 8

def digest (text : List Char) : String :=
  let digits := (Blake3.hash (Text.bytes text)).flatMap fun byte =>
    [Text.hexSmall (byte.toNat / 16), Text.hexSmall (byte.toNat % 16)]
  String.ofList (digits.take digestSize)

end LectureDeck
