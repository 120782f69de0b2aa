/-!
# Base64

Three bytes are written as four characters of an alphabet of 64; one or two bytes at the end are
filled up with signs of equality.

* `Base64.encode` — the text of a byte sequence.
-/

namespace OrderHerald

namespace Base64

/-- The alphabet. -/
def alphabet : List Char :=
  "ABCDEFGHIJKLMNOPQRSTUVWXYZabcdefghijklmnopqrstuvwxyz0123456789+/".toList

/-- The character of six bits. -/
def digit (value : Nat) : Char := alphabet.getD (value % 64) 'A'

/-- **The text of a byte sequence.** -/
def encode : List UInt8 → List Char
  | [] => []
  | [a] =>
    let n := a.toNat * 16
    [digit (n / 64), digit n, '=', '=']
  | [a, b] =>
    let n := (a.toNat * 256 + b.toNat) * 4
    [digit (n / 4096), digit (n / 64), digit n, '=']
  | a :: b :: c :: rest =>
    let n := (a.toNat * 256 + b.toNat) * 256 + c.toNat
    [digit (n / 262144), digit (n / 4096), digit (n / 64), digit n] ++ encode rest

end Base64

end OrderHerald
