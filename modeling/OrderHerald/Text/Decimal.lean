/-!
# Decimal integers in texts

An integer in a text is an optional sign and one or more of the digits `0` to `9`, leading zeros
allowed, and nothing else.  Only signed integers take a minus sign.  A value out of range is no
integer at all; nothing is ever wrapped.

* `Decimal.natural?` — digits only.
* `Decimal.uint64?`, `Decimal.int64?` — integers of 64 bits.
-/

namespace OrderHerald

namespace Decimal

/-- The value of a decimal digit. -/
def digit? (c : Char) : Option Nat :=
  if '0' ≤ c ∧ c ≤ '9' then some (c.toNat - '0'.toNat) else none

/-- The number that digits continue. -/
def continue? : Nat → List Char → Option Nat
  | n, [] => some n
  | n, c :: rest =>
    match digit? c with
    | some d => continue? (n * 10 + d) rest
    | none => none

/-- One or more digits. -/
def natural? : List Char → Option Nat
  | [] => none
  | text => continue? 0 text

/-- An optional plus sign before digits. -/
def positive? : List Char → Option Nat
  | '+' :: rest => natural? rest
  | text => natural? text

/-- **An unsigned 64-bit integer.** -/
def uint64? (text : String) : Option UInt64 :=
  match positive? text.toList with
  | some n => if n < UInt64.size then some (UInt64.ofNat n) else none
  | none => none

/-- **A signed 64-bit integer.** -/
def int64? (text : String) : Option Int :=
  match text.toList with
  | '-' :: rest =>
    match natural? rest with
    | some n => if Int64.minValue.toInt ≤ -n then some (-n) else none
    | none => none
  | other =>
    match positive? other with
    | some n => if n ≤ Int64.maxValue.toInt then some n else none
    | none => none

end Decimal

end OrderHerald
