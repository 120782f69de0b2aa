import OrderHerald.Json.Basic
import OrderHerald.Text.Decimal

/-!
# JSON numerals

The written form of a number and what it denotes.  A numeral is an optional minus sign, a whole
part without leading zeros, and perhaps a fraction and an exponent.  Without either of the last two
it denotes an integer if that fits 64 bits; everything else denotes a double.

The double is *not* always the nearest one.  Its digits are gathered into a 64-bit significand for
as long as they fit, and the significand, as a double, is then multiplied or divided once by a
power of ten: two roundings at most where a correct reading has one.

* `Numeral.ofChars?` — the grammar.
* `Numeral.gather` — the digits that fit the significand, and those that do not.
* `Numeral.value?` — the number denoted; `none` beyond the largest double.
-/

namespace OrderHerald

/-- The parts of a written number. -/
structure Numeral where
  /-- A minus sign stands in front. -/
  negative : Bool
  /-- The digits before the point. -/
  whole : List Nat
  /-- The digits after the point, if there is one. -/
  fraction : Option (List Nat)
  /-- The exponent, if there is one. -/
  exponent : Option Int
  deriving DecidableEq, Repr

namespace Numeral

/-- The digits at the front of a text, and the rest. -/
def digits : List Char → List Nat × List Char
  | [] => ([], [])
  | c :: rest =>
    match Decimal.digit? c with
    | some d => ((d :: (digits rest).1), (digits rest).2)
    | none => ([], c :: rest)

/-- The natural number with these decimal digits. -/
def ofDigits (ds : List Nat) : Nat :=
  ds.foldl (fun n d => n * 10 + d) 0

/-- A non-empty run of digits that is all of the text. -/
def wholeText? (text : List Char) : Option (List Nat) :=
  match digits text with
  | ([], _) => none
  | (ds, []) => some ds
  | _ => none

/-- What follows the letter of an exponent: an optional sign and digits to the end. -/
def exponent? : List Char → Option Int
  | '+' :: rest => (wholeText? rest).map fun ds => (ofDigits ds : Int)
  | '-' :: rest => (wholeText? rest).map fun ds => -(ofDigits ds : Int)
  | rest => (wholeText? rest).map fun ds => (ofDigits ds : Int)

/-- The numeral from its exponent on. -/
def ofTail? (negative : Bool) (whole : List Nat) (fraction : Option (List Nat)) :
    List Char → Option Numeral
  | [] => some ⟨negative, whole, fraction, none⟩
  | c :: rest =>
    if c = 'e' ∨ c = 'E' then
      (exponent? rest).map fun e => ⟨negative, whole, fraction, some e⟩
    else none

/-- The numeral after its sign. -/
def ofMagnitude? (negative : Bool) (text : List Char) : Option Numeral :=
  match digits text with
  | ([], _) => none
  | (0 :: _ :: _, _) => none
  | (whole, '.' :: rest) =>
    match digits rest with
    | ([], _) => none
    | (fraction, tail) => ofTail? negative whole (some fraction) tail
  | (whole, tail) => ofTail? negative whole none tail

/-- **The grammar of numbers**: the numeral that a text is, all of it. -/
def ofChars? : List Char → Option Numeral
  | '-' :: rest => ofMagnitude? true rest
  | text => ofMagnitude? false text

/-- **What fits the significand**: digits are taken while the number stays below `2^64`; the rest
is handed back. -/
def gather : Nat → List Nat → Nat × List Nat
  | n, [] => (n, [])
  | n, d :: ds => if n * 10 + d < UInt64.size then gather (n * 10 + d) ds else (n, d :: ds)

/-- A power of ten that is a double. -/
def powerOfTen (e : Nat) : Float :=
  Float.ofScientific 1 false e

/-- `significand * 10^exponent` as a double, in at most three roundings; `none` where it is
infinite.  Division by more than `10^616` always leaves zero. -/
def scale? (significand : Nat) (exponent : Int) : Option Float :=
  let f := (UInt64.ofNat significand).toFloat
  if significand = 0 then some 0.0
  else if 0 ≤ exponent then
    if exponent.toNat ≤ 308 then
      let g := f * powerOfTen exponent.toNat
      if g.isInf then none else some g
    else none
  else
    let e := exponent.natAbs
    if e ≤ 308 then some (f / powerOfTen e)
    else if e ≤ 616 then some (f / powerOfTen 308 / powerOfTen (e - 308))
    else some 0.0

/-- The double a numeral denotes.  Digits of the whole part beyond the significand raise the
exponent, digits of the fraction beyond it are dropped. -/
def double? (numeral : Numeral) : Option Float :=
  let fraction := numeral.fraction.getD []
  let (head, spilled) := gather 0 numeral.whole
  let (significand, dropped) := gather head fraction
  let exponent : Int :=
    spilled.length - (fraction.length - dropped.length : Nat) + numeral.exponent.getD 0
  (scale? significand exponent).map fun f => if numeral.negative then -f else f

/-- **What a numeral denotes.**  Minus zero is a double, and so is every integer that does not fit
64 bits. -/
def value? (numeral : Numeral) : Option Number :=
  let n := ofDigits numeral.whole
  match numeral.fraction, numeral.exponent, numeral.negative with
  | none, none, false =>
    if n < UInt64.size then some (.integer n) else numeral.double?.map fun f => .double f.toBits
  | none, none, true =>
    if 0 < n ∧ Int64.minValue.toInt ≤ -n then some (.integer (-n)) else numeral.double?.map fun f => .double f.toBits
  | _, _, _ => numeral.double?.map fun f => .double f.toBits

end Numeral

end OrderHerald
