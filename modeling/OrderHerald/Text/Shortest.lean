/-!
# The shortest decimal of a double

A double `m * 2^q` stands for every real that rounds to it.  Among the decimals in that interval
`Shortest.digits` picks the one with the fewest digits, and of those with equally few the one
nearest to the value: first the grids of one digit, two digits and so on are tried, and on the first
grid with a point in the interval the value's two neighbours are compared, in exact arithmetic.

* `Shortest.Binary` — a positive double as `m * 2^q`.
* `Shortest.digits` — the decimal, as an integer and a power of ten.
* `Shortest.text` — its written form: a point within the first sixteen places, an exponent beyond.
-/

namespace OrderHerald

namespace Shortest

/-- A positive finite double: `mantissa * 2^exponent`. -/
structure Binary where
  mantissa : Nat
  exponent : Int
  /-- The next double below is only half as far away as the next one above. -/
  narrowBelow : Bool
  deriving DecidableEq, Repr

/-- The magnitude of a finite double given by its bits. -/
def Binary.ofBits (bits : UInt64) : Binary :=
  let fraction : Nat := (bits &&& 0xfffffffffffff).toNat
  let biased : Nat := (bits >>> 52 &&& 0x7ff).toNat
  if biased = 0 then ⟨fraction, -1074, false⟩
  else ⟨fraction + 0x10000000000000, (biased : Int) - 1075, fraction = 0 && biased > 1⟩

/-- Powers with an integer exponent, as a fraction of naturals. -/
def power (base : Nat) (exponent : Int) : Nat × Nat :=
  if 0 ≤ exponent then (base.pow exponent.toNat, 1) else (1, base.pow exponent.natAbs)

/-- `n * 10^e` lies among the reals that round to the double.  Everything is scaled to quarters of
the double's last place: the value is `4m`, the upper end `4m + 2`, the lower end `4m - 2`, or
`4m - 1` where the double below is near.  The ends belong to the interval if `m` is even. -/
def Binary.covers (b : Binary) (n : Nat) (e : Int) : Bool :=
  let (tenNum, tenDen) := power 10 e
  let (twoNum, twoDen) := power 2 b.exponent
  let point := 4 * n * tenNum * twoDen
  let unit := tenDen * twoNum
  let low := (4 * b.mantissa - if b.narrowBelow then 1 else 2) * unit
  let high := (4 * b.mantissa + 2) * unit
  if b.mantissa % 2 = 0 then low ≤ point && point ≤ high else low < point && point < high

/-- The largest multiple of `10^e` that is not above the value, counted in `10^e`. -/
def Binary.below (b : Binary) (e : Int) : Nat :=
  let (tenNum, tenDen) := power 10 e
  let (twoNum, twoDen) := power 2 b.exponent
  b.mantissa * twoNum * tenDen / (twoDen * tenNum)

/-- Twice the distance of `n * 10^e` and the value are compared: `n + 1` is nearer than `n`, or as
near and even. -/
def Binary.upperIsNearer (b : Binary) (n : Nat) (e : Int) : Bool :=
  let (tenNum, tenDen) := power 10 e
  let (twoNum, twoDen) := power 2 b.exponent
  let value := 2 * b.mantissa * twoNum * tenDen
  let middle := (2 * n + 1) * tenNum * twoDen
  value > middle || (value = middle && n % 2 = 1)

/-- The neighbour of the value on the grid `10^e` that rounds to the double, if one does. -/
def Binary.onGrid? (b : Binary) (e : Int) : Option Nat :=
  let n := b.below e
  let lower := b.covers n e && n != 0
  let upper := b.covers (n + 1) e
  match lower, upper with
  | true, true => some (if b.upperIsNearer n e then n + 1 else n)
  | true, false => some n
  | false, true => some (n + 1)
  | false, false => none

/-- The first of finitely many finer and finer grids with a point in the interval. -/
def Binary.search (b : Binary) : Nat → Int → Nat × Int
  | 0, e => (b.below e, e)
  | fuel + 1, e =>
    match b.onGrid? e with
    | some n => (n, e)
    | none => b.search fuel (e - 1)

/-- Drops zeros at the end. -/
def trim : Nat → Nat → Int → Nat × Int
  | 0, n, e => (n, e)
  | fuel + 1, n, e => if n % 10 = 0 && n != 0 then trim fuel (n / 10) (e + 1) else (n, e)

/-- **The shortest decimal** `n * 10^e` that rounds to a positive double. -/
def digits (b : Binary) : Nat × Int :=
  let (n, e) := b.search 700 310
  trim 400 n e

/-- The written form of `n * 10^e`: positional while the point lies from five places before the first
digit to sixteen places after it, always with a fraction; an exponent otherwise. -/
def written (n : Nat) (e : Int) : String :=
  let ds := Nat.toDigits 10 n
  let count := ds.length
  let point : Int := count + e
  if 0 ≤ e && point ≤ 16 then
    String.ofList (ds ++ List.replicate e.toNat '0') ++ ".0"
  else if 0 < point && point ≤ 16 then
    String.ofList (ds.take point.toNat) ++ "." ++ String.ofList (ds.drop point.toNat)
  else if -5 < point && point ≤ 0 then
    "0." ++ String.ofList (List.replicate point.natAbs '0' ++ ds)
  else
    let head := String.ofList (ds.take 1)
    let tail := ds.drop 1
    let mantissa := if tail.isEmpty then head else head ++ "." ++ String.ofList tail
    mantissa ++ "e" ++ toString (point - 1)

/-- **The text of a finite double**, given by its bits. -/
def text (bits : UInt64) : String :=
  let sign := if bits >>> 63 = 1 then "-" else ""
  let b := Binary.ofBits bits
  if b.mantissa = 0 then sign ++ "0.0"
  else
    let (n, e) := digits b
    sign ++ written n e

end Shortest

end OrderHerald
