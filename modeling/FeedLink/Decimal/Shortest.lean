/-!
# The shortest decimal that reads back

A finite double stands for one rational number, and every rational strictly between the midpoints
to its two neighbours rounds to it; the midpoints themselves do too when its significand is even.
`Shortest.decimal` looks for the decimal with the fewest digits in that interval and, among those
of equal length, takes the one nearest to the double. All arithmetic is exact: the double is
`significand * 2 ^ exponent`, and both sides of every comparison are natural numbers.

Of the decimals on a grid of step `10 ^ k`, one of the two that enclose the double is nearest to
it, so the search has to look at two candidates a grid only.
-/

namespace FeedLink

/-- The number `digits * 10 ^ exponent`. -/
structure Decimal where
  digits : Nat
  exponent : Int
deriving DecidableEq, Repr

/-- A positive double taken apart: its value is `significand * 2 ^ exponent`. `narrow` holds when
the double below it is only half as far away as the one above. -/
structure BinaryParts where
  significand : Nat
  exponent : Int
  narrow : Bool
deriving DecidableEq, Repr

namespace BinaryParts

/-- The bit above the 52 that a double stores of its significand. -/
def hiddenBit : Nat := 4503599627370496

/-- The parts of a double, without its sign. -/
def ofBits (bits : UInt64) : BinaryParts :=
  let fraction : Nat := bits.toNat % hiddenBit
  let biased : Nat := bits.toNat / hiddenBit % 2048
  if biased = 0 then ⟨fraction, -1074, false⟩
  else ⟨hiddenBit + fraction, (biased : Int) - 1075, fraction == 0 && decide (biased > 1)⟩

/-- The numerator of `n * 2 ^ e` over the denominator `2 ^ (-e)`. -/
def scaled (n : Nat) (e : Int) : Nat := n * Nat.pow 2 e.toNat

/-- The lower end of the interval that rounds to the double, in quarters of its last place. -/
def lowQuarters (p : BinaryParts) : Nat :=
  4 * p.significand - (if p.narrow then 1 else 2)

/-- The upper end of that interval, in quarters of the last place. -/
def highQuarters (p : BinaryParts) : Nat := 4 * p.significand + 2

end BinaryParts

namespace Shortest

/-- The largest `e` with `10 ^ e ≤ n / d`, for positive `n` and `d`. -/
def floorLog10 (n d : Nat) : Int :=
  if n ≥ d then ((Nat.toDigits 10 (n / d)).length : Int) - 1
  else -((Nat.toDigits 10 ((d + n - 1) / n - 1)).length : Int)

/-- Takes the zeros off the end of the digits and counts them in the exponent. -/
def trim : Nat → Decimal → Decimal
  | 0, d => d
  | fuel + 1, d =>
    if d.digits ≠ 0 ∧ d.digits % 10 = 0 then trim fuel ⟨d.digits / 10, d.exponent + 1⟩ else d

/-- Does `c * 10 ^ k` lie in the interval that rounds to the double? -/
def inside (p : BinaryParts) (c : Nat) (k : Int) : Bool :=
  -- both sides in quarters of the double's last place, times the same powers of two and of ten
  let quarter := p.exponent - 2
  let value := c * Nat.pow 10 k.toNat * Nat.pow 2 (-quarter).toNat
  let unit := Nat.pow 2 quarter.toNat * Nat.pow 10 (-k).toNat
  let low := p.lowQuarters * unit
  let high := p.highQuarters * unit
  if p.significand % 2 = 0 then low ≤ value && value ≤ high else low < value && value < high

/-- The best decimal on the grid of step `10 ^ k`, if the grid has one in the interval. A tie
goes to the even candidate. -/
def onGrid (p : BinaryParts) (k : Int) : Option Decimal :=
  let n := BinaryParts.scaled p.significand p.exponent * Nat.pow 10 (-k).toNat
  let d := Nat.pow 2 (-p.exponent).toNat * Nat.pow 10 k.toNat
  let below := n / d
  let twice := 2 * (n % d)
  let preferAbove := twice > d || (twice == d && below % 2 == 1)
  let candidates := if preferAbove then [below + 1, below] else [below, below + 1]
  (candidates.find? fun c => c != 0 && inside p c k).map fun c => ⟨c, k⟩

/-- The shortest decimal that rounds to the positive double with these parts. Seventeen digits
always suffice. -/
def ofParts (p : BinaryParts) : Decimal :=
  let n := BinaryParts.scaled p.significand p.exponent
  let d := Nat.pow 2 (-p.exponent).toNat
  let top := floorLog10 n d
  let found := (List.range 17).findSome? fun (i : Nat) => onGrid p (top - i)
  trim 400 (found.getD ⟨n / d, 0⟩)

/-- The shortest decimal that reads back as the magnitude of `x`; zero for zero. -/
def decimal (x : Float) : Decimal :=
  let p := BinaryParts.ofBits x.toBits
  if p.significand = 0 then ⟨0, 0⟩ else ofParts p

/-- Is the sign bit of `x` set? This tells `-0.0` from `0.0`. -/
def isNegative (x : Float) : Bool := x.toBits ≥ 0x8000000000000000

end Shortest

end FeedLink
