/-! # Shortest decimal digits of a double

For a finite positive double `x`, `Decimal.shortest x` is the decimal `s × 10^t`
with the fewest significant digits that reads back as `x`, that is, that lies in the
interval of reals rounding to `x` under round-half-to-even; among such decimals of
that length it is the one nearest to `x`, and an exact tie goes to the even `s`.

Everything is exact `Nat` arithmetic on the decoded form `m · 2^e` of `x`: the
interval's ends are `(4m ∓ g) · 2^(e-2)` with `g = 2`, or `g = 1` below the lowest
mantissa of a binade, and they belong to the interval exactly when `m` is even.
For 1, 2, … 17 digits the two neighbours of `x` on the decimal grid of that length
are tested; the first length with a hit wins.  Seventeen digits always hit.
-/

namespace ModelTables.Decimal

/-- A finite positive double as `mantissa · 2^exponent`. -/
structure Binary where
  mantissa : Nat
  exponent : Int
  /-- The gap to the next smaller double is half the gap to the next larger one. -/
  narrowBelow : Bool
  deriving Repr

/-- Decode a finite positive double; `none` for zero, infinities, NaN and negatives. -/
def Binary.ofFloat? (x : Float) : Option Binary :=
  let bits : Nat := x.toBits.toNat
  let frac : Nat := bits % Nat.pow 2 52
  let biased : Nat := (bits / Nat.pow 2 52) % 2048
  let negative := bits / Nat.pow 2 63 == 1
  if negative || biased == 2047 then none
  else if biased == 0 then
    if frac == 0 then none else some ⟨frac, -1074, false⟩
  else some ⟨frac + Nat.pow 2 52, (biased : Int) - 1075, frac == 0 && biased > 1⟩

/-- A nonnegative rational `num / den`. -/
structure Ratio where
  num : Nat
  den : Nat

namespace Ratio

/-- `p ≤ q`, by cross multiplication. -/
def le (p q : Ratio) : Bool := p.num * q.den ≤ q.num * p.den

/-- `p < q`, by cross multiplication. -/
def lt (p q : Ratio) : Bool := p.num * q.den < q.num * p.den

/-- `n · 2^k` for an integer `k`. -/
def ofPow2 (n : Nat) (k : Int) : Ratio :=
  if 0 ≤ k then ⟨n * Nat.pow 2 k.toNat, 1⟩ else ⟨n, Nat.pow 2 (-k).toNat⟩

/-- `n · 10^k` for an integer `k`. -/
def ofPow10 (n : Nat) (k : Int) : Ratio :=
  if 0 ≤ k then ⟨n * Nat.pow 10 k.toNat, 1⟩ else ⟨n, Nat.pow 10 (-k).toNat⟩

/-- `|p - q|` as a ratio over the common denominator. -/
def dist (p q : Ratio) : Ratio :=
  let a := p.num * q.den
  let b := q.num * p.den
  ⟨if a ≤ b then b - a else a - b, p.den * q.den⟩

end Ratio

/-- The number of decimal digits of `n` (one for zero). -/
def digitCount (n : Nat) : Nat := (Nat.toDigits 10 n).length

/-- The least `j ≥ 1` with `n · 10^j ≥ d`, searched for at most `fuel` steps. -/
def firstPowerReaching (n d : Nat) : Nat → Nat → Nat
  | 0, j => j
  | fuel + 1, j => if d ≤ n * Nat.pow 10 j then j else firstPowerReaching n d fuel (j + 1)

/-- `⌊log₁₀ (num / den)⌋` for a positive ratio. -/
def floorLog10 (r : Ratio) : Int :=
  if r.den ≤ r.num then (digitCount (r.num / r.den) : Int) - 1
  else -((firstPowerReaching r.num r.den (digitCount r.den + 1) 1 : Nat) : Int)

/-- The rounding interval of a decoded double, with whether its ends belong to it. -/
structure Interval where
  low : Ratio
  high : Ratio
  closed : Bool

/-- The reals that round to the double `b`. -/
def Binary.interval (b : Binary) : Interval :=
  let gapBelow := if b.narrowBelow then 1 else 2
  { low := Ratio.ofPow2 (4 * b.mantissa - gapBelow) (b.exponent - 2)
    high := Ratio.ofPow2 (4 * b.mantissa + 2) (b.exponent - 2)
    closed := b.mantissa % 2 == 0 }

/-- Whether a point lies in the interval. -/
def Interval.holds (i : Interval) (p : Ratio) : Bool :=
  if i.closed then i.low.le p && p.le i.high else i.low.lt p && p.lt i.high

/-- The two neighbours `s · 10^t` of `v` on the grid `10^t` that lie in the rounding
interval, nearest first (an exact tie puts the even `s` first). -/
def gridHits (v : Ratio) (i : Interval) (t : Int) : List Nat :=
  let scaled : Ratio := if 0 ≤ t then ⟨v.num, v.den * Nat.pow 10 t.toNat⟩ else ⟨v.num * Nat.pow 10 (-t).toNat, v.den⟩
  let below := scaled.num / scaled.den
  let hits := [below, below + 1].filter fun s => i.holds (Ratio.ofPow10 s t)
  match hits with
  | [a, b] =>
    let da := Ratio.dist (Ratio.ofPow10 a t) v
    let db := Ratio.dist (Ratio.ofPow10 b t) v
    if da.lt db then [a, b]
    else if db.lt da then [b, a]
    else if a % 2 == 0 then [a, b] else [b, a]
  | other => other

/-- Remove trailing zeros from `s · 10^t`. -/
def trimZeros : Nat → Nat → Int → Nat × Int
  | 0, s, t => (s, t)
  | fuel + 1, s, t => if s != 0 && s % 10 == 0 then trimZeros fuel (s / 10) (t + 1) else (s, t)

/-- The first digit count from `k` up to 17 whose grid has a hit. -/
def searchDigits (v : Ratio) (i : Interval) (top : Int) : Nat → Nat → Option (Nat × Int)
  | 0, _ => none
  | fuel + 1, k =>
    let t := top + 1 - k
    match gridHits v i t with
    | s :: _ => some (s, t)
    | [] => searchDigits v i top fuel (k + 1)

/-- The shortest decimal `s · 10^t` that reads back as the finite positive double
`b`, with no trailing zero in `s`. -/
def Binary.shortest (b : Binary) : Nat × Int :=
  let v := Ratio.ofPow2 b.mantissa b.exponent
  let i := b.interval
  match searchDigits v i (floorLog10 v) 17 1 with
  | some (s, t) => trimZeros (digitCount s) s t
  | none => (0, 0)

end ModelTables.Decimal
