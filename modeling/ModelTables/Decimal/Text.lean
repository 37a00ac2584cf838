import ModelTables.Decimal.Shortest

/-! # Number text

The text of a number as generated code and document text write it: the shortest
digits that read back (`Decimal/Shortest`), placed by the position `n` of the
decimal point (the value is `0.d₁d₂…d_k × 10^n`):

* `k ≤ n ≤ 21`: the digits followed by `n − k` zeros (`100`, `123456789012345680`);
* `0 < n ≤ 21`: a point after the first `n` digits (`1.5`);
* `−6 < n ≤ 0`: `0.`, then `−n` zeros, then the digits (`0.000001`);
* otherwise exponent form `d.ddde±x` (`1e+21`, `1.5e-7`).

Both zeros are written `0`, NaN `NaN` and the infinities `Infinity`, `-Infinity`.
-/

namespace ModelTables.Decimal

/-- Where positional notation ends: the largest point position written positionally
and the smallest one above which small numbers are still positional. -/
structure Layout where
  maxPositional : Int
  minPositional : Int

/-- Positional for point positions in `(-6, 21]`. -/
def Layout.standard : Layout := ⟨21, -6⟩

/-- Place digits `ds` with point position `n`. -/
def place (layout : Layout) (ds : List Char) (n : Int) : String :=
  let k : Int := ds.length
  if k ≤ n ∧ n ≤ layout.maxPositional then
    String.ofList (ds ++ List.replicate (n - k).toNat '0')
  else if 0 < n ∧ n ≤ layout.maxPositional then
    String.ofList (ds.take n.toNat ++ '.' :: ds.drop n.toNat)
  else if layout.minPositional < n ∧ n ≤ 0 then
    String.ofList ('0' :: '.' :: List.replicate (-n).toNat '0' ++ ds)
  else
    let e := n - 1
    let sign := if 0 ≤ e then "+" else "-"
    let mantissa := match ds with
      | [d] => String.ofList [d]
      | d :: rest => String.ofList (d :: '.' :: rest)
      | [] => "0"
    mantissa ++ "e" ++ sign ++ toString e.natAbs

/-- The text of a finite positive double. -/
def positiveText (b : Binary) : String :=
  let (s, t) := b.shortest
  let ds := Nat.toDigits 10 s
  place Layout.standard ds (t + ds.length)

/-- The text of any double. -/
def numberText (x : Float) : String :=
  if x.isNaN then "NaN"
  else if x == 0 then "0"
  else if x.isInf then (if x < 0 then "-Infinity" else "Infinity")
  else if x < 0 then
    match Binary.ofFloat? (-x) with
    | some b => "-" ++ positiveText b
    | none => "0"
  else
    match Binary.ofFloat? x with
    | some b => positiveText b
    | none => "0"

end ModelTables.Decimal
