import Stencil.Number.Binary64

/-! The shortest decimal that reads back as a given double. On the grid of `n` digits only the two
    neighbours of the value can be nearest to it, so the digits are found by testing these two for
    growing `n`; the first grid with a hit wins, and of two hits the nearer one. -/

namespace Stencil.Binary64

/-- The digits and the exponent of a decimal `0.d₁d₂… · 10^point`. -/
structure Digits where
  digits : List Char
  point : Int
  deriving Repr, DecidableEq

/-- Counts from `k` the powers of ten that `u` needs to reach one, at most `fuel` more. -/
def leadingPower (u : Nat) : Nat → Nat → Nat
  | 0, k => k
  | fuel + 1, k => if one ≤ u * Nat.pow 10 k then k else leadingPower u fuel (k + 1)

/-- The exponent `e` with `10^e ≤ u < 10^(e+1)` of a positive magnitude in units. -/
def decimalExponent (u : Nat) : Int :=
  if one ≤ u then ((toString (u / one)).length : Int) - 1
  else -(leadingPower u 330 1 : Int)

/-- The value of `m · 10^k` as a quotient of units. -/
def gridRatio (m : Nat) (k : Int) : Nat × Nat :=
  if 0 ≤ k then (m * Nat.pow 10 k.toNat * one, 1) else (m * one, Nat.pow 10 (-k).toNat)

/-- The point of the grid of step `10^k` that reads back as `u` and is nearest to it, if one of the
    two neighbours does. -/
def gridHit? (u : Nat) (k : Int) : Option Nat :=
  let scaled : Nat × Nat := if 0 ≤ k then (u, Nat.pow 10 k.toNat * one) else (u * Nat.pow 10 (-k).toNat, one)
  let low := scaled.1 / scaled.2
  let readsBack (m : Nat) : Bool := let (a, b) := gridRatio m k; nearest a b == u
  let twice := 2 * (scaled.1 % scaled.2)
  -- the nearer neighbour comes first, of two that are as near the even one
  let lowFirst := twice < scaled.2 || (twice == scaled.2 && low % 2 == 0)
  let (first, second) := if lowFirst then (low, low + 1) else (low + 1, low)
  if readsBack first then some first else if readsBack second then some second else none

/-- Tries the grids of `n`, `n + 1`, … digits. -/
def shortestFrom (u : Nat) (e : Int) : Nat → Nat → Nat × Int
  | 0, n => (u, e - n + 1)
  | fuel + 1, n =>
    match gridHit? u (e - n + 1) with
    | some m => (m, e - n + 1)
    | none => shortestFrom u e fuel (n + 1)

/-- Drops the zeros at the end of a numeral. -/
def trimZeros (ds : List Char) : List Char := (ds.reverse.dropWhile (· == '0')).reverse

/-- The shortest digits of a positive magnitude in units. -/
def shortest (u : Nat) : Digits :=
  let e := decimalExponent u
  let (m, k) := shortestFrom u e 17 1
  let ds := (toString m).toList
  { digits := trimZeros ds, point := ds.length + k }

/-- The exponent part: a sign and at least two digits. -/
def exponentText (e : Int) : String :=
  let ds := toString e.natAbs
  (if e < 0 then "e-" else "e+") ++ (if ds.length < 2 then "0" ++ ds else ds)

/-- Positional notation from 10⁻⁴ up to 10¹⁶, always with a point; an exponent elsewhere. -/
def layout (d : Digits) : String :=
  let n : Int := d.digits.length
  if -4 < d.point ∧ d.point ≤ 16 then
    if d.point ≤ 0 then
      "0." ++ String.ofList (List.replicate (-d.point).toNat '0' ++ d.digits)
    else if d.point < n then
      String.ofList (d.digits.take d.point.toNat ++ '.' :: d.digits.drop d.point.toNat)
    else String.ofList (d.digits ++ List.replicate (d.point - n).toNat '0') ++ ".0"
  else
    let head := d.digits.take 1
    let tail := d.digits.drop 1
    String.ofList (if tail.isEmpty then head else head ++ '.' :: tail) ++ exponentText (d.point - 1)

/-- The text of a double. -/
def toText : Binary64 → String
  | .nan => "nan"
  | .infinity s => if s then "-inf" else "inf"
  | .finite s 0 => if s then "-0.0" else "0.0"
  | .finite s u => (if s then "-" else "") ++ layout (shortest u)

end Stencil.Binary64
