import SqlWorkload.Number.Binary64
/-!
# Shortest decimals

The decimal with the fewest digits among those that round to a finite binary64 number, and the
nearest of them if there are several. All decimals between the midpoints to the two neighbours
round to the number, the midpoints themselves if its last bit is even. For each count of digits it
is enough to look at the two decimals around the exact value.
-/

namespace SqlWorkload.Binary64

/-- The greatest `e` with `10 ^ e ≤ n / d`, for positive `n` and `d`. -/
def decimalExponent (n d : Nat) : Int :=
  if d ≤ n then ((Nat.toDigits 10 (n / d)).length : Int) - 1
  else
    let e := (Nat.toDigits 10 (d / n)).length
    if n * Nat.pow 10 (e - 1) < d then -e else -(e - 1 : Nat)

/-- Whether the decimal `k * 10 ^ e` rounds to the number. In quarters of the number's unit the
number is `4 * m`, the midpoint above it `4 * m + 2`, and the midpoint below it `4 * m - 2`, or
`4 * m - 1` where the numbers below lie closer together. -/
def readsBack (p : Binary64) (k : Nat) (e : Int) : Bool :=
  let m := p.significand
  let below := if p.fraction.val = 0 ∧ 1 < p.exponent.val then 4 * m - 1 else 4 * m - 2
  -- both sides of `k * 10 ^ e = x * 2 ^ (scale - 1076)` over a common denominator
  let side (x : Nat) := (x <<< p.scale) * Nat.pow 10 (-e).toNat
  let value := (k * Nat.pow 10 e.toNat) <<< 1076
  if m % 2 = 0 then side below ≤ value && value ≤ side (4 * m + 2)
  else side below < value && value < side (4 * m + 2)

/-- The nearer of two neighbouring decimals that round to the number, if any does. -/
def nearerOf (p : Binary64) (e : Int) : Option Nat :=
  let n := p.num * Nat.pow 10 (-e).toNat
  let d := p.den * Nat.pow 10 e.toNat
  let low := n / d
  match p.readsBack low e, p.readsBack (low + 1) e with
  | true, true => some (roundDiv n d)
  | true, false => some low
  | false, true => some (low + 1)
  | false, false => none

/-- Looks for a decimal of `count` digits, then of one more, at most `fuel` times. -/
def shortestFrom (p : Binary64) (exponent : Int) : (fuel count : Nat) → Nat × Int
  | 0, _ => (0, 0)
  | fuel + 1, count =>
    let e := exponent - (count - 1 : Nat)
    match p.nearerOf e with
    | some k => (k, e)
    | none => shortestFrom p exponent fuel (count + 1)

/-- Digits and exponent of the shortest decimal; 17 digits are always enough. A decimal above a run
of nines comes out as ten units, which are one of the next. -/
def shortest (p : Binary64) : Nat × Int :=
  if p.isZero then (0, 0)
  else
    let (k, e) := p.shortestFrom (decimalExponent p.num p.den) 17 1
    if k = 10 then (1, e + 1) else (k, e)

end SqlWorkload.Binary64
