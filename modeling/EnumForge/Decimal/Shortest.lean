import EnumForge.Decimal.Binary64

namespace EnumForge.Decimal

open Binary64

/-- The number `digits * 10 ^ exponent`. -/
structure Scaled where
  digits : Nat
  exponent : Int
deriving DecidableEq, Repr

/-- The numbers that round to `x` lie between `low` and `high` quarters of its last place; the ends
belong to it when the mantissa is even. Below a power of two the spacing is half as wide. -/
structure Neighbourhood where
  low : Nat
  value : Nat
  high : Nat
  closed : Bool

def neighbourhood (x : Binary64) : Neighbourhood where
  low := 4 * x.mantissa - (if x.mantissa = Nat.pow 2 52 ∧ x.exponent > minExponent then 1 else 2)
  value := 4 * x.mantissa
  high := 4 * x.mantissa + 2
  closed := x.mantissa % 2 = 0

def tenRatio (k : Int) : Nat × Nat := (Nat.pow 10 k.toNat, Nat.pow 10 (-k).toNat)

def twoRatio (k : Int) : Nat × Nat := (Nat.pow 2 k.toNat, Nat.pow 2 (-k).toNat)

/-- The multiple `d` of `10 ^ k` that reads back as `x` and is nearest to it, if there is one. Both
sides are scaled to whole numbers: `quarter` is a quarter of the last place and `unit` is `10 ^ k`.
-/
def onGrid (x : Binary64) (k : Int) : Option Nat :=
  let n := neighbourhood x
  let q := twoRatio (x.exponent - 2)
  let t := tenRatio k
  let quarter := q.1 * t.2
  let unit := t.1 * q.2
  let inside := fun d =>
    if n.closed then n.low * quarter ≤ d * unit && d * unit ≤ n.high * quarter
    else n.low * quarter < d * unit && d * unit < n.high * quarter
  let below := n.value * quarter / unit
  let above := below + 1
  let toBelow := n.value * quarter - below * unit
  let toAbove := above * unit - n.value * quarter
  if inside below && inside above then
    some (if toBelow < toAbove ∨ (toBelow = toAbove ∧ below % 2 = 0) then below else above)
  else if inside below && below > 0 then some below
  else if inside above then some above
  else none

/-- Exponent of the leading decimal digit of a positive ratio. -/
def leadingExponent (num den : Nat) : Int :=
  if den ≤ num then ((Nat.toDigits 10 (num / den)).length : Int) - 1
  else
    let k := (Nat.toDigits 10 (den / num)).length
    if den ≤ num * Nat.pow 10 (k - 1) then -((k : Int) - 1) else -(k : Int)

/-- Tries grids of `count`, `count + 1`, … digits, `fuel` of them. -/
def shortestFrom (x : Binary64) (lead : Int) (count : Nat) : Nat → Scaled
  | 0 => ⟨0, 0⟩
  | fuel + 1 =>
    let k := lead + 1 - count
    match onGrid x k with
    | some d => ⟨d, k⟩
    | none => shortestFrom x lead (count + 1) fuel

def trimZeros (digits : Nat) (exponent : Int) : Scaled :=
  if h : digits ≠ 0 ∧ digits % 10 = 0 then trimZeros (digits / 10) (exponent + 1)
  else ⟨digits, exponent⟩
termination_by digits
decreasing_by omega

/-- Shortest decimal of a number; seventeen digits always suffice. -/
def shortest (x : Binary64) : Scaled :=
  if x.mantissa = 0 then ⟨0, 0⟩
  else
    let d := shortestFrom x (leadingExponent x.ratio.1 x.ratio.2) 1 18
    trimZeros d.digits d.exponent

end EnumForge.Decimal
