namespace EnumForge.Decimal

/-- The number `mantissa * 2 ^ exponent`. -/
structure Binary64 where
  mantissa : Nat
  exponent : Int
deriving DecidableEq, Repr

namespace Binary64

/-- Least exponent; numbers below `2 ^ 52` at this exponent are subnormal. -/
def minExponent : Int := -1074

def maxExponent : Int := 971

def zero : Binary64 := ⟨0, minExponent⟩

/-- The quotient, to the nearest whole number, a tie to the even one. -/
def roundDiv (num den : Nat) : Nat :=
  let q := num / den
  let r := num % den
  if 2 * r < den then q
  else if 2 * r > den then q + 1
  else q + q % 2

/-- `num / den / 2 ^ e` as a ratio of whole numbers. -/
def scaleRatio (num den : Nat) (e : Int) : Nat × Nat :=
  (num * Nat.pow 2 (-e).toNat, den * Nat.pow 2 e.toNat)

/-- The exponent at which `num / den` has 53 significant bits, not below the least one. -/
def exponentOf (num den : Nat) : Int :=
  let guess : Int := num.log2 - den.log2 - 52
  let (n, d) := scaleRatio num den guess
  let exact := if n < Nat.pow 2 52 * d then guess - 1 else guess
  max exact minExponent

/-- The binary64 number nearest to `num / den`; none when it is too large for a finite one. -/
def ofRatio? (num den : Nat) : Option Binary64 :=
  if num = 0 then some zero
  else
    let e := exponentOf num den
    let (n, d) := scaleRatio num den e
    let m := roundDiv n d
    let (m, e) := if m = Nat.pow 2 53 then (Nat.pow 2 52, e + 1) else (m, e)
    if e > maxExponent then none else some ⟨m, e⟩

/-- The binary64 number nearest to a whole number. -/
def ofNat? (n : Nat) : Option Binary64 := ofRatio? n 1

def ratio (x : Binary64) : Nat × Nat :=
  (x.mantissa * Nat.pow 2 x.exponent.toNat, Nat.pow 2 (-x.exponent).toNat)

def add? (x y : Binary64) : Option Binary64 :=
  ofRatio? (x.ratio.1 * y.ratio.2 + y.ratio.1 * x.ratio.2) (x.ratio.2 * y.ratio.2)

def mul? (x y : Binary64) : Option Binary64 :=
  ofRatio? (x.ratio.1 * y.ratio.1) (x.ratio.2 * y.ratio.2)

/-- Rounded quotient; the divisor is not zero. -/
def div? (x y : Binary64) : Option Binary64 :=
  ofRatio? (x.ratio.1 * y.ratio.2) (x.ratio.2 * y.ratio.1)

def isWhole (x : Binary64) : Bool := x.ratio.1 % x.ratio.2 = 0

def isBelow (x y : Binary64) : Bool := x.ratio.1 * y.ratio.2 < y.ratio.1 * x.ratio.2

def atLeast (x : Binary64) (n : Nat) : Bool := n * x.ratio.2 ≤ x.ratio.1

/-- Greatest power of ten that is used in one step of scaling. -/
def largestPower : Nat := 308

/-- The power of ten nearest to `10 ^ n`. -/
def powerOfTen? (n : Nat) : Option Binary64 := ofNat? (Nat.pow 10 n)

/-- Divides by `10 ^ n`, rounding after each division by at most `10 ^ 308`. -/
def divPowerOfTen? (x : Binary64) (n : Nat) : Option Binary64 :=
  if n ≤ largestPower then do x.div? (← powerOfTen? n)
  else if x.mantissa = 0 then some x
  else do divPowerOfTen? (← x.div? (← powerOfTen? largestPower)) (n - largestPower)
termination_by n
decreasing_by simp_all [largestPower]; omega

/-- Multiplies by `10 ^ n`; only zero stays finite past the largest power of ten. -/
def mulPowerOfTen? (x : Binary64) (n : Nat) : Option Binary64 :=
  if n ≤ largestPower then do x.mul? (← powerOfTen? n)
  else if x.mantissa = 0 then some x
  else none

/-- Reads `significand * 10 ^ exponent`: the significand is rounded first, and the scaling rounds
again, so the result may differ from the nearest number in its last bit. -/
def ofScaled? (significand : Nat) (exponent : Int) : Option Binary64 := do
  let x ← ofNat? significand
  if 0 ≤ exponent then x.mulPowerOfTen? exponent.toNat
  else x.divPowerOfTen? (-exponent).toNat

end Binary64

end EnumForge.Decimal
