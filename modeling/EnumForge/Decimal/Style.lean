import EnumForge.Decimal.Shortest

namespace EnumForge.Decimal

/-- Exponents of the leading digit between which a number is written positionally. -/
structure Style where
  least : Int
  greatest : Int

/-- Numbers from 0.00001 up to, but not including, 10^16 are written positionally. -/
def Style.number : Style := ⟨-5, 15⟩

/-- Digits of a decimal whose point stands `point` places after the first digit; a whole number
keeps `.0`. -/
def positional (digits : List Char) (point : Int) : List Char :=
  if point ≤ 0 then ['0', '.'] ++ List.replicate (-point).toNat '0' ++ digits
  else if digits.length ≤ point.toNat then
    digits ++ List.replicate (point.toNat - digits.length) '0' ++ ['.', '0']
  else digits.take point.toNat ++ '.' :: digits.drop point.toNat

/-- One digit before the point, and the exponent with its sign. -/
def scientific (digits : List Char) (exponent : Int) : List Char :=
  let mantissa :=
    match digits with
    | d :: e :: ds => d :: '.' :: e :: ds
    | ds => ds
  mantissa ++ 'e' :: (if exponent < 0 then '-' else '+') :: Nat.toDigits 10 exponent.natAbs

/-- Shortest text of a number in a style. -/
def Style.write (style : Style) (x : Binary64) : List Char :=
  let d := shortest x
  let digits := Nat.toDigits 10 d.digits
  let lead := d.exponent + digits.length - 1
  if d.digits = 0 then ['0', '.', '0']
  else if style.least ≤ lead ∧ lead ≤ style.greatest then positional digits (lead + 1)
  else scientific digits lead

end EnumForge.Decimal
