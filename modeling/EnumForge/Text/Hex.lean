namespace EnumForge.Text

/-- Lower-case hexadecimal digits, without leading zeros. -/
def hexLower (n : Nat) : List Char := Nat.toDigits 16 n

/-- Upper-case hexadecimal digits, without leading zeros. -/
def hexUpper (n : Nat) : List Char := (hexLower n).map Char.toUpper

def hexDigit? (c : Char) : Option Nat :=
  if '0' ≤ c ∧ c ≤ '9' then some (c.toNat - '0'.toNat)
  else if 'a' ≤ c ∧ c ≤ 'f' then some (c.toNat - 'a'.toNat + 10)
  else if 'A' ≤ c ∧ c ≤ 'F' then some (c.toNat - 'A'.toNat + 10)
  else none

def hexValue? (digits : List Char) : Option Nat :=
  digits.foldlM (fun n c => (hexDigit? c).map (16 * n + ·)) 0

/-- At least `width` lower-case hexadecimal digits. -/
def hexPadded (width n : Nat) : List Char :=
  List.replicate (width - (hexLower n).length) '0' ++ hexLower n

end EnumForge.Text
