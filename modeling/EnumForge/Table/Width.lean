namespace EnumForge

/-- Width of the unsigned integer behind a generated type. -/
inductive Width
  | u8
  | u16
  | u32
  | u64
deriving DecidableEq, Repr

namespace Width

/-- The width that is used when none is chosen. -/
protected def default : Width := .u32

def bits : Width → Nat
  | u8 => 8
  | u16 => 16
  | u32 => 32
  | u64 => 64

def maxValue (w : Width) : Nat := Nat.pow 2 w.bits - 1

/-- Whether a value can be held. -/
def fits (w : Width) (value : UInt64) : Bool := value.toNat ≤ w.maxValue

def typeName : Width → String
  | u8 => "u8"
  | u16 => "u16"
  | u32 => "u32"
  | u64 => "u64"

/-- All widths, the narrowest first. -/
def all : List Width := [u8, u16, u32, u64]

def ofName? (name : String) : Option Width := all.find? (·.typeName == name)

theorem ofName?_typeName (w : Width) : ofName? w.typeName = some w := by
  cases w <;> rfl

theorem fits_iff (w : Width) (value : UInt64) :
    w.fits value = true ↔ value.toNat < Nat.pow 2 w.bits := by
  have : 0 < Nat.pow 2 w.bits := Nat.two_pow_pos _
  rw [fits, maxValue, decide_eq_true_iff]
  omega

theorem fits_of_bits_le {v w : Width} (h : v.bits ≤ w.bits) {value : UInt64}
    (hv : v.fits value = true) : w.fits value = true := by
  rw [fits_iff] at *
  exact Nat.lt_of_lt_of_le hv (Nat.pow_le_pow_right (by decide) h)

end Width

end EnumForge
