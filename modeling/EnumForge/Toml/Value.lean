import EnumForge.Decimal.Style

namespace EnumForge.Toml

/-- A real number: infinite, no number, or finite. -/
inductive Real
  | infinite (minus : Bool)
  | notANumber
  | finite (minus : Bool) (magnitude : Decimal.Binary64)
deriving DecidableEq, Repr

/-- A value. Dates and times are told apart from other values but not taken apart. A number that is
written with more digits than a word can hold is a value that cannot be used. -/
inductive Value
  | string (s : String)
  | integer (n : Int)
  | real (x : Real)
  | overflow
  | bool (b : Bool)
  | time
  | array (items : List Value)
  | table (entries : List (String × Value))
deriving Repr, Inhabited

mutual

/-- Whether every number in a value can be held. -/
def Value.isHeld : Value → Bool
  | .overflow => false
  | .array items => itemsAreHeld items
  | .table entries => entriesAreHeld entries
  | _ => true

def itemsAreHeld : List Value → Bool
  | [] => true
  | v :: vs => v.isHeld && itemsAreHeld vs

def entriesAreHeld : List (String × Value) → Bool
  | [] => true
  | (_, v) :: es => v.isHeld && entriesAreHeld es

end

/-- All digits of a real number, without a power of ten. -/
def Real.text : Real → String
  | .infinite minus => if minus then "-inf" else "inf"
  | .notANumber => "NaN"
  | .finite minus x =>
    let d := Decimal.shortest x
    let digits := Nat.toDigits 10 d.digits
    String.ofList ((if minus then ['-'] else []) ++
      if d.digits = 0 then ['0', '.', '0']
      else Decimal.positional digits (d.exponent + digits.length))

end EnumForge.Toml
