namespace EnumForge

/-- A signal, by its number. -/
structure Signal where
  number : Nat
deriving DecidableEq, Repr

namespace Signal

/-- Names of the signals from the first one on. -/
def names : List String :=
  ["HUP", "INT", "QUIT", "ILL", "TRAP", "ABRT", "BUS", "FPE", "KILL", "USR1", "SEGV", "USR2",
   "PIPE", "ALRM", "TERM", "STKFLT", "CHLD", "CONT", "STOP", "TSTP", "TTIN", "TTOU", "URG", "XCPU",
   "XFSZ", "VTALRM", "PROF", "WINCH", "IO", "PWR", "SYS"]

/-- The signal that asks a process to end. -/
def terminate : Signal := ⟨15⟩

/-- The signal that ends a process at once. -/
def kill : Signal := ⟨9⟩

def largest : Nat := 64

/-- The name of a signal; signals past the named ones have none. -/
def name? (s : Signal) : Option String := if s.number = 0 then none else names[s.number - 1]?

/-- The signal with a name, in letters of either case. -/
def ofName? (name : String) : Option Signal :=
  let i := names.findIdx (· == String.ofList (name.toList.map Char.toUpper))
  if i < names.length then some ⟨i + 1⟩ else none

/-- Whether a process that does nothing about the signal goes on. -/
def isPassedOver (s : Signal) : Bool := s.number ∈ [0, 17, 18, 23, 28]

/-- The number, and the name in parentheses. -/
def text (s : Signal) : String :=
  match s.name? with
  | some name => s!"{s.number} (SIG{name})"
  | none => toString s.number

end Signal

end EnumForge
