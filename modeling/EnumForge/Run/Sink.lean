import EnumForge.Format.Canonical
import EnumForge.Generation
import EnumForge.Run.Writer
import EnumForge.Text.Utf8

namespace EnumForge

open EnumForge.Text

/-- A sink: how many bytes it accepts, if that is limited, and whether it can be flushed. -/
structure Sink where
  limit : Option Nat
  flushes : Bool

namespace Sink

/-- A sink takes all that it has room for, and nothing once it is full. -/
def writer (sink : Sink) : Writer where
  take := fun arrived offered =>
    match sink.limit with
    | none => .ok offered.length
    | some n =>
      if n ≤ arrived.length then .error (.other "sink full")
      else .ok (min (n - arrived.length) offered.length)
  flush := fun _ => if sink.flushes then .ok () else .error (.other "flush refused")
  take_le := by
    intro arrived offered n h
    split at h
    · obtain rfl := Except.ok.inj h
      exact Nat.le_refl _
    · split at h
      · simp at h
      · obtain rfl := Except.ok.inj h
        exact Nat.min_le_right _ _

/-- Writes bytes: how many were written, or the error, and what arrived. -/
def write (sink : Sink) (bytes : List UInt8) : Except Error Nat × List UInt8 :=
  sink.writer.write bytes

end Sink

def produce (library : Library) (options : Options) (formatter : Formatter)
    (policy : FailurePolicy) : Checked Failure Canonical := do
  let source ← generate library options
  canonicalize formatter source policy

/-- Generates code and writes it: the number of bytes written, and what arrived. -/
def generateTo (writer : Writer) (library : Library) (options : Options) (formatter : Formatter) :
    Checked Failure Nat × List UInt8 :=
  let produced := produce library options formatter .fail
  match produced.result with
  | .error e => (⟨produced.warnings, .error e⟩, [])
  | .ok canonical =>
    let (written, arrived) := writer.write (utf8 canonical.text.toList)
    (⟨produced.warnings, written.mapError .reported⟩, arrived)

/-- Generates code into a sink: the number of bytes written, and what arrived. -/
def generateInto (sink : Sink) (library : Library) (options : Options) (formatter : Formatter) :
    Checked Failure Nat × List UInt8 :=
  generateTo sink.writer library options formatter

end EnumForge
