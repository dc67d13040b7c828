import EnumForge.Error

namespace EnumForge

/-- What takes bytes: how many of those offered it takes after those that have arrived, or why it
takes none, and whether it can be flushed. -/
structure Writer where
  take : (arrived offered : List UInt8) → Except FileError Nat
  flush : (arrived : List UInt8) → Except FileError Unit
  take_le : ∀ arrived offered n, take arrived offered = .ok n → n ≤ offered.length

namespace Writer

/-- Why bytes are not written where none of those offered is taken. -/
def stalled : FileError := .other "failed to write whole buffer"

/-- Offers bytes until all of them have arrived. -/
def writeAll (w : Writer) (arrived : List UInt8) : List UInt8 → Except FileError Unit × List UInt8
  | [] => (.ok (), arrived)
  | b :: bs =>
    match w.take arrived (b :: bs) with
    | .error e => (.error e, arrived)
    | .ok 0 => (.error stalled, arrived)
    | .ok (n + 1) => w.writeAll (arrived ++ b :: bs.take n) (bs.drop n)
termination_by offered => offered.length

/-- Name that stands for a writer in errors. -/
def path : String := "<writer>"

/-- Writes bytes and flushes: how many were written, or the error, and what arrived. -/
def write (w : Writer) (bytes : List UInt8) : Except Error Nat × List UInt8 :=
  let (done, arrived) := w.writeAll [] bytes
  let flushed := done.bind fun () => w.flush arrived
  ((flushed.map fun () => bytes.length).mapError (.outputWrite path), arrived)

end Writer

end EnumForge
