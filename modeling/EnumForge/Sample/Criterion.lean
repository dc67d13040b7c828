import EnumForge.Sample.Track

namespace EnumForge.Sample

open Json

/-- One clause of a smart playlist. -/
structure Criterion where
  field : UInt64
  value : String
deriving DecidableEq, Repr

structure Criterion.Draft where
  field : Option UInt64
  value : Option String

namespace Criterion

def readMember : MemberReader Draft := fun draft key s =>
  match String.ofList key with
  | "field" => do
    let (v, rest) ← readField "field" draft.field (code Sample.field).readValue s
    .ok ({ draft with field := v }, rest)
  | "value" => do
    let (v, rest) ← readField "value" draft.value readText s
    .ok ({ draft with value := v }, rest)
  | _ => do .ok (draft, ← skipMember s)

/-- Both fields are needed. -/
def Draft.finish (draft : Draft) : Except Cause Criterion := do
  let field ← required "field" draft.field
  let value ← required "value" draft.value
  .ok ⟨field, value⟩

def readElements : ValueReader Criterion := fun s => do
  let expected := "struct Criterion with 2 elements"
  let (field, s) ← readElement expected 0 (code Sample.field).readValue s
  let (value, s) ← readElement expected 1 readText s
  .ok (⟨field, value⟩, s)

def ofJson (text : String) : Except Json.Error Criterion :=
  readDocument (readRecordValue "Criterion" readMember ⟨none, none⟩ Draft.finish readElements) text

def json (c : Criterion) : String :=
  recordText [("field", (code Sample.field).serialized c.field), ("value", stringText c.value)]

end Criterion

end EnumForge.Sample
