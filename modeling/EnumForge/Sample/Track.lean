import EnumForge.Json.Record
import EnumForge.Sample.Tables
import EnumForge.Value.Json

namespace EnumForge.Sample

open Json

/-- A track as a media player exports it. -/
structure Track where
  name : String
  kind : UInt64
  love : UInt64
deriving DecidableEq, Repr

structure Track.Draft where
  name : Option String
  kind : Option UInt64
  love : Option UInt64

def readText : ValueReader String := fun s => do
  let (t, rest) ← readStringValue s
  .ok (String.ofList t, rest)

namespace Track

def readMember : MemberReader Draft := fun draft key s =>
  match String.ofList key with
  | "name" => do
    let (v, rest) ← readField "name" draft.name readText s
    .ok ({ draft with name := v }, rest)
  | "kind" => do
    let (v, rest) ← readField "kind" draft.kind (code mediaKind).readValue s
    .ok ({ draft with kind := v }, rest)
  | "love" => do
    let (v, rest) ← readField "love" draft.love (code loveStatus).readValue s
    .ok ({ draft with love := v }, rest)
  | _ => do .ok (draft, ← skipMember s)

/-- All fields are needed. -/
def Draft.finish (draft : Draft) : Except Cause Track := do
  let name ← required "name" draft.name
  let kind ← required "kind" draft.kind
  let love ← required "love" draft.love
  .ok ⟨name, kind, love⟩

def readElements : ValueReader Track := fun s => do
  let expected := "struct Track with 3 elements"
  let (name, s) ← readElement expected 0 readText s
  let (kind, s) ← readElement expected 1 (code mediaKind).readValue s
  let (love, s) ← readElement expected 2 (code loveStatus).readValue s
  .ok (⟨name, kind, love⟩, s)

def ofJson (text : String) : Except Json.Error Track :=
  readDocument
    (readRecordValue "Track" readMember ⟨none, none, none⟩ Draft.finish readElements) text

def json (t : Track) : String :=
  recordText [("name", stringText t.name), ("kind", (code mediaKind).serialized t.kind),
    ("love", (code loveStatus).serialized t.love)]

def isLoved (t : Track) : Bool := (code loveStatus).fromName? "Loved" == some t.love

end Track

end EnumForge.Sample
