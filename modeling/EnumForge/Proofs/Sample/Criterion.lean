import EnumForge.Proofs.Sample.Track
import EnumForge.Sample.Criterion

namespace EnumForge.Sample

open Json

namespace Criterion

def put (draft : Draft) (e : String × String) : Except Cause Draft :=
  match e.1 with
  | "field" =>
    (takeField "field" draft.field (code Sample.field).labelValue e.2).map fun v =>
      { draft with field := v }
  | "value" => (takeField "value" draft.value .ok e.2).map fun v => { draft with value := v }
  | _ => .ok draft

theorem takes_readMember {e : String × String} (he : e.1 ∈ ["field", "value"]) :
    Takes StringText readMember put e := by
  obtain ⟨key, s⟩ := e
  intro v rest t hv _ hcolon draft
  simp only [List.mem_cons, List.not_mem_nil, or_false] at he
  rcases he with rfl | rfl
  · simp only [readMember, String.ofList_toList, put]
    exact readField_of_stringText (code Sample.field).readValue_of_stringText hv hcolon
      fun v => { draft with field := v }
  · simp only [readMember, String.ofList_toList, put]
    exact readField_of_stringText readText_of_stringText hv hcolon
      fun v => { draft with value := v }

/-- An object of fields that a clause has is read as its members make it, in whatever order. -/
theorem ofJson_of_objectText {text : String} {es : List (String × String)}
    (h : ObjectText StringText text.toList es) (hknown : ∀ e ∈ es, e.1 ∈ ["field", "value"]) :
    ∃ place, ofJson text =
      (es.foldlM put ⟨none, none⟩ >>= Draft.finish).mapError fun cause => ⟨cause, some place⟩ :=
  readDocument_of_objectText h fun e he => takes_readMember (hknown e he)

def fields (c : Criterion) : List (String × String) :=
  [("field", (code Sample.field).display c.field), ("value", c.value)]

theorem json_eq (c : Criterion) :
    c.json = recordText (c.fields.map fun e => (e.1, stringText e.2)) := by
  rw [json, FamilyCode.serialized_eq_json]
  rfl

theorem objectText_json (c : Criterion) : ObjectText StringText c.json.toList c.fields := by
  rw [json_eq]
  exact objectText_recordText c.fields

/-- The text of a clause is read as the clause that its code can be read as. -/
theorem ofJson_json (c : Criterion) :
    ∃ place, ofJson c.json =
      (do
        let field ← (code Sample.field).labelValue ((code Sample.field).display c.field)
        .ok (⟨field, c.value⟩ : Criterion)).mapError fun cause => ⟨cause, some place⟩ := by
  obtain ⟨place, hread⟩ := ofJson_of_objectText c.objectText_json (by simp [fields])
  refine ⟨place, hread.trans ?_⟩
  simp only [fields, List.foldlM_cons, List.foldlM_nil, put, takeField, bind, Except.bind]
  cases (code Sample.field).labelValue ((code Sample.field).display c.field) with
  | error cause => rfl
  | ok field => rfl

theorem ofJson_json_eq_ok_iff (c d : Criterion) :
    ofJson c.json = .ok d ↔ d = c ∧ Sample.field.Declares c.field := by
  obtain ⟨place, hread⟩ := c.ofJson_json
  rw [hread, except_mapError_eq_ok_iff]
  simp only [except_bind_eq_ok_iff, FamilyCode.labelValue_eq_ok_iff, code,
    legible_field.fromName?_display_iff]
  constructor
  · rintro ⟨field, ⟨rfl, hfield⟩, h⟩
    exact ⟨(Except.ok.inj h).symm, hfield⟩
  · rintro ⟨rfl, hfield⟩
    exact ⟨d.field, ⟨rfl, hfield⟩, rfl⟩

/-- A code that has been read so far is declared. -/
def Draft.Coded (draft : Draft) : Prop := ∀ v ∈ draft.field, Sample.field.Declares v

theorem Draft.Coded.readMember {draft after : Draft} {key s rest : List Char} (h : draft.Coded)
    (hread : readMember draft key s = .ok (after, rest)) : after.Coded := by
  unfold Criterion.readMember at hread
  split at hread
  · obtain ⟨p, hfield, hread⟩ := (except_bind_eq_ok_iff _ _ _).1 hread
    obtain ⟨rfl, -⟩ := Prod.mk.inj (Except.ok.inj hread)
    exact declares_of_readField legible_field hfield
  · obtain ⟨p, -, hread⟩ := (except_bind_eq_ok_iff _ _ _).1 hread
    obtain ⟨rfl, -⟩ := Prod.mk.inj (Except.ok.inj hread)
    exact h
  · obtain ⟨r, -, hread⟩ := (except_bind_eq_ok_iff _ _ _).1 hread
    obtain ⟨rfl, -⟩ := Prod.mk.inj (Except.ok.inj hread)
    exact h

theorem Draft.Coded.finish {draft : Draft} {c : Criterion} (h : draft.Coded)
    (hfinish : draft.finish = .ok c) : Sample.field.Declares c.field := by
  simp only [Draft.finish, except_bind_eq_ok_iff, required_eq_ok_iff] at hfinish
  obtain ⟨field, hfield, value, -, hfinish⟩ := hfinish
  obtain rfl := Except.ok.inj hfinish
  exact h field hfield

theorem declares_of_readElements {s rest : List Char} {c : Criterion}
    (h : readElements s = .ok (c, rest)) : Sample.field.Declares c.field := by
  simp only [readElements, except_bind_eq_ok_iff] at h
  obtain ⟨field, hfield, value, -, h⟩ := h
  obtain ⟨rfl, -⟩ := Prod.mk.inj (Except.ok.inj h)
  exact declares_of_readElement legible_field hfield

/-- The code of a clause that was read is declared, however the clause was written. -/
theorem declares_of_ofJson {text : String} {c : Criterion} (h : ofJson text = .ok c) :
    Sample.field.Declares c.field := by
  obtain ⟨rest, hread, -⟩ := (readDocument_eq_ok_iff _ _ _).1 h
  have hinit : Draft.Coded ⟨none, none⟩ := by
    simp [Draft.Coded]
  exact readRecordValue_keeps Draft.Coded.readMember hinit Draft.Coded.finish
    declares_of_readElements hread

end Criterion

/-! Both kinds of records. -/

/-- A record that was read from some text is read back from its own, which is written again for it.
Of all tracks, written as objects of three strings, those with declared codes are read back; the text
of any other one has a label that is refused. -/
theorem records_read_back :
    (∀ text t, Track.ofJson text = .ok t →
      Track.ofJson t.json = .ok t ∧ (Track.ofJson t.json).map Track.json = .ok t.json) ∧
    (∀ text c, Criterion.ofJson text = .ok c →
      Criterion.ofJson c.json = .ok c ∧
        (Criterion.ofJson c.json).map Criterion.json = .ok c.json) ∧
    ∀ t : Track,
      ObjectText StringText t.json.toList
        [("name", t.name), ("kind", (code mediaKind).display t.kind),
          ("love", (code loveStatus).display t.love)] ∧
      (Track.ofJson t.json = .ok t ↔ mediaKind.Declares t.kind ∧ loveStatus.Declares t.love) ∧
      (¬(mediaKind.Declares t.kind ∧ loveStatus.Declares t.love) →
        ∃ family label place,
          Track.ofJson t.json = .error ⟨.unknownLabel family label, some place⟩) := by
  refine ⟨?_, ?_, ?_⟩
  · intro text t h
    have hback := (t.ofJson_json_eq_ok_iff t).2 ⟨rfl, Track.coded_of_ofJson h⟩
    exact ⟨hback, by rw [hback]; rfl⟩
  · intro text c h
    have hback := (c.ofJson_json_eq_ok_iff c).2 ⟨rfl, Criterion.declares_of_ofJson h⟩
    exact ⟨hback, by rw [hback]; rfl⟩
  · intro t
    refine ⟨t.objectText_json, ?_, Track.exists_unknownLabel_of_not_coded⟩
    rw [t.ofJson_json_eq_ok_iff]
    exact and_iff_right rfl

/-- A track with its fields in another order, blanks, escapes and a member that it does not know. -/
def rearrangedTrack : String :=
  " \x7b \"love\" : \"Loved\", \"year\": [1, \x7b\"a\": null\x7d],\n" ++
    "\"na\\u006de\": \"x\\\"y\", \"kind\": \"Music\"\x7d"

theorem rearrangedTrack_read_back :
    let t : Track := ⟨"x\"y", 1, 2⟩
    let c : Criterion := ⟨23, "2024"⟩
    Track.ofJson rearrangedTrack = .ok t ∧ Track.ofJson t.json = .ok t ∧
      Criterion.ofJson "[\"play_date_utc\", \"2024\"]" = .ok c ∧ Criterion.ofJson c.json = .ok c ∧
      ¬mediaKind.Declares 3 ∧
      ∃ family label place,
        Track.ofJson (Track.json ⟨"x\"y", 3, 2⟩) =
          .error ⟨.unknownLabel family label, some place⟩ := by
  have hkind : mediaKind = _ := family_eq (by decide +kernel)
  have hlove : loveStatus = _ := family_eq (by decide +kernel)
  have hfield : field = _ := family_eq (by decide +kernel)
  have htrack : Track.ofJson rearrangedTrack = .ok ⟨"x\"y", 1, 2⟩ := by
    unfold Track.ofJson
    delta Track.readMember Track.readElements
    rw [hkind, hlove]
    decide +kernel
  have hclause : Criterion.ofJson "[\"play_date_utc\", \"2024\"]" = .ok ⟨23, "2024"⟩ := by
    unfold Criterion.ofJson
    delta Criterion.readMember Criterion.readElements
    rw [hfield]
    decide +kernel
  have hundeclared : ¬mediaKind.Declares 3 := by
    rw [hkind]
    decide +kernel
  exact ⟨htrack, (records_read_back.1 _ _ htrack).1, hclause, (records_read_back.2.1 _ _ hclause).1,
    hundeclared, (records_read_back.2.2 ⟨"x\"y", 3, 2⟩).2.2 fun h => hundeclared h.1⟩

end EnumForge.Sample
