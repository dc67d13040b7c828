import EnumForge.Proofs.Sample.Code

namespace EnumForge.Sample

open Json

namespace Track

def put (draft : Draft) (e : String × String) : Except Cause Draft :=
  match e.1 with
  | "name" => (takeField "name" draft.name .ok e.2).map fun v => { draft with name := v }
  | "kind" =>
    (takeField "kind" draft.kind (code mediaKind).labelValue e.2).map fun v =>
      { draft with kind := v }
  | "love" =>
    (takeField "love" draft.love (code loveStatus).labelValue e.2).map fun v =>
      { draft with love := v }
  | _ => .ok draft

theorem takes_readMember {e : String × String} (he : e.1 ∈ ["name", "kind", "love"]) :
    Takes StringText readMember put e := by
  obtain ⟨key, s⟩ := e
  intro v rest t hv _ hcolon draft
  simp only [List.mem_cons, List.not_mem_nil, or_false] at he
  rcases he with rfl | rfl | rfl
  · simp only [readMember, String.ofList_toList, put]
    exact readField_of_stringText readText_of_stringText hv hcolon
      fun v => { draft with name := v }
  · simp only [readMember, String.ofList_toList, put]
    exact readField_of_stringText (code mediaKind).readValue_of_stringText hv hcolon
      fun v => { draft with kind := v }
  · simp only [readMember, String.ofList_toList, put]
    exact readField_of_stringText (code loveStatus).readValue_of_stringText hv hcolon
      fun v => { draft with love := v }

/-- An object of fields that a track has is read as its members make it, in whatever order. -/
theorem ofJson_of_objectText {text : String} {es : List (String × String)}
    (h : ObjectText StringText text.toList es) (hknown : ∀ e ∈ es, e.1 ∈ ["name", "kind", "love"]) :
    ∃ place, ofJson text =
      (es.foldlM put ⟨none, none, none⟩ >>= Draft.finish).mapError
        fun cause => ⟨cause, some place⟩ :=
  readDocument_of_objectText h fun e he => takes_readMember (hknown e he)

def fields (t : Track) : List (String × String) :=
  [("name", t.name), ("kind", (code mediaKind).display t.kind),
    ("love", (code loveStatus).display t.love)]

theorem json_eq (t : Track) : t.json = recordText (t.fields.map fun e => (e.1, stringText e.2)) := by
  rw [json, FamilyCode.serialized_eq_json, FamilyCode.serialized_eq_json]
  rfl

theorem objectText_json (t : Track) : ObjectText StringText t.json.toList t.fields := by
  rw [json_eq]
  exact objectText_recordText t.fields

/-- The text of a track is read as the track that its codes can be read as. -/
theorem ofJson_json (t : Track) :
    ∃ place, ofJson t.json =
      (do
        let kind ← (code mediaKind).labelValue ((code mediaKind).display t.kind)
        let love ← (code loveStatus).labelValue ((code loveStatus).display t.love)
        .ok (⟨t.name, kind, love⟩ : Track)).mapError fun cause => ⟨cause, some place⟩ := by
  obtain ⟨place, hread⟩ := ofJson_of_objectText t.objectText_json (by simp [fields])
  refine ⟨place, hread.trans ?_⟩
  simp only [fields, List.foldlM_cons, List.foldlM_nil, put, takeField, bind, Except.bind]
  cases (code mediaKind).labelValue ((code mediaKind).display t.kind) with
  | error cause => rfl
  | ok kind =>
    cases (code loveStatus).labelValue ((code loveStatus).display t.love) with
    | error cause => rfl
    | ok love => rfl

/-- A track whose codes are declared. -/
def Coded (t : Track) : Prop := mediaKind.Declares t.kind ∧ loveStatus.Declares t.love

theorem ofJson_json_eq_ok_iff (t u : Track) : ofJson t.json = .ok u ↔ u = t ∧ t.Coded := by
  obtain ⟨place, hread⟩ := t.ofJson_json
  rw [hread, except_mapError_eq_ok_iff]
  simp only [except_bind_eq_ok_iff, FamilyCode.labelValue_eq_ok_iff, code,
    legible_mediaKind.fromName?_display_iff, legible_loveStatus.fromName?_display_iff]
  constructor
  · rintro ⟨kind, ⟨rfl, hkind⟩, love, ⟨rfl, hlove⟩, h⟩
    exact ⟨(Except.ok.inj h).symm, hkind, hlove⟩
  · rintro ⟨rfl, hkind, hlove⟩
    exact ⟨u.kind, ⟨rfl, hkind⟩, u.love, ⟨rfl, hlove⟩, rfl⟩

/-- What keeps a track from being read back is a label that is not declared. -/
theorem exists_unknownLabel_of_not_coded {t : Track} (h : ¬t.Coded) :
    ∃ family label place, ofJson t.json = .error ⟨.unknownLabel family label, some place⟩ := by
  obtain ⟨place, hread⟩ := t.ofJson_json
  cases hkind : (code mediaKind).labelValue ((code mediaKind).display t.kind) with
  | error cause =>
    obtain rfl := FamilyCode.labelValue_eq_error hkind
    rw [hkind] at hread
    exact ⟨_, _, place, hread⟩
  | ok kind =>
    cases hlove : (code loveStatus).labelValue ((code loveStatus).display t.love) with
    | error cause =>
      obtain rfl := FamilyCode.labelValue_eq_error hlove
      rw [hkind, hlove] at hread
      exact ⟨_, _, place, hread⟩
    | ok love =>
      rw [hkind, hlove] at hread
      exact absurd ((t.ofJson_json_eq_ok_iff _).1 hread).2 h

/-- Codes that have been read so far are declared. -/
def Draft.Coded (draft : Draft) : Prop :=
  (∀ v ∈ draft.kind, mediaKind.Declares v) ∧ ∀ v ∈ draft.love, loveStatus.Declares v

theorem Draft.Coded.readMember {draft after : Draft} {key s rest : List Char} (h : draft.Coded)
    (hread : readMember draft key s = .ok (after, rest)) : after.Coded := by
  unfold Track.readMember at hread
  split at hread
  · obtain ⟨p, -, hread⟩ := (except_bind_eq_ok_iff _ _ _).1 hread
    obtain ⟨rfl, -⟩ := Prod.mk.inj (Except.ok.inj hread)
    exact h
  · obtain ⟨p, hfield, hread⟩ := (except_bind_eq_ok_iff _ _ _).1 hread
    obtain ⟨rfl, -⟩ := Prod.mk.inj (Except.ok.inj hread)
    exact ⟨declares_of_readField legible_mediaKind hfield, h.2⟩
  · obtain ⟨p, hfield, hread⟩ := (except_bind_eq_ok_iff _ _ _).1 hread
    obtain ⟨rfl, -⟩ := Prod.mk.inj (Except.ok.inj hread)
    exact ⟨h.1, declares_of_readField legible_loveStatus hfield⟩
  · obtain ⟨r, -, hread⟩ := (except_bind_eq_ok_iff _ _ _).1 hread
    obtain ⟨rfl, -⟩ := Prod.mk.inj (Except.ok.inj hread)
    exact h

theorem Draft.Coded.finish {draft : Draft} {t : Track} (h : draft.Coded)
    (hfinish : draft.finish = .ok t) : t.Coded := by
  simp only [Draft.finish, except_bind_eq_ok_iff, required_eq_ok_iff] at hfinish
  obtain ⟨name, -, kind, hkind, love, hlove, hfinish⟩ := hfinish
  obtain rfl := Except.ok.inj hfinish
  exact ⟨h.1 kind hkind, h.2 love hlove⟩

theorem coded_of_readElements {s rest : List Char} {t : Track}
    (h : readElements s = .ok (t, rest)) : t.Coded := by
  simp only [readElements, except_bind_eq_ok_iff] at h
  obtain ⟨name, -, kind, hkind, love, hlove, h⟩ := h
  obtain ⟨rfl, -⟩ := Prod.mk.inj (Except.ok.inj h)
  exact ⟨declares_of_readElement legible_mediaKind hkind,
    declares_of_readElement legible_loveStatus hlove⟩

/-- The codes of a track that was read are declared, however the track was written. -/
theorem coded_of_ofJson {text : String} {t : Track} (h : ofJson text = .ok t) : t.Coded := by
  obtain ⟨rest, hread, -⟩ := (readDocument_eq_ok_iff _ _ _).1 h
  have hinit : Draft.Coded ⟨none, none, none⟩ := by
    simp [Draft.Coded]
  exact readRecordValue_keeps Draft.Coded.readMember hinit Draft.Coded.finish
    coded_of_readElements hread

end Track

end EnumForge.Sample
