import EnumForge.Proofs.Json.Object
import EnumForge.Proofs.Json.Text

namespace EnumForge.Json

variable {α β γ : Type}

/-! The text of a record. -/

def StringText : ValueGrammar String := fun t s =>
  ∃ gap body, t = gap ++ '"' :: body ++ ['"'] ∧ Blanks gap ∧ Denotes body s.toList

theorem stringText_derived (s : String) : StringText (stringText s).toList s := by
  rw [stringText, String.toList_ofList]
  exact ⟨[], _, rfl, rfl, denotes_flatMap_encodeChar s.toList⟩

theorem readStringValue_of_stringText {t : List Char} {s : String} (h : StringText t s)
    (rest : List Char) : readStringValue (t ++ rest) = .ok (s.toList, rest) := by
  obtain ⟨gap, body, rfl, hgap, hbody⟩ := h
  exact (readStringValue_eq_ok_iff _ _ _).2 ⟨gap, body, by simp, hgap, hbody⟩

def fieldText (e : String × String) : List Char :=
  (stringText e.1).toList ++ ':' :: (stringText e.2).toList

theorem memberText_fieldText (e : String × String) : MemberText StringText (fieldText e) e := by
  refine ⟨[], e.1.toList.flatMap encodeChar, [], (stringText e.2).toList, ?_, rfl,
    denotes_flatMap_encodeChar e.1.toList, rfl, stringText_derived e.2⟩
  rw [fieldText, stringText, String.toList_ofList, encode]
  simp

theorem blanks_nil : Blanks [] := rfl

theorem membersText_flatMap (es : List (String × String)) :
    MembersText StringText false (es.flatMap (fun e => ',' :: fieldText e) ++ ['\x7d']) es := by
  induction es with
  | nil => exact .close blanks_nil
  | cons e es ih =>
    have hnext := MembersText.next blanks_nil (memberText_fieldText e) ih
    simpa using hnext

theorem toList_recordText (es : List (String × String)) :
    (recordText (es.map fun e => (e.1, stringText e.2))).toList =
      '\x7b' :: ([','].intercalate (es.map fieldText) ++ ['\x7d']) := by
  have hfield (e : String × String) :
      (s!"{stringText e.1}:{stringText e.2}").toList = fieldText e := by
    simp [fieldText, toString]
  simp [recordText, String.toList_intercalate, Function.comp_def, hfield]

/-- The text of a record of strings is the object of its fields in order. -/
theorem objectText_recordText (es : List (String × String)) :
    ObjectText StringText (recordText (es.map fun e => (e.1, stringText e.2))).toList es := by
  refine ⟨[], _, toList_recordText es, rfl, ?_⟩
  cases es with
  | nil => exact .close blanks_nil
  | cons e es =>
    have htail (fs : List (String × String)) (first : List Char) :
        [','].intercalate (first :: fs.map fieldText) =
          first ++ fs.flatMap fun f => ',' :: fieldText f := by
      induction fs generalizing first with
      | nil => simp
      | cons f fs ih =>
        rw [List.map_cons, List.intercalate_cons_cons, ih]
        simp
    rw [List.map_cons, htail, List.append_assoc]
    exact .first (memberText_fieldText e) (membersText_flatMap es)

/-- What a field becomes that a string is given for, if it has not come before. -/
def takeField (name : String) (present : Option β) (parse : String → Except Cause β) (s : String) :
    Except Cause (Option β) :=
  if present.isSome then .error (.duplicateField name) else (parse s).map some

/-- Reads a field and puts it where it belongs, if the reader of its values takes strings as `parse`
does. -/
theorem readField_of_stringText {name : String} {present : Option β} {value : ValueReader β}
    {parse : String → Except Cause β}
    (hvalue : ∀ {t a rest}, StringText t a → value (t ++ rest) = decided (parse a) rest rest)
    {t s rest : List Char} {a : String} (ht : StringText t a)
    (hcolon : skipBlank s = ':' :: (t ++ rest)) (update : Option β → γ) :
    ∃ left, (readField name present value s >>= fun p => .ok (update p.1, p.2)) =
      decided ((takeField name present parse a).map update) rest left := by
  unfold readField takeField
  split
  · exact ⟨s, rfl⟩
  · refine ⟨rest, ?_⟩
    rw [(readColon_eq_ok_iff _ _).2 hcolon]
    simp only [bind, Except.bind, hvalue ht]
    cases parse a with
    | ok b => rfl
    | error cause => rfl

/-- What is read of a field is a value that its reader gives. -/
theorem readField_eq_ok {name : String} {present v : Option β} {value : ValueReader β}
    {s rest : List Char} (h : readField name present value s = .ok (v, rest)) :
    ∃ a r, v = some a ∧ value r = .ok (a, rest) := by
  unfold readField at h
  split at h
  · simp at h
  · obtain ⟨r, -, h⟩ := (except_bind_eq_ok_iff _ _ _).1 h
    obtain ⟨⟨a, r'⟩, ha, h⟩ := (except_bind_eq_ok_iff _ _ _).1 h
    obtain ⟨rfl, rfl⟩ := Prod.mk.inj (Except.ok.inj h)
    exact ⟨a, r, rfl, ha⟩

theorem required_eq_ok_iff (name : String) (x : Option β) (a : β) :
    required name x = .ok a ↔ x = some a := by
  cases x with
  | none => simp [required]
  | some b => simp [required]

/-- What is read of an element is a value that its reader gives. -/
theorem readElement_eq_ok {expected : String} {count : Nat} {value : ValueReader β}
    {s rest : List Char} {a : β} (h : readElement expected count value s = .ok (a, rest)) :
    ∃ r, value r = .ok (a, rest) := by
  obtain ⟨next, -, h⟩ := (except_bind_eq_ok_iff _ _ _).1 h
  cases next with
  | none => simp at h
  | some r => exact ⟨r, h⟩

section

variable {name : String} {member : MemberReader α} {init : α} {finish : α → Except Cause γ}
  {elements : ValueReader γ}

/-- A record is what its members make, one after the other. -/
theorem readRecordValue_of_objectText {V : ValueGrammar β} {put : α → String × β → Except Cause α}
    {t : List Char} {es : List (String × β)} (h : ObjectText V t es)
    (htakes : ∀ e ∈ es, Takes V member put e) (rest : List Char) :
    ∃ bytesAfter, readRecordValue name member init finish elements (t ++ rest) =
      ((es.foldlM put init >>= finish).map (·, rest)).mapError (.placed · bytesAfter) := by
  obtain ⟨gap, r, rfl, hgap, hr⟩ := h
  have hskip : skipBlank (gap ++ '\x7b' :: r ++ rest) = '\x7b' :: (r ++ rest) := by
    rw [List.append_assoc]
    exact skipBlank_append hgap (by decide) _
  have hlength : es.length < (r ++ rest).length + 1 := by
    have hle := hr.length_le
    rw [List.length_append]
    omega
  -- where a failure stands depends on the member that fails, so the place is left open
  obtain ⟨left, hread⟩ := readMembers_of_membersText hr htakes hlength init rest
  have hclose : closeObject ('\x7d' :: rest) = .ok rest :=
    (closeObject_eq_ok_iff _ _).2 (skipBlank_append blanks_nil (by decide) _)
  rw [readRecordValue, hskip]
  simp only [readObject, hread]
  cases es.foldlM put init with
  | error cause => exact ⟨_, rfl⟩
  | ok acc =>
    simp only [decided, bind, Except.bind]
    cases finish acc with
    | error cause => exact ⟨_, rfl⟩
    | ok a =>
      refine ⟨0, ?_⟩
      simp only [hclose]
      rfl

theorem readDocument_of_objectText {V : ValueGrammar β} {put : α → String × β → Except Cause α}
    {text : String} {es : List (String × β)} (h : ObjectText V text.toList es)
    (htakes : ∀ e ∈ es, Takes V member put e) :
    ∃ place, readDocument (readRecordValue name member init finish elements) text =
      (es.foldlM put init >>= finish).mapError fun cause => ⟨cause, some place⟩ := by
  obtain ⟨bytesAfter, hread⟩ : ∃ bytesAfter,
      readRecordValue name member init finish elements (text.toList ++ []) =
        ((es.foldlM put init >>= finish).map (·, [])).mapError (.placed · bytesAfter) :=
    readRecordValue_of_objectText h htakes []
  rw [List.append_nil] at hread
  refine ⟨placeBefore text.toList bytesAfter, ?_⟩
  rw [readDocument, hread]
  cases es.foldlM put init >>= finish with
  | ok a => rfl
  | error cause => rfl

/-- What every member keeps true is true of all that has been read. -/
theorem readMembers_keeps {P : α → Prop}
    (hmember : ∀ {acc key s acc' rest}, P acc → member acc key s = .ok (acc', rest) → P acc')
    {fuel : Nat} {first : Bool} {acc acc' : α} {s rest : List Char} (hacc : P acc)
    (h : readMembers member fuel first acc s = .ok (acc', rest)) : P acc' := by
  induction fuel generalizing first acc s with
  | zero => simp [readMembers] at h
  | succ fuel ih =>
    rw [readMembers] at h
    obtain ⟨next, -, h⟩ := (except_bind_eq_ok_iff _ _ _).1 h
    cases next with
    | none =>
      obtain ⟨rfl, -⟩ := Prod.mk.inj (Except.ok.inj h)
      exact hacc
    | some r =>
      obtain ⟨⟨key, k⟩, -, h⟩ := (except_bind_eq_ok_iff _ _ _).1 h
      obtain ⟨⟨acc₁, k₁⟩, hread, h⟩ := (except_bind_eq_ok_iff _ _ _).1 h
      exact ih (hmember hacc hread) h

/-- What holds of every record that is made, from members or from elements, holds of those read. -/
theorem readRecordValue_keeps {P : α → Prop} {Q : γ → Prop}
    (hmember : ∀ {acc key s acc' rest}, P acc → member acc key s = .ok (acc', rest) → P acc')
    (hinit : P init) (hfinish : ∀ {acc a}, P acc → finish acc = .ok a → Q a)
    (helements : ∀ {s a rest}, elements s = .ok (a, rest) → Q a) {s rest : List Char} {a : γ}
    (h : readRecordValue name member init finish elements s = .ok (a, rest)) : Q a := by
  unfold readRecordValue at h
  split at h
  · simp at h
  · next r _ =>
    unfold readObject at h
    dsimp only at h
    split at h
    · next b k hread =>
      obtain ⟨_, -, hb⟩ := (except_map_eq_ok_iff _ _ _).1 h
      obtain ⟨rfl, -⟩ := Prod.mk.inj hb
      obtain ⟨⟨acc, k'⟩, hmembers, hread⟩ := (except_bind_eq_ok_iff _ _ _).1 hread
      dsimp only at hread
      split at hread
      · next _ hfinished =>
        obtain ⟨rfl, -⟩ := Prod.mk.inj (Except.ok.inj hread)
        exact hfinish (readMembers_keeps hmember hinit hmembers) hfinished
      · simp at hread
    · simp at h
  · split at h
    · next b k hread =>
      obtain ⟨_, -, hb⟩ := (except_map_eq_ok_iff _ _ _).1 h
      obtain ⟨rfl, -⟩ := Prod.mk.inj hb
      exact helements hread
    · simp at h
  · simp at h

end

end EnumForge.Json
