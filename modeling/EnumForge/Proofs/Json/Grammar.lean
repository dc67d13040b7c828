import EnumForge.Json.Record
import EnumForge.Proofs.Checked
import EnumForge.Proofs.Text.Hexadecimal

namespace EnumForge.Json

open EnumForge.Text

/-- Letters after a backslash, each with the character that the two stand for. -/
def shortEscapes : List (Char × Char) :=
  [('"', '"'), ('\\', '\\'), ('/', '/'), ('b', '\x08'), ('f', '\x0c'), ('n', '\n'), ('r', '\r'),
    ('t', '\t')]

/-- Four hexadecimal digits that denote a number. -/
structure HexUnit (digits : List Char) (n : Nat) : Prop where
  length : digits.length = 4
  value : hexValue? digits = some n

/-- The ways to write a character of a string. -/
inductive Writes : List Char → Char → Prop
  | plain {c : Char} : ' ' ≤ c → c ≠ '"' → c ≠ '\\' → Writes [c] c
  | short {e c : Char} : (e, c) ∈ shortEscapes → Writes ['\\', e] c
  | unit {ds : List Char} {c : Char} : HexUnit ds c.toNat → Writes ('\\' :: 'u' :: ds) c
  | pair {ds es : List Char} {lead trail : Nat} {c : Char} : HexUnit ds lead → HexUnit es trail →
      0xD800 ≤ lead → lead ≤ 0xDBFF → 0xDC00 ≤ trail → trail ≤ 0xDFFF →
      c.toNat = 0x10000 + (lead - 0xD800) * 0x400 + (trail - 0xDC00) →
      Writes ('\\' :: 'u' :: ds ++ '\\' :: 'u' :: es) c

/-- What stands between the quotes of a string, and the text that it denotes. -/
inductive Denotes : List Char → List Char → Prop
  | nil : Denotes [] []
  | cons {w body s : List Char} {c : Char} : Writes w c → Denotes body s →
      Denotes (w ++ body) (c :: s)

/-- A document that is one string, with blanks around it, and denotes a text. -/
def StringDocument (document text : String) : Prop :=
  ∃ before body after, document.toList = before ++ '"' :: body ++ '"' :: after ∧
    before.all isBlank = true ∧ after.all isBlank = true ∧ Denotes body text.toList

theorem length_le_byteCount (s : List Char) : s.length ≤ byteCount s := by
  induction s with
  | nil => simp
  | cons c s ih =>
    have hpos := c.utf8Size_pos
    rw [List.length_cons, byteCount, List.foldr_cons]
    rw [byteCount] at ih
    omega

theorem hexUnit_eq_ok_iff (s : List Char) (n : Nat) :
    hexUnit s = .ok n ↔ 4 ≤ s.length ∧ HexUnit (s.take 4) n := by
  have htake : (s.take 4).length = 4 ↔ 4 ≤ s.length := by
    rw [List.length_take]
    omega
  have hbytes := length_le_byteCount s
  unfold hexUnit
  by_cases hlength : 4 ≤ s.length
  · rw [if_neg (by omega), if_pos (htake.2 hlength)]
    cases hv : hexValue? (s.take 4) with
    | none => simpa [hlength] using fun h : HexUnit (s.take 4) n => by simpa [hv] using h.value
    | some m =>
      constructor
      · intro h
        obtain rfl := Except.ok.inj h
        exact ⟨hlength, htake.2 hlength, hv⟩
      · rintro ⟨-, h⟩
        rw [← Option.some.inj (hv.symm.trans h.value)]
  · rw [if_neg (mt htake.1 hlength)]
    simp only [hlength, false_and, iff_false]
    split
    · simp
    · simp

theorem HexUnit.lt {ds : List Char} {n : Nat} (h : HexUnit ds n) : n < 0x10000 := by
  have hlt := hexValue?_lt h.value
  rwa [h.length] at hlt

theorem hexUnit_append {ds : List Char} {n : Nat} (h : HexUnit ds n) (t : List Char) :
    hexUnit (ds ++ t) = .ok n := by
  rw [hexUnit_eq_ok_iff, List.take_left' h.length]
  exact ⟨by simp [h.length], h⟩

/-- The second half of a pair is another unit after its mark. -/
theorem trailingEscape_eq_ok_iff (s : List Char) (n : Nat) :
    trailingEscape s = .ok n ↔
      ∃ ds t, s = '\\' :: 'u' :: ds ++ t ∧ HexUnit ds n ∧ isTrailingSurrogate n = true := by
  constructor
  · intro h
    unfold trailingEscape at h
    split at h
    · simp at h
    · split at h
      · simp at h
      · next digits =>
        obtain ⟨m, hm, h⟩ := (except_bind_eq_ok_iff _ _ _).1 h
        split at h
        · next htrail =>
          obtain rfl := Except.ok.inj h
          obtain ⟨-, hunit⟩ := (hexUnit_eq_ok_iff _ _).1 hm
          exact ⟨digits.take 4, digits.drop 4, by simp, hunit, htrail⟩
        · simp at h
      · simp at h
    · simp at h
  · rintro ⟨ds, t, rfl, hunit, htrail⟩
    rw [List.cons_append, List.cons_append, trailingEscape, hexUnit_append hunit]
    simp only [bind, Except.bind, htrail, if_true]

theorem isTrailingSurrogate_iff (n : Nat) :
    isTrailingSurrogate n = true ↔ 0xDC00 ≤ n ∧ n ≤ 0xDFFF := by
  simp [isTrailingSurrogate]

theorem isLeadingSurrogate_iff (n : Nat) :
    isLeadingSurrogate n = true ↔ 0xD800 ≤ n ∧ n ≤ 0xDBFF := by
  simp [isLeadingSurrogate]

theorem toNat_ofNat {n : Nat} (h : n.isValidChar) : (Char.ofNat n).toNat = n := by
  rw [Char.ofNat, dif_pos h]
  rfl

/-- The two units of a pair and the mark between them are ten characters. -/
theorem take_of_trailingEscape {digits : List Char} {lead trail : Nat}
    (hlead : HexUnit (digits.take 4) lead) (h : trailingEscape (digits.drop 4) = .ok trail) :
    ∃ es, HexUnit es trail ∧ isTrailingSurrogate trail = true ∧ 10 ≤ digits.length ∧
      digits.take 10 = digits.take 4 ++ '\\' :: 'u' :: es := by
  obtain ⟨es, t, hrest, hes, htrail⟩ := (trailingEscape_eq_ok_iff _ _).1 h
  have hdigits : digits = (digits.take 4 ++ '\\' :: 'u' :: es) ++ t := by
    rw [List.append_assoc, ← hrest, List.take_append_drop]
  have hten : (digits.take 4 ++ '\\' :: 'u' :: es).length = 10 := by
    simp [hlead.length, hes.length]
  refine ⟨es, hes, htrail, ?_, (congrArg (List.take 10) hdigits).trans (List.take_left' hten)⟩
  have hcount := congrArg List.length hdigits
  rw [List.length_append, hten] at hcount
  omega

/-- What the reader takes after a backslash is a written form of what it gives. -/
theorem writes_of_readEscape {cs : List Char} {c : Char} {n : Nat}
    (h : readEscape cs = .ok (c, n)) : n ≤ cs.length ∧ Writes ('\\' :: cs.take n) c := by
  have hshort {e d : Char} {r : List Char} (he : (e, d) ∈ shortEscapes)
      (h : Except.ok (ε := Fault) (d, 1) = .ok (c, n)) :
      n ≤ (e :: r).length ∧ Writes ('\\' :: (e :: r).take n) c := by
    obtain ⟨rfl, rfl⟩ := Prod.mk.inj (Except.ok.inj h)
    exact ⟨by simp, .short he⟩
  unfold readEscape at h
  split at h
  · simp at h
  · exact hshort (by decide) h
  · exact hshort (by decide) h
  · exact hshort (by decide) h
  · exact hshort (by decide) h
  · exact hshort (by decide) h
  · exact hshort (by decide) h
  · exact hshort (by decide) h
  · exact hshort (by decide) h
  · next digits =>
    obtain ⟨lead, hlead, h⟩ := (except_bind_eq_ok_iff _ _ _).1 h
    obtain ⟨hlength, hunit⟩ := (hexUnit_eq_ok_iff _ _).1 hlead
    split at h
    · simp at h
    · next hnottrail =>
      rw [isTrailingSurrogate_iff] at hnottrail
      split at h
      · next hpair =>
        rw [isLeadingSurrogate_iff] at hpair
        obtain ⟨trail, htrail, h⟩ := (except_bind_eq_ok_iff _ _ _).1 h
        obtain ⟨es, hes, ht, hlong, htake⟩ := take_of_trailingEscape hunit htrail
        rw [isTrailingSurrogate_iff] at ht
        obtain ⟨rfl, rfl⟩ := Prod.mk.inj (Except.ok.inj h)
        refine ⟨Nat.succ_le_succ hlong, ?_⟩
        rw [List.take_succ_cons, htake]
        exact .pair hunit hes hpair.1 hpair.2 ht.1 ht.2
          (toNat_ofNat (.inr ⟨by omega, by omega⟩))
      · next hnotlead =>
        rw [isLeadingSurrogate_iff] at hnotlead
        obtain ⟨rfl, rfl⟩ := Prod.mk.inj (Except.ok.inj h)
        have hlt := hunit.lt
        have hvalid : lead.isValidChar := by
          unfold Nat.isValidChar
          omega
        refine ⟨by simpa using hlength, ?_⟩
        rw [List.take_succ_cons]
        exact .unit (by rwa [toNat_ofNat hvalid])
  · simp at h

/-- Characters of an escape that has been read are passed over. -/
theorem readStringFrom_skip (e t : List Char) :
    readStringFrom e.length (e ++ t) = readStringFrom 0 t := by
  induction e with
  | nil => rfl
  | cons c e ih => exact ih

/-- An escape that stands for a character puts that character before the rest of the text. -/
theorem readStringFrom_escape {e t : List Char} {c : Char}
    (h : readEscape (e ++ t) = .ok (c, e.length)) :
    readStringFrom 0 ('\\' :: (e ++ t)) = (readStringFrom 0 t).map fun p => (c :: p.1, p.2) := by
  rw [readStringFrom, if_neg (by decide), if_pos rfl, h]
  simp only [bind, Except.bind, readStringFrom_skip]
  cases readStringFrom 0 t with
  | error fault => rfl
  | ok p => rfl

/-- A written form is read as the character that it stands for. -/
theorem readStringFrom_writes {w : List Char} {c : Char} (h : Writes w c) (t : List Char) :
    readStringFrom 0 (w ++ t) = (readStringFrom 0 t).map fun p => (c :: p.1, p.2) := by
  cases h with
  | plain hc hq hb =>
    rw [List.singleton_append, readStringFrom, if_neg hq, if_neg hb, if_neg (Char.not_lt.2 hc)]
    cases readStringFrom 0 t with
    | error fault => rfl
    | ok p => rfl
  | @short e c he =>
    refine readStringFrom_escape (e := [e]) ?_
    simp only [shortEscapes, List.mem_cons, Prod.mk.injEq, List.not_mem_nil, or_false] at he
    rcases he with ⟨rfl, rfl⟩ | ⟨rfl, rfl⟩ | ⟨rfl, rfl⟩ | ⟨rfl, rfl⟩ | ⟨rfl, rfl⟩ | ⟨rfl, rfl⟩ |
      ⟨rfl, rfl⟩ | ⟨rfl, rfl⟩
    all_goals rfl
  | @unit ds c hunit =>
    have hvalid : c.toNat.isValidChar := c.valid
    unfold Nat.isValidChar at hvalid
    have htrail : isTrailingSurrogate c.toNat = false := by
      rw [Bool.eq_false_iff, Ne, isTrailingSurrogate_iff]
      omega
    have hlead : isLeadingSurrogate c.toNat = false := by
      rw [Bool.eq_false_iff, Ne, isLeadingSurrogate_iff]
      omega
    refine readStringFrom_escape (e := 'u' :: ds) ?_
    rw [List.cons_append, readEscape, hexUnit_append hunit]
    simp only [bind, Except.bind, htrail, hlead, Bool.false_eq_true, if_false, Char.ofNat_toNat,
      List.length_cons, hunit.length]
  | @pair ds es lead trail c hl ht hl1 hl2 ht1 ht2 hc =>
    have hnottrail : isTrailingSurrogate lead = false := by
      rw [Bool.eq_false_iff, Ne, isTrailingSurrogate_iff]
      omega
    have hlead := (isLeadingSurrogate_iff lead).2 ⟨hl1, hl2⟩
    have htrail : trailingEscape ('\\' :: 'u' :: es ++ t) = .ok trail :=
      (trailingEscape_eq_ok_iff _ _).2
        ⟨es, t, rfl, ht, (isTrailingSurrogate_iff trail).2 ⟨ht1, ht2⟩⟩
    have hchar : surrogatePair lead trail = c := by
      rw [surrogatePair, ← hc, Char.ofNat_toNat]
    have hescape : readEscape (('u' :: ds ++ '\\' :: 'u' :: es) ++ t) = .ok (c, 11) := by
      rw [List.append_assoc, List.cons_append, readEscape, hexUnit_append hl,
        List.drop_left' hl.length]
      simp only [bind, Except.bind, hnottrail, hlead, htrail, hchar, Bool.false_eq_true, if_false,
        if_true]
    refine readStringFrom_escape (e := 'u' :: ds ++ '\\' :: 'u' :: es) ?_
    rw [hescape]
    simp [hl.length, ht.length]

/-- What the reader takes up to the closing quote is derived by the grammar. -/
theorem denotes_of_readStringFrom {skip : Nat} {s t rest : List Char}
    (h : readStringFrom skip s = .ok (t, rest)) :
    ∃ body, s.drop skip = body ++ '"' :: rest ∧ Denotes body t := by
  fun_induction readStringFrom skip s generalizing t with
  | case1 => simp at h
  | case2 skip c cs ih => exact ih h
  | case3 cs =>
    obtain ⟨rfl, rfl⟩ := Prod.mk.inj (Except.ok.inj h)
    exact ⟨[], rfl, .nil⟩
  | case4 cs _ ih =>
    obtain ⟨⟨d, n⟩, hescape, h⟩ := (except_bind_eq_ok_iff _ _ _).1 h
    obtain ⟨⟨u, r⟩, hrest, h⟩ := (except_bind_eq_ok_iff _ _ _).1 h
    obtain ⟨rfl, rfl⟩ := Prod.mk.inj (Except.ok.inj h)
    obtain ⟨body, hbody, hu⟩ := ih n hrest
    obtain ⟨-, hwrites⟩ := writes_of_readEscape hescape
    refine ⟨_, ?_, .cons hwrites hu⟩
    rw [List.append_assoc, ← hbody, List.cons_append, List.take_append_drop]
    rfl
  | case5 => simp at h
  | case6 c cs hq hb hc ih =>
    obtain ⟨⟨u, r⟩, hrest, h⟩ := (except_bind_eq_ok_iff _ _ _).1 h
    obtain ⟨rfl, rfl⟩ := Prod.mk.inj (Except.ok.inj h)
    obtain ⟨body, hbody, hu⟩ := ih hrest
    refine ⟨_, ?_, .cons (.plain (Char.not_lt.1 hc) hq hb) hu⟩
    rw [List.append_assoc, ← hbody]
    rfl

theorem readString_of_denotes {body s : List Char} (h : Denotes body s) (rest : List Char) :
    readString (body ++ '"' :: rest) = .ok (s, rest) := by
  rw [readString]
  induction h with
  | nil => rfl
  | cons hw _ ih =>
    rw [List.append_assoc, readStringFrom_writes hw, ih]
    rfl

/-- The reader takes a string exactly as the grammar has it. -/
theorem readString_eq_ok_iff (s t rest : List Char) :
    readString s = .ok (t, rest) ↔ ∃ body, s = body ++ '"' :: rest ∧ Denotes body t := by
  constructor
  · exact denotes_of_readStringFrom
  · rintro ⟨body, rfl, h⟩
    exact readString_of_denotes h rest

theorem skipBlank_eq_iff (s r : List Char) (hr : ∀ c ∈ r.head?, isBlank c = false) :
    skipBlank s = r ↔ ∃ before, before.all isBlank = true ∧ s = before ++ r := by
  constructor
  · rintro rfl
    refine ⟨s.takeWhile isBlank, List.all_takeWhile, ?_⟩
    rw [skipBlank, List.takeWhile_append_dropWhile]
  · rintro ⟨before, hbefore, rfl⟩
    rw [skipBlank, List.dropWhile_append_of_pos (List.all_eq_true.1 hbefore)]
    cases r with
    | nil => rfl
    | cons c r => exact List.dropWhile_cons_of_neg (by simpa using hr c rfl)

theorem readStringValue_eq_ok_iff (s t rest : List Char) :
    readStringValue s = .ok (t, rest) ↔
      ∃ before body, s = before ++ '"' :: body ++ '"' :: rest ∧ before.all isBlank = true ∧
        Denotes body t := by
  constructor
  · intro h
    unfold readStringValue at h
    split at h
    · simp at h
    · next r hr =>
      obtain ⟨body, rfl, ht⟩ := (readString_eq_ok_iff _ _ _).1 h
      obtain ⟨before, hbefore, rfl⟩ := (skipBlank_eq_iff s _ (by simp [isBlank])).1 hr
      exact ⟨before, body, by simp, hbefore, ht⟩
    · simp at h
  · rintro ⟨before, body, rfl, hbefore, ht⟩
    have hskip : skipBlank (before ++ '"' :: body ++ '"' :: rest) = '"' :: (body ++ '"' :: rest) :=
      (skipBlank_eq_iff _ _ (by simp [isBlank])).2 ⟨before, hbefore, by simp⟩
    rw [readStringValue, hskip]
    exact (readString_eq_ok_iff _ _ _).2 ⟨body, rfl, ht⟩

/-- A document is read when its value is and nothing but blanks follows. -/
theorem readDocument_eq_ok_iff {α : Type} (value : List Char → Except Fault (α × List Char))
    (document : String) (a : α) :
    readDocument value document = .ok a ↔
      ∃ rest, value document.toList = .ok (a, rest) ∧ rest.all isBlank = true := by
  have hend (rest : List Char) : readEnd rest = .ok () ↔ rest.all isBlank = true := by
    have hskip := skipBlank_eq_iff rest [] (by simp)
    simp only [List.append_nil, exists_eq_right'] at hskip
    rw [← hskip, readEnd]
    split
    · next h => simp [h]
    · next h => simpa using h
  have hread : readDocument value document = .ok a ↔
      ((value document.toList).bind fun p => (readEnd p.2).bind fun _ => .ok p.1) = .ok a := by
    unfold readDocument
    dsimp only [bind]
    split
    · next b hb => rw [hb, Except.ok.injEq, Except.ok.injEq]
    · next fault hfault => simp [hfault]
  rw [hread]
  constructor
  · intro h
    obtain ⟨⟨b, rest⟩, hvalue, h⟩ := (except_bind_eq_ok_iff _ _ _).1 h
    obtain ⟨_, hrest, h⟩ := (except_bind_eq_ok_iff _ _ _).1 h
    obtain rfl := Except.ok.inj h
    exact ⟨rest, hvalue, (hend rest).1 hrest⟩
  · rintro ⟨rest, hvalue, hrest⟩
    rw [hvalue, Except.bind, (hend rest).2 hrest]
    rfl

/-- A document is read as a text exactly when it is a string that denotes the text. -/
theorem readDocument_readStringValue_iff (document : String) (s : List Char) :
    readDocument readStringValue document = .ok s ↔ StringDocument document (String.ofList s) := by
  rw [readDocument_eq_ok_iff, StringDocument, String.toList_ofList]
  simp only [readStringValue_eq_ok_iff]
  constructor
  · rintro ⟨after, ⟨before, body, hdocument, hbefore, hs⟩, hafter⟩
    exact ⟨before, body, after, hdocument, hbefore, hafter, hs⟩
  · rintro ⟨before, body, after, hdocument, hbefore, hafter, hs⟩
    exact ⟨after, ⟨before, body, hdocument, hbefore, hs⟩, hafter⟩

theorem StringDocument.unique {document s t : String} (hs : StringDocument document s)
    (ht : StringDocument document t) : s = t := by
  have hread (u : String) (hu : StringDocument document u) :
      readDocument readStringValue document = .ok u.toList := by
    rw [readDocument_readStringValue_iff, String.ofList_toList]
    exact hu
  have h := (hread s hs).symm.trans (hread t ht)
  exact String.toList_inj.1 (Except.ok.inj h)

end EnumForge.Json
