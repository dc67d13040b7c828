import EnumForge.Proofs.Checked
import EnumForge.Text.Utf8
import Mathlib.Tactic.SplitIfs

namespace EnumForge.Text

variable {b d e : UInt8} {bs : List UInt8}

theorem sequenceLength_eq_some_iff (b : UInt8) (n : Nat) :
    sequenceLength b = some n ↔
      n = 1 ∧ b.toNat < 128 ∨ n = 2 ∧ 194 ≤ b.toNat ∧ b.toNat ≤ 223 ∨
        n = 3 ∧ 224 ≤ b.toNat ∧ b.toNat ≤ 239 ∨ n = 4 ∧ 240 ≤ b.toNat ∧ b.toNat ≤ 244 := by
  have hb := b.toNat_lt
  simp only [sequenceLength, UInt8.lt_iff_toNat_lt, UInt8.le_iff_toNat_le, Bool.and_eq_true,
    decide_eq_true_eq, UInt8.reduceToNat]
  split_ifs <;> simp <;> omega

/-- The second byte of a character, by the first one. -/
theorem secondByteRange_iff (first b : UInt8) :
    ((secondByteRange first).1 ≤ b ∧ b ≤ (secondByteRange first).2) ↔
      128 ≤ b.toNat ∧ b.toNat ≤ 191 ∧ (first.toNat = 224 → 160 ≤ b.toNat) ∧
        (first.toNat = 237 → b.toNat ≤ 159) ∧ (first.toNat = 240 → 144 ≤ b.toNat) ∧
        (first.toNat = 244 → b.toNat ≤ 143) := by
  unfold secondByteRange
  simp only [← UInt8.toNat_inj, UInt8.le_iff_toNat_le, UInt8.reduceToNat]
  split_ifs <;> simp only [UInt8.reduceToNat] <;> omega

theorem isContinuation_iff (b : UInt8) :
    isContinuation b = true ↔ 128 ≤ b.toNat ∧ b.toNat ≤ 191 := by
  simp [isContinuation, UInt8.le_iff_toNat_le]

/-- The bytes of the character with a number. -/
theorem utf8EncodeChar_ofNat {v : Nat} (h : v.isValidChar) :
    String.utf8EncodeChar (Char.ofNat v) =
      if v ≤ 127 then [UInt8.ofNat v]
      else if v ≤ 2047 then [UInt8.ofNat (v / 64 % 32 + 192), UInt8.ofNat (v % 64 + 128)]
      else if v ≤ 65535 then
        [UInt8.ofNat (v / 4096 % 16 + 224), UInt8.ofNat (v / 64 % 64 + 128),
          UInt8.ofNat (v % 64 + 128)]
      else
        [UInt8.ofNat (v / 262144 % 8 + 240), UInt8.ofNat (v / 4096 % 64 + 128),
          UInt8.ofNat (v / 64 % 64 + 128), UInt8.ofNat (v % 64 + 128)] := by
  have hv : (Char.ofNat v).val.toNat = v := by
    rw [Char.ofNat, dif_pos h]
    rfl
  rw [String.utf8EncodeChar, hv]

/-! Bytes of a character at the head. -/

theorem utf8Head_of_one (h : b.toNat < 128) : utf8Head b bs = .char (Char.ofNat b.toNat) 1 := by
  have hlen : sequenceLength b = some 1 := (sequenceLength_eq_some_iff b 1).2 (by omega)
  simp only [utf8Head, hlen]

theorem utf8Head_of_more {n : Nat} (hlen : sequenceLength b = some (n + 2))
    (hrange : (secondByteRange b).1 ≤ d ∧ d ≤ (secondByteRange b).2) :
    utf8Head b (d :: bs) =
      continueHead (64 * leadBits b (n + 2) + continuation d) 2 n bs := by
  rw [utf8Head, hlen]
  simp only [hrange, and_self, if_true, Nat.add_sub_cancel]

theorem continueHead_cons (value done owed : Nat) (h : isContinuation e = true) :
    continueHead value done (owed + 1) (e :: bs) =
      continueHead (64 * value + continuation e) (done + 1) owed bs := by
  rw [continueHead, if_pos h]

/-- The bytes of a character are read as that character, whatever follows. -/
theorem utf8Head_encoded (c : Char) (t : List UInt8) :
    ∃ b bs, String.utf8EncodeChar c = b :: bs ∧ utf8Head b (bs ++ t) = .char c (bs.length + 1) := by
  have hvalid := c.valid
  have hchar : Char.ofNat c.val.toNat = c := c.ofNat_toNat
  simp only [UInt32.isValidChar, Nat.isValidChar] at hvalid
  unfold String.utf8EncodeChar
  generalize c.val.toNat = v at hvalid hchar
  subst hchar
  dsimp only
  split_ifs with h1 h2 h3
  · refine ⟨_, _, rfl, ?_⟩
    have hb : (UInt8.ofNat v).toNat = v := by
      rw [UInt8.toNat_ofNat']
      omega
    rw [utf8Head_of_one (by omega), hb]
    rfl
  · refine ⟨_, _, rfl, ?_⟩
    have hlen : sequenceLength (UInt8.ofNat (v / 64 % 32 + 192)) = some (0 + 2) := by
      rw [sequenceLength_eq_some_iff, UInt8.toNat_ofNat']
      omega
    have hrange := (secondByteRange_iff (UInt8.ofNat (v / 64 % 32 + 192))
      (UInt8.ofNat (v % 64 + 128))).2 (by rw [UInt8.toNat_ofNat', UInt8.toNat_ofNat']; omega)
    rw [List.cons_append, utf8Head_of_more hlen hrange, continueHead]
    simp only [leadBits, continuation, UInt8.toNat_ofNat']
    congr 2
    omega
  · refine ⟨_, _, rfl, ?_⟩
    have hlen : sequenceLength (UInt8.ofNat (v / 4096 % 16 + 224)) = some (1 + 2) := by
      rw [sequenceLength_eq_some_iff, UInt8.toNat_ofNat']
      omega
    have hrange := (secondByteRange_iff (UInt8.ofNat (v / 4096 % 16 + 224))
      (UInt8.ofNat (v / 64 % 64 + 128))).2 (by rw [UInt8.toNat_ofNat', UInt8.toNat_ofNat']; omega)
    have hlast := (isContinuation_iff (UInt8.ofNat (v % 64 + 128))).2
      (by rw [UInt8.toNat_ofNat']; omega)
    rw [List.cons_append, utf8Head_of_more hlen hrange, List.cons_append,
      continueHead_cons _ _ _ hlast, continueHead]
    simp only [leadBits, continuation, UInt8.toNat_ofNat']
    congr 2
    omega
  · refine ⟨_, _, rfl, ?_⟩
    have hlen : sequenceLength (UInt8.ofNat (v / 262144 % 8 + 240)) = some (2 + 2) := by
      rw [sequenceLength_eq_some_iff, UInt8.toNat_ofNat']
      omega
    have hrange := (secondByteRange_iff (UInt8.ofNat (v / 262144 % 8 + 240))
      (UInt8.ofNat (v / 4096 % 64 + 128))).2 (by rw [UInt8.toNat_ofNat', UInt8.toNat_ofNat']; omega)
    have hthird := (isContinuation_iff (UInt8.ofNat (v / 64 % 64 + 128))).2
      (by rw [UInt8.toNat_ofNat']; omega)
    have hlast := (isContinuation_iff (UInt8.ofNat (v % 64 + 128))).2
      (by rw [UInt8.toNat_ofNat']; omega)
    rw [List.cons_append, utf8Head_of_more hlen hrange, List.cons_append,
      continueHead_cons _ _ _ hthird, List.cons_append, continueHead_cons _ _ _ hlast, continueHead]
    simp only [leadBits, continuation, UInt8.toNat_ofNat']
    congr 2
    omega

theorem continueHead_succ_eq_char {value done owed n : Nat} {c : Char}
    (h : continueHead value done (owed + 1) bs = .char c n) :
    ∃ e t, bs = e :: t ∧ (128 ≤ e.toNat ∧ e.toNat ≤ 191) ∧
      continueHead (64 * value + continuation e) (done + 1) owed t = .char c n := by
  cases bs with
  | nil => simp [continueHead] at h
  | cons e t =>
    rw [continueHead] at h
    split at h
    · next he => exact ⟨e, t, rfl, (isContinuation_iff e).1 he, h⟩
    · simp at h

/-- What is read as a character is the bytes of that character. -/
theorem encoded_of_utf8Head {c : Char} {n : Nat} (h : utf8Head b bs = .char c n) :
    ∃ t, b :: bs = String.utf8EncodeChar c ++ t ∧ n = (String.utf8EncodeChar c).length := by
  unfold utf8Head at h
  split at h
  · simp at h
  · next hlen =>
    rw [sequenceLength_eq_some_iff] at hlen
    obtain ⟨rfl, rfl⟩ := Utf8Head.char.inj h
    rw [utf8EncodeChar_ofNat (.inl (by omega)), if_pos (by omega)]
    exact ⟨bs, by simp, rfl⟩
  · next count hcount hlen =>
    rw [sequenceLength_eq_some_iff] at hlen
    split at h
    · simp at h
    · next d ds =>
      dsimp only at h
      split at h
      · next hrange =>
        rw [secondByteRange_iff] at hrange
        rcases hlen with ⟨rfl, -⟩ | ⟨rfl, hfirst⟩ | ⟨rfl, hfirst⟩ | ⟨rfl, hfirst⟩
        · exact absurd rfl hcount
        · obtain ⟨rfl, rfl⟩ := Utf8Head.char.inj h
          simp only [leadBits, continuation]
          rw [utf8EncodeChar_ofNat (by unfold Nat.isValidChar; omega), if_neg (by omega),
            if_pos (by omega)]
          refine ⟨ds, ?_, rfl⟩
          simp only [List.cons_append, List.nil_append, List.cons.injEq, and_true, ← UInt8.toNat_inj,
            UInt8.toNat_ofNat']
          omega
        · obtain ⟨e, t, rfl, he, h⟩ := continueHead_succ_eq_char h
          obtain ⟨rfl, rfl⟩ := Utf8Head.char.inj h
          simp only [leadBits, continuation]
          rw [utf8EncodeChar_ofNat (by unfold Nat.isValidChar; omega), if_neg (by omega),
            if_neg (by omega), if_pos (by omega)]
          refine ⟨t, ?_, rfl⟩
          simp only [List.cons_append, List.nil_append, List.cons.injEq, and_true, ← UInt8.toNat_inj,
            UInt8.toNat_ofNat']
          omega
        · obtain ⟨e, t, rfl, he, h⟩ := continueHead_succ_eq_char h
          obtain ⟨f, t, rfl, hf, h⟩ := continueHead_succ_eq_char h
          obtain ⟨rfl, rfl⟩ := Utf8Head.char.inj h
          simp only [leadBits, continuation]
          rw [utf8EncodeChar_ofNat (by unfold Nat.isValidChar; omega), if_neg (by omega),
            if_neg (by omega), if_neg (by omega)]
          refine ⟨t, ?_, rfl⟩
          simp only [List.cons_append, List.nil_append, List.cons.injEq, and_true, ← UInt8.toNat_inj,
            UInt8.toNat_ofNat']
          omega
      · simp at h

theorem ofUtf8From_skip (index : Nat) (bs t : List UInt8) :
    ofUtf8From index bs.length (bs ++ t) = ofUtf8From (index + bs.length) 0 t := by
  induction bs generalizing index with
  | nil => rfl
  | cons b bs ih =>
    rw [List.length_cons, List.cons_append, ofUtf8From, ih, Nat.add_assoc, Nat.add_comm 1]

theorem ofUtf8From_encoded (index : Nat) (c : Char) (t : List UInt8) :
    ∃ next, ofUtf8From index 0 (String.utf8EncodeChar c ++ t) =
      (ofUtf8From next 0 t).map (c :: ·) := by
  obtain ⟨b, bs, hbytes, hhead⟩ := utf8Head_encoded c t
  refine ⟨index + 1 + bs.length, ?_⟩
  rw [hbytes, List.cons_append, ofUtf8From, hhead]
  simp only [Nat.add_sub_cancel, ofUtf8From_skip]

theorem utf8_cons (c : Char) (s : List Char) :
    utf8 (c :: s) = String.utf8EncodeChar c ++ utf8 s := List.flatMap_cons

theorem ofUtf8From_utf8 (index : Nat) (s : List Char) : ofUtf8From index 0 (utf8 s) = .ok s := by
  induction s generalizing index with
  | nil => rfl
  | cons c s ih =>
    obtain ⟨next, hnext⟩ := ofUtf8From_encoded index c (utf8 s)
    rw [utf8_cons, hnext, ih]
    rfl

theorem eq_utf8_of_ofUtf8From {index : Nat} {bytes : List UInt8} {s : List Char}
    (h : ofUtf8From index 0 bytes = .ok s) : bytes = utf8 s := by
  induction s generalizing index bytes with
  | nil =>
    cases bytes with
    | nil => rfl
    | cons b bs =>
      rw [ofUtf8From] at h
      split at h
      · simp [except_map_eq_ok_iff] at h
      · simp at h
      · simp at h
  | cons c s ih =>
    cases bytes with
    | nil => simp [ofUtf8From] at h
    | cons b bs =>
      cases hhead : utf8Head b bs with
      | wrong n => simp [ofUtf8From, hhead] at h
      | cut => simp [ofUtf8From, hhead] at h
      | char d n =>
        obtain ⟨t, hbytes, -⟩ := encoded_of_utf8Head hhead
        obtain ⟨next, hnext⟩ := ofUtf8From_encoded index d t
        rw [hbytes, hnext, except_map_eq_ok_iff] at h
        obtain ⟨s', hs', hcons⟩ := h
        obtain ⟨rfl, rfl⟩ := List.cons.inj hcons
        rw [hbytes, ih hs', utf8_cons]

/-- Bytes are read as a text exactly when they are the bytes of the text. -/
theorem ofUtf8_eq_ok_iff (bytes : List UInt8) (s : List Char) :
    ofUtf8 bytes = .ok s ↔ bytes = utf8 s := by
  constructor
  · exact eq_utf8_of_ofUtf8From
  · intro heq
    subst heq
    exact ofUtf8From_utf8 0 s

end EnumForge.Text
