import EnumForge.Proofs.Text.Hexadecimal
import Mathlib.Tactic.SplitIfs

namespace EnumForge.Source

open EnumForge.Text

/-- At most six digits in braces are read as the number that they denote. -/
theorem bracedDigits_append {ds : List Char} {value count n : Nat} (hcount : count + ds.length ≤ 6)
    (hsome : 0 < count + ds.length)
    (h : ds.foldlM (fun n c => (hexDigit? c).map (16 * n + ·)) value = some n) (t : List Char) :
    bracedDigits value count (ds ++ '\x7d' :: t) = some (n, ds.length + 1) := by
  induction ds generalizing value count with
  | nil =>
    obtain rfl := Option.some.inj h
    have hpos : 0 < count := by simpa using hsome
    rw [List.nil_append, bracedDigits, if_pos rfl, if_pos hpos]
    rfl
  | cons c ds ih =>
    rw [List.foldlM_cons, Option.bind_eq_bind, Option.bind_eq_some_iff] at h
    obtain ⟨next, hnext, h⟩ := h
    obtain ⟨d, hd, rfl⟩ := Option.map_eq_some_iff.1 hnext
    have hne {b : Char} (hb : hexDigit? b = none) : c ≠ b := by
      rintro rfl
      simp [hb] at hd
    have hclose : c ≠ '\x7d' := hne (by decide)
    have hgap : c ≠ '_' := hne (by decide)
    rw [List.length_cons] at hcount
    have hlt : count < 6 := by omega
    have hcount' : count + 1 + ds.length ≤ 6 := by omega
    have hsome' : 0 < count + 1 + ds.length := by omega
    have hrest := ih hcount' hsome' h
    rw [List.cons_append, bracedDigits, if_neg hclose, if_neg hgap, hd]
    simp only [hlt, if_true, hrest, Option.map_some, List.length_cons]

theorem validChar?_toNat (c : Char) : validChar? c.toNat = some c := by
  have hvalid : c.toNat.isValidChar := c.valid
  rw [validChar?, dif_pos hvalid]
  rfl

theorem length_hexLower_toNat (c : Char) : 0 < (hexLower c.toNat).length ∧
    (hexLower c.toNat).length ≤ 6 := by
  have hvalid : c.toNat.isValidChar := c.valid
  have hlt : c.toNat < Nat.pow 16 6 := by
    have hpow : Nat.pow 16 6 = 16777216 := rfl
    unfold Nat.isValidChar at hvalid
    omega
  refine ⟨?_, (Nat.length_toDigits_le_iff (by decide) (by decide)).2 hlt⟩
  exact Nat.length_toDigits_pos

theorem readEscape?_codePoint (c : Char) (t : List Char) :
    readEscape? .text ('u' :: '\x7b' :: hexLower c.toNat ++ '\x7d' :: t) =
      some (c, (hexLower c.toNat).length + 3) := by
  obtain ⟨hpos, hsix⟩ := length_hexLower_toNat c
  have hvalue : (hexLower c.toNat).foldlM (fun n c => (hexDigit? c).map (16 * n + ·)) 0 =
      some c.toNat := hexValue?_hexLower c.toNat
  have hcount : 0 + (hexLower c.toNat).length ≤ 6 := by omega
  have hdigits := bracedDigits_append hcount (by omega) hvalue t
  rw [List.cons_append, List.cons_append, readEscape?, hdigits]
  simp [validChar?_toNat]

theorem readCookedFrom_skip (kind : StringKind) (e t : List Char) :
    readCookedFrom kind e.length (e ++ t) =
      (readCookedFrom kind 0 t).map fun p => (p.1, p.2 + e.length) := by
  induction e with
  | nil => simp
  | cons c e ih =>
    rw [List.length_cons, List.cons_append, readCookedFrom, ih, Option.map_map]
    rfl

/-- An escape that stands for a character puts that character before the rest of the text. -/
theorem readCookedFrom_escape {kind : StringKind} {d c : Char} {e t : List Char}
    (hn : d ≠ '\n') (hr : d ≠ '\r')
    (h : readEscape? kind (d :: e ++ t) = some (c, (d :: e).length)) :
    readCookedFrom kind 0 ('\\' :: d :: e ++ t) =
      (readCookedFrom kind 0 t).map fun p => (c :: p.1, p.2 + (d :: e).length + 1) := by
  have hskip := readCookedFrom_skip kind (d :: e) t
  have hline : ¬ ((d :: e ++ t).head? = some '\n' ∨ (d :: e ++ t).head? = some '\r') := by
    simp [hn, hr]
  rw [List.cons_append, readCookedFrom, if_neg (by decide), if_neg (by decide), if_pos rfl,
    if_neg hline, h]
  simp only [Option.bind_eq_bind, Option.bind_some, hskip]
  cases readCookedFrom kind 0 t with
  | none => rfl
  | some p => rfl

/-- The written form of each character is read as the character. -/
theorem readCookedFrom_escaped (c : Char) (t : List Char) :
    readCookedFrom .text 0 (escape c ++ t) =
      (readCookedFrom .text 0 t).map fun p => (c :: p.1, p.2 + (escape c).length) := by
  unfold escape
  split_ifs with h0 ht hr hn hb hq hplain
  · rw [h0]
    exact readCookedFrom_escape (e := []) (by decide) (by decide) rfl
  · rw [ht]
    exact readCookedFrom_escape (e := []) (by decide) (by decide) rfl
  · rw [hr]
    exact readCookedFrom_escape (e := []) (by decide) (by decide) rfl
  · rw [hn]
    exact readCookedFrom_escape (e := []) (by decide) (by decide) rfl
  · rw [hb]
    exact readCookedFrom_escape (e := []) (by decide) (by decide) rfl
  · rw [hq]
    exact readCookedFrom_escape (e := []) (by decide) (by decide) rfl
  · have hallowed : StringKind.text.allowsChar c = true := rfl
    rw [List.singleton_append, readCookedFrom, if_neg hq, if_neg hr, if_neg hb, if_pos hallowed]
    rfl
  · have hform : codePointEscape c =
        '\\' :: 'u' :: ('\x7b' :: hexLower c.toNat ++ ['\x7d']) := by
      simp [codePointEscape]
    have hread : readEscape? .text ('u' :: ('\x7b' :: hexLower c.toNat ++ ['\x7d']) ++ t) =
        some (c, ('u' :: ('\x7b' :: hexLower c.toNat ++ ['\x7d'])).length) := by
      have h := readEscape?_codePoint c t
      simpa using h
    rw [hform]
    exact readCookedFrom_escape (by decide) (by decide) hread

/-- A literal is read as the text that it was written for, up to its closing quote. -/
theorem readCookedFrom_literalBody (s t : List Char) :
    readCookedFrom .text 0 (literalBody s ++ '"' :: t) = some (s, (literalBody s).length + 1) := by
  induction s with
  | nil => rfl
  | cons c s ih =>
    have hc (e : List Char) (he : ∀ r, readCookedFrom .text 0 (e ++ r) =
        (readCookedFrom .text 0 r).map fun p => (c :: p.1, p.2 + e.length)) :
        readCookedFrom .text 0 (e ++ literalBody s ++ '"' :: t) =
          some (c :: s, (e ++ literalBody s).length + 1) := by
      rw [List.append_assoc, he, ih, Option.map_some, List.length_append]
      congr 2
      omega
    rw [literalBody]
    split_ifs with hzero
    · refine hc _ fun r => ?_
      rw [hzero.1]
      exact readCookedFrom_escape (e := ['0', '0']) (by decide) (by decide) rfl
    · exact hc _ (readCookedFrom_escaped c)

/-- Two literals that begin one text are written for one text, and the same follows them. -/
theorem stringLiteral_append_inj {s t x y : List Char}
    (h : (stringLiteral s).toList ++ x = (stringLiteral t).toList ++ y) : s = t ∧ x = y := by
  simp only [stringLiteral, String.toList_ofList, List.cons_append, List.append_assoc,
    List.nil_append, List.cons.injEq, true_and] at h
  have hs := readCookedFrom_literalBody s x
  rw [h, readCookedFrom_literalBody, Option.some.injEq, Prod.mk.injEq] at hs
  obtain ⟨rfl, -⟩ := hs
  exact ⟨rfl, by simpa using h⟩

end EnumForge.Source
