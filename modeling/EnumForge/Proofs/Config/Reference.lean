import EnumForge.Config.Reference
import Mathlib.Data.List.TakeWhile

namespace EnumForge.Reference

/-- A reference that can be written: a name without colons, and no closing brace before the end. -/
structure WellFormed (r : Reference) : Prop where
  named : r.name ≠ []
  plain : ∀ c ∈ r.name, isNameChar c = true
  open_until_end : ∀ d, r.default = some d → '\x7d' ∉ d

theorem text_mk_none (name : List Char) :
    text ⟨name, none⟩ = '$' :: '\x7b' :: (name ++ ['\x7d']) := by
  simp [text]

theorem text_mk_some (name d : List Char) :
    text ⟨name, some d⟩ = '$' :: '\x7b' :: (name ++ ':' :: '-' :: (d ++ ['\x7d'])) := by
  simp [text]

/-- Up to the first character that fails the test, and from it on. -/
theorem takeWhile_dropWhile_append {p : Char → Bool} {a s : List Char} {z : Char}
    (ha : ∀ c ∈ a, p c = true) (hz : p z = false) :
    (a ++ z :: s).takeWhile p = a ∧ (a ++ z :: s).dropWhile p = z :: s := by
  have hneg : ¬ p z = true := Bool.eq_false_iff.1 hz
  constructor
  · rw [List.takeWhile_append_of_pos ha, List.takeWhile_cons_of_neg hneg, List.append_nil]
  · rw [List.dropWhile_append_of_pos ha, List.dropWhile_cons_of_neg hneg]

theorem takeWhile_ne_append {z : Char} {q : List Char} (h : z ∈ q) :
    ∃ s, q.takeWhile (· ≠ z) ++ z :: s = q := by
  induction q with
  | nil => simp at h
  | cons c q ih =>
    by_cases hc : c = z
    · refine ⟨q, ?_⟩
      rw [List.takeWhile_cons_of_neg (by simpa using hc), hc, List.nil_append]
    · obtain ⟨s, hs⟩ := ih ((List.mem_cons.1 h).resolve_left (Ne.symm hc))
      refine ⟨s, ?_⟩
      rw [List.takeWhile_cons_of_pos (by simpa using hc), List.cons_append, hs]

/-- A reference is read where its text stands, and nowhere else. -/
theorem ofTail?_eq_some_iff (s : List Char) (r : Reference) :
    ofTail? s = some r ↔ r.WellFormed ∧ r.text <+: '$' :: s := by
  constructor
  · intro h
    unfold ofTail? at h
    split at h
    · next s =>
      dsimp only at h
      split at h
      · simp at h
      · next hname =>
        have hnamed : s.takeWhile isNameChar ≠ [] := by
          simpa using hname
        have hplain : ∀ c ∈ s.takeWhile isNameChar, isNameChar c = true :=
          fun c hc => List.mem_takeWhile_imp hc
        have hcut := List.takeWhile_append_dropWhile (p := isNameChar) (l := s)
        split at h
        · next rest hdrop =>
          obtain rfl := Option.some.inj h
          refine ⟨⟨hnamed, hplain, by simp⟩, rest, ?_⟩
          rw [text_mk_none]
          rw [hdrop] at hcut
          simpa using hcut
        · next q hdrop =>
          split at h
          · next hclosed =>
            obtain rfl := Option.some.inj h
            obtain ⟨rest, hq⟩ := takeWhile_ne_append (List.contains_iff_mem.1 hclosed)
            have hopen : '\x7d' ∉ q.takeWhile (· ≠ '\x7d') := by
              intro hmem
              have hne := List.mem_takeWhile_imp hmem
              simp at hne
            refine ⟨⟨hnamed, hplain, ?_⟩, rest, ?_⟩
            · rintro d ⟨⟩
              exact hopen
            · rw [text_mk_some]
              rw [hdrop, ← hq] at hcut
              simpa using hcut
          · simp at h
        · simp at h
    · simp at h
  · rintro ⟨⟨hnamed, hplain, hopen⟩, rest, hrest⟩
    obtain ⟨name, default⟩ := r
    cases default with
    | none =>
      rw [text_mk_none] at hrest
      have hs : s = '\x7b' :: (name ++ '\x7d' :: rest) := by
        simpa using hrest.symm
      obtain ⟨htake, hdrop⟩ :=
        takeWhile_dropWhile_append (z := '\x7d') (s := rest) hplain (by decide)
      have hne : name.isEmpty = false := List.isEmpty_eq_false_iff.2 hnamed
      simp only [hs, ofTail?, htake, hdrop, hne, Bool.false_eq_true, if_false]
    | some d =>
      rw [text_mk_some] at hrest
      have hs : s = '\x7b' :: (name ++ ':' :: '-' :: (d ++ '\x7d' :: rest)) := by
        simpa using hrest.symm
      obtain ⟨htake, hdrop⟩ := takeWhile_dropWhile_append (z := ':')
        (s := '-' :: (d ++ '\x7d' :: rest)) hplain (by decide)
      have hd : ∀ c ∈ d, decide (c ≠ '\x7d') = true := by
        intro c hc
        rw [decide_eq_true_eq]
        rintro rfl
        exact hopen d rfl hc
      have hdefault := (takeWhile_dropWhile_append (z := '\x7d') (s := rest) hd (by decide)).1
      have hne : name.isEmpty = false := List.isEmpty_eq_false_iff.2 hnamed
      have hclosed : (d ++ '\x7d' :: rest).contains '\x7d' = true := by simp
      simp only [hs, ofTail?, htake, hdrop, hne, hclosed, hdefault, Bool.false_eq_true, if_false,
        if_true]

/-- A part of a text: a character that is kept, or a reference. -/
inductive Piece
  | char (c : Char)
  | reference (r : Reference)
deriving DecidableEq, Repr

def Piece.text : Piece → List Char
  | char c => [c]
  | reference r => r.text

def textOf (ps : List Piece) : List Char := ps.flatMap Piece.text

def references (ps : List Piece) : List Reference :=
  ps.filterMap fun
    | .reference r => some r
    | .char _ => none

/-- A text cut into the references that match leftmost, without overlap, and the characters at which
no reference begins. -/
inductive Splits : List Char → List Piece → Prop
  | nil : Splits [] []
  | reference {r : Reference} {s : List Char} {ps : List Piece} (hr : r.WellFormed)
      (hs : Splits s ps) : Splits (r.text ++ s) (.reference r :: ps)
  | char {c : Char} {s : List Char} {ps : List Piece}
      (hc : ∀ r : Reference, r.WellFormed → ¬ r.text <+: c :: s) (hs : Splits s ps) :
      Splits (c :: s) (.char c :: ps)

@[simp] theorem textOf_nil : textOf [] = [] := rfl

@[simp] theorem textOf_cons (p : Piece) (ps : List Piece) :
    textOf (p :: ps) = p.text ++ textOf ps := rfl

theorem textOf_append (ps qs : List Piece) : textOf (ps ++ qs) = textOf ps ++ textOf qs :=
  List.flatMap_append

theorem textOf_chars (s : List Char) : textOf (s.map .char) = s := by
  induction s with
  | nil => rfl
  | cons c s ih => rw [List.map_cons, textOf_cons, ih, Piece.text, List.singleton_append]

theorem text_eq_cons (r : Reference) : ∃ e, r.text = '$' :: e := by
  unfold text
  exact ⟨_, rfl⟩

theorem not_prefix_of_ne {c : Char} (h : c ≠ '$') (s : List Char) (r : Reference) :
    ¬ r.text <+: c :: s := by
  obtain ⟨e, he⟩ := r.text_eq_cons
  rw [he, List.cons_prefix_cons]
  intro hpre
  exact h hpre.1.symm

/-- At most one reference begins at a place. -/
theorem eq_of_begins {r q : Reference} {s : List Char} (hr : r.WellFormed) (hq : q.WellFormed)
    (hrs : r.text <+: s) (hqs : q.text <+: s) : r = q := by
  cases s with
  | nil =>
    obtain ⟨e, he⟩ := r.text_eq_cons
    rw [he] at hrs
    simp at hrs
  | cons c s =>
    have hc : c = '$' := by
      by_contra hne
      exact not_prefix_of_ne hne s r hrs
    rw [hc] at hrs hqs
    have htail := (ofTail?_eq_some_iff s r).2 ⟨hr, hrs⟩
    rw [(ofTail?_eq_some_iff s q).2 ⟨hq, hqs⟩] at htail
    exact (Option.some.inj htail).symm

theorem scan_skip (e s : List Char) : scan e.length (e ++ s) = scan 0 s := by
  induction e with
  | nil => rfl
  | cons c e ih => exact ih

namespace Splits

variable {s : List Char} {ps : List Piece}

theorem text_eq (h : Splits s ps) : textOf ps = s := by
  induction h with
  | nil => rfl
  | reference _ _ ih => rw [textOf_cons, ih, Piece.text]
  | char _ _ ih => rw [textOf_cons, ih, Piece.text, List.singleton_append]

theorem wellFormed (h : Splits s ps) : ∀ r ∈ references ps, r.WellFormed := by
  induction h with
  | nil => simp [references]
  | reference hr _ ih => exact List.forall_mem_cons.2 ⟨hr, ih⟩
  | char _ _ ih => exact ih

/-- What a cut text begins with. -/
theorem inversion (h : Splits s ps) :
    (s = [] ∧ ps = []) ∨
    (∃ r t qs, r.WellFormed ∧ s = r.text ++ t ∧ ps = .reference r :: qs ∧ Splits t qs) ∨
    ∃ c t qs, (∀ r : Reference, r.WellFormed → ¬ r.text <+: c :: t) ∧ s = c :: t ∧
      ps = .char c :: qs ∧ Splits t qs := by
  cases h with
  | nil => exact .inl ⟨rfl, rfl⟩
  | reference hr hs => exact .inr (.inl ⟨_, _, _, hr, rfl, rfl, hs⟩)
  | char hc hs => exact .inr (.inr ⟨_, _, _, hc, rfl, rfl, hs⟩)

/-- A text can be cut in one way only. -/
theorem unique {qs : List Piece} (h : Splits s ps) (k : Splits s qs) : ps = qs := by
  induction h generalizing qs with
  | nil =>
    rcases k.inversion with ⟨-, rfl⟩ | ⟨r, t, _, -, ht, -⟩ | ⟨c, t, _, -, ht, -⟩
    · rfl
    · obtain ⟨e, he⟩ := r.text_eq_cons
      simp [he] at ht
    · simp at ht
  | @reference r s ps hr hs ih =>
    rcases k.inversion with ⟨hnil, -⟩ | ⟨q, t, us, hq, ht, rfl, hus⟩ | ⟨c, t, us, hc, ht, -⟩
    · obtain ⟨e, he⟩ := r.text_eq_cons
      simp [he] at hnil
    · have hrq : r = q := eq_of_begins hr hq (List.prefix_append _ s) ⟨t, ht.symm⟩
      subst hrq
      have hst : s = t := List.append_cancel_left ht
      subst hst
      rw [ih hus]
    · exact absurd ⟨s, ht⟩ (hc r hr)
  | @char c s ps hc hs ih =>
    rcases k.inversion with ⟨hnil, -⟩ | ⟨q, t, us, hq, ht, -, -⟩ | ⟨d, t, us, -, ht, rfl, hus⟩
    · simp at hnil
    · exact absurd ⟨t, ht.symm⟩ (hc q hq)
    · obtain ⟨rfl, rfl⟩ := List.cons.inj ht
      rw [ih hus]

/-- The code finds the references of the cut. -/
theorem scan_eq (h : Splits s ps) : scan 0 s = references ps := by
  induction h with
  | nil => rfl
  | @reference r s ps hr _ ih =>
    obtain ⟨e, he⟩ := r.text_eq_cons
    have htail : ofTail? (e ++ s) = some r := by
      rw [ofTail?_eq_some_iff, he]
      exact ⟨hr, List.prefix_append ('$' :: e) s⟩
    have hlength : r.text.length - 1 = e.length := by
      rw [he, List.length_cons, Nat.add_sub_cancel]
    rw [he, List.cons_append, scan, if_pos rfl, htail]
    dsimp only
    rw [hlength, scan_skip, ih]
    rfl
  | @char c s ps hc _ ih =>
    by_cases hdollar : c = '$'
    · subst hdollar
      have htail : ofTail? s = none := by
        rw [Option.eq_none_iff_forall_ne_some]
        intro r hr
        obtain ⟨hwf, hpre⟩ := (ofTail?_eq_some_iff s r).1 hr
        exact hc r hwf hpre
      rw [scan, if_pos rfl, htail]
      exact ih
    · rw [scan, if_neg hdollar]
      exact ih

end Splits

/-- Each text can be cut. -/
theorem exists_splits (s : List Char) : ∃ ps, Splits s ps := by
  induction hn : s.length using Nat.strongRecOn generalizing s with
  | ind n ih =>
    cases s with
    | nil => exact ⟨[], .nil⟩
    | cons c s =>
      by_cases h : ∃ r : Reference, r.WellFormed ∧ r.text <+: c :: s
      · obtain ⟨r, hr, t, ht⟩ := h
        have hlt : t.length < n := by
          obtain ⟨e, he⟩ := r.text_eq_cons
          have hlength := congrArg List.length ht
          rw [he, List.length_append, List.length_cons] at hlength
          omega
        obtain ⟨ps, hps⟩ := ih t.length hlt t rfl
        rw [← ht]
        exact ⟨_, .reference hr hps⟩
      · have hnone : ∀ r : Reference, r.WellFormed → ¬ r.text <+: c :: s := by
          intro r hr hpre
          exact h ⟨r, hr, hpre⟩
        have hlt : s.length < n := by
          rw [← hn, List.length_cons]
          omega
        obtain ⟨ps, hps⟩ := ih s.length hlt s rfl
        exact ⟨_, .char hnone hps⟩

end EnumForge.Reference
