import EnumForge.Proofs.Checked
import EnumForge.Proofs.Config.Reference
import EnumForge.Proofs.Config.Replacement

/-!
Substitution of references. In one pass, a value would take the place of each reference and the rest
would stay. The code takes one reference after the other and replaces its text wherever it stands, so
also in values that have come in and inside references that are still to come. The two agree at every
step exactly when no reference, at its turn, finds its text anywhere but in its own places.
-/

namespace EnumForge.Reference

/-- The value of a reference: that of its variable, or its default. -/
def standsFor (env : String → Option String) (r : Reference) : Option (List Char) :=
  match env (String.ofList r.name) with
  | some v => some v.toList
  | none => r.default

/-- What a reference is replaced by. -/
def substitute (env : String → Option String) (r : Reference) : List Char :=
  (r.standsFor env).getD []

theorem value_eq_ok_iff (env : String → Option String) (r : Reference) (v : List Char) :
    (r.value env).result = .ok v ↔ r.standsFor env = some v := by
  unfold value standsFor
  cases env (String.ofList r.name) with
  | some w => simp [Checked.ok]
  | none =>
    cases r.default with
    | some d => simp [Checked.result_bind_eq_ok_iff, Checked.warn]
    | none => simp

/-- One turn of the code. -/
def replaceIn (env : String → Option String) (s : List Char) (r : Reference) : List Char :=
  replaceFrom r.text (r.substitute env) 0 s

/-- The code succeeds when each reference has a value, with what the turns have made of the text. -/
theorem resolveAll_eq_ok_iff (env : String → Option String) (s : List Char) (rs : List Reference)
    (out : List Char) :
    (resolveAll env s rs).result = .ok out ↔
      (∀ r ∈ rs, (r.standsFor env).isSome = true) ∧ out = rs.foldl (replaceIn env) s := by
  induction rs generalizing s with
  | nil =>
    simp only [resolveAll, Checked.ok, Except.ok.injEq, List.not_mem_nil, false_imp_iff,
      implies_true, true_and, List.foldl_nil]
    exact eq_comm
  | cons r rs ih =>
    rw [resolveAll, Checked.result_bind_eq_ok_iff, List.forall_mem_cons, List.foldl_cons]
    simp only [value_eq_ok_iff, ih]
    constructor
    · rintro ⟨v, hv, hrs, rfl⟩
      refine ⟨⟨by rw [hv]; rfl, hrs⟩, ?_⟩
      rw [replaceIn, substitute, hv, Option.getD_some]
    · rintro ⟨⟨hr, hrs⟩, rfl⟩
      obtain ⟨v, hv⟩ := Option.isSome_iff_exists.1 hr
      refine ⟨v, hv, hrs, ?_⟩
      rw [replaceIn, substitute, hv, Option.getD_some]

theorem resolveReferences_eq_ok_iff (env : String → Option String) (text out : String) :
    (resolveReferences env text).result = .ok out ↔
      (resolveAll env text.toList (scan 0 text.toList)).result = .ok out.toList := by
  rw [resolveReferences, Checked.result_bind_eq_ok_iff]
  simp only [Checked.result_pure, Except.ok.injEq]
  constructor
  · rintro ⟨s, hs, rfl⟩
    rwa [String.toList_ofList]
  · intro h
    exact ⟨_, h, String.ofList_toList⟩

/-- Pieces with values in the places of some references. -/
def filled (env : String → Option String) (rs : List Reference) (ps : List Piece) : List Piece :=
  ps.flatMap fun
    | .char c => [.char c]
    | .reference r => if r ∈ rs then (r.substitute env).map .char else [.reference r]

/-- The text with a value in the place of each reference. -/
def substituted (env : String → Option String) (ps : List Piece) : List Char :=
  ps.flatMap fun
    | .char c => [c]
    | .reference r => r.substitute env

/-- Pieces with a text in all places of one reference. -/
def fill (r : Reference) (v : List Char) (ps : List Piece) : List Piece :=
  ps.flatMap fun p => if p = .reference r then v.map .char else [p]

theorem fill_chars (r : Reference) (v s : List Char) :
    fill r v (s.map .char) = s.map .char := by
  induction s with
  | nil => rfl
  | cons c s ih =>
    rw [List.map_cons, fill, List.flatMap_cons, if_neg (by simp)]
    exact congrArg (Piece.char c :: ·) ih

theorem fill_append (r : Reference) (v : List Char) (ps qs : List Piece) :
    fill r v (ps ++ qs) = fill r v ps ++ fill r v qs :=
  List.flatMap_append

/-- Filling in one more reference, wherever it still stands. -/
theorem filled_append_singleton (env : String → Option String) (rs : List Reference)
    (r : Reference) (ps : List Piece) :
    filled env (rs ++ [r]) ps = fill r (r.substitute env) (filled env rs ps) := by
  induction ps with
  | nil => rfl
  | cons p ps ih =>
    rw [filled, filled, List.flatMap_cons, List.flatMap_cons, fill_append]
    refine congrArg₂ (· ++ ·) ?_ ih
    cases p with
    | char c => simp [fill]
    | reference q =>
      by_cases hq : q ∈ rs
      · have hmem : q ∈ rs ++ [r] := List.mem_append_left _ hq
        simp only [hq, hmem, if_true, fill_chars]
      · by_cases hqr : q = r
        · subst hqr
          have hmem : q ∈ rs ++ [q] := by simp
          simp [hq, hmem, fill]
        · have hmem : q ∉ rs ++ [r] := by simp [hq, hqr]
          simp [hq, hmem, hqr, fill]

theorem filled_nil (env : String → Option String) (ps : List Piece) : filled env [] ps = ps := by
  induction ps with
  | nil => rfl
  | cons p ps ih =>
    rw [filled, List.flatMap_cons]
    cases p with
    | char c => exact congrArg (Piece.char c :: ·) ih
    | reference r => exact congrArg (Piece.reference r :: ·) ih

/-- With all references filled in, nothing is left to fill. -/
theorem textOf_filled_references (env : String → Option String) {rs : List Reference}
    {ps : List Piece} (h : ∀ r ∈ references ps, r ∈ rs) :
    textOf (filled env rs ps) = substituted env ps := by
  induction ps with
  | nil => rfl
  | cons p ps ih =>
    rw [filled, List.flatMap_cons, textOf_append, substituted, List.flatMap_cons]
    cases p with
    | char c => exact congrArg ([c] ++ ·) (ih h)
    | reference r =>
      obtain ⟨hr, hps⟩ := List.forall_mem_cons.1 h
      simp only [hr, if_true, textOf_chars]
      exact congrArg (r.substitute env ++ ·) (ih hps)

/-! One turn on a text that has been cut. -/

/-- Text before the first place of a reference, and text after each of its places. -/
def around (r : Reference) : List Piece → List Char × List (List Char)
  | [] => ([], [])
  | p :: ps =>
    let rest := around r ps
    if p = .reference r then ([], rest.1 :: rest.2) else (p.text ++ rest.1, rest.2)

/-- The text of a reference stands somewhere else than in its places. -/
def Strays (r : Reference) (ps : List Piece) : Prop :=
  ∃ u ∈ (r.around ps).1 :: (r.around ps).2, r.text <:+: u

instance (r : Reference) (ps : List Piece) : Decidable (r.Strays ps) :=
  inferInstanceAs (Decidable (∃ u ∈ (r.around ps).1 :: (r.around ps).2, r.text <:+: u))

theorem textOf_fill (r : Reference) (v : List Char) (ps : List Piece) :
    textOf (fill r v ps) = (r.around ps).1 ++ (r.around ps).2.flatMap (v ++ ·) := by
  induction ps with
  | nil => rfl
  | cons p ps ih =>
    rw [fill, List.flatMap_cons, textOf_append, ← fill, ih, around]
    by_cases hp : p = .reference r
    · simp [hp, textOf_chars]
    · simp [hp]

theorem textOf_eq_around (r : Reference) (ps : List Piece) :
    textOf ps = (r.around ps).1 ++ (r.around ps).2.flatMap (r.text ++ ·) := by
  induction ps with
  | nil => rfl
  | cons p ps ih =>
    rw [textOf_cons, ih, around]
    by_cases hp : p = .reference r
    · simp [hp, Piece.text]
    · simp [hp]

/-- The text of a reference holds one closing brace, at its end. -/
theorem closed_text {r : Reference} (hr : r.WellFormed) : Closed r.text := by
  obtain ⟨name, default⟩ := r
  have hname : '\x7d' ∉ name := by
    intro hmem
    exact absurd (hr.plain _ hmem) (by decide)
  cases default with
  | none =>
    refine ⟨'$' :: '\x7b' :: name, '\x7d', text_mk_none name, ?_⟩
    simp [hname]
  | some d =>
    have hd : '\x7d' ∉ d := hr.open_until_end d rfl
    refine ⟨'$' :: '\x7b' :: (name ++ ':' :: '-' :: d), '\x7d', ?_, ?_⟩
    · simp [text_mk_some]
    · simp [hname, hd]

/-- A turn does no more than fill the places of its reference exactly when the text of the reference
stands nowhere else, or is its own value. -/
theorem replaceIn_eq_iff (env : String → Option String) {r : Reference} (hr : r.WellFormed)
    (ps : List Piece) :
    replaceIn env (textOf ps) r = textOf (fill r (r.substitute env) ps) ↔
      r.substitute env = r.text ∨ ¬ r.Strays ps := by
  rw [replaceIn, textOf_fill, textOf_eq_around r ps,
    replaceFrom_flatMap_eq_iff _ (closed_text hr), Strays]
  simp only [not_exists, not_and]

/-- No reference, at its turn, finds its text outside its places, unless the text is its own value. -/
def Untangled (env : String → Option String) (ps : List Piece) : Prop :=
  ∀ rs r, rs ++ [r] <+: references ps →
    r.substitute env = r.text ∨ ¬ r.Strays (filled env rs ps)

/-- The turns up to each reference fill in the references so far exactly when none of them is led
astray. -/
theorem foldl_replaceIn_iff (env : String → Option String) {ps : List Piece}
    (hwf : ∀ r ∈ references ps, r.WellFormed) :
    (∀ rs, rs <+: references ps →
      rs.foldl (replaceIn env) (textOf ps) = textOf (filled env rs ps)) ↔ Untangled env ps := by
  constructor
  · intro h rs r hpre
    have hbefore := h rs ((List.prefix_append rs [r]).trans hpre)
    have hafter := h (rs ++ [r]) hpre
    rw [List.foldl_append, hbefore, filled_append_singleton] at hafter
    have hr : r.WellFormed := hwf r (hpre.mem (by simp))
    exact (replaceIn_eq_iff env hr _).1 hafter
  · intro h rs
    induction rs using List.reverseRecOn with
    | nil =>
      intro _
      rw [filled_nil, List.foldl_nil]
    | append_singleton rs r ih =>
      intro hpre
      have hbefore := ih ((List.prefix_append rs [r]).trans hpre)
      have hr : r.WellFormed := hwf r (hpre.mem (by simp))
      rw [List.foldl_append, hbefore, filled_append_singleton]
      exact (replaceIn_eq_iff env hr _).2 (h rs r hpre)

/-- Whenever substitution succeeds, each turn leaves the text with the values so far in their places,
and all else unchanged, exactly when the references are untangled; and then the result is that of one
pass. After a turn that went astray the result may still be the same, but only by accident. -/
theorem substitution_in_place_iff {env : String → Option String} {text out : String}
    (h : (resolveReferences env text).result = .ok out) {ps : List Piece}
    (hs : Splits text.toList ps) :
    ((∀ rs, rs <+: references ps →
        (resolveAll env text.toList rs).result = .ok (textOf (filled env rs ps))) ↔
      Untangled env ps) ∧
    (Untangled env ps → out = String.ofList (substituted env ps)) := by
  rw [resolveReferences_eq_ok_iff, hs.scan_eq, resolveAll_eq_ok_iff] at h
  obtain ⟨hset, hout⟩ := h
  have hstep (rs : List Reference) (hpre : rs <+: references ps) :
      (resolveAll env text.toList rs).result = .ok (textOf (filled env rs ps)) ↔
        rs.foldl (replaceIn env) (textOf ps) = textOf (filled env rs ps) := by
    rw [resolveAll_eq_ok_iff, hs.text_eq]
    constructor
    · intro hrs
      exact hrs.2.symm
    · intro hrs
      exact ⟨fun r hr => hset r (hpre.mem hr), hrs.symm⟩
  have hiff := foldl_replaceIn_iff env hs.wellFormed
  refine ⟨?_, ?_⟩
  · rw [← hiff]
    constructor
    · intro hall rs hpre
      exact (hstep rs hpre).1 (hall rs hpre)
    · intro hall rs hpre
      exact (hstep rs hpre).2 (hall rs hpre)
  · intro hclear
    have hlast := hiff.2 hclear (references ps) List.prefix_rfl
    rw [hs.text_eq, textOf_filled_references env fun r hr => hr, ← hout] at hlast
    rw [← hlast, String.ofList_toList]

/-- Two references with a separator between them, and more text after the second. -/
def twoReferences : List Piece :=
  [.reference ⟨['A'], none⟩, .char '/', .reference ⟨['B'], none⟩, .char '.', .char 'r', .char 's']

theorem splits_twoReferences : Splits "$\x7bA\x7d/$\x7bB\x7d.rs".toList twoReferences := by
  have hname (c : Char) (hc : isNameChar c = true) : WellFormed ⟨[c], none⟩ :=
    ⟨by simp, by simpa using hc, by simp⟩
  have hdot : Splits ['.', 'r', 's'] [.char '.', .char 'r', .char 's'] :=
    .char (fun r _ => not_prefix_of_ne (by decide) _ r)
      (.char (fun r _ => not_prefix_of_ne (by decide) _ r)
        (.char (fun r _ => not_prefix_of_ne (by decide) _ r) .nil))
  exact .reference (hname 'A' (by decide))
    (.char (fun r _ => not_prefix_of_ne (by decide) _ r)
      (.reference (hname 'B' (by decide)) hdot))

def plainValues (name : String) : Option String := [("A", "foo"), ("B", "bar")].lookup name

theorem substitution_of_plain_values :
    (resolveReferences plainValues "$\x7bA\x7d/$\x7bB\x7d.rs").result = .ok "foo/bar.rs" ∧
      Splits "$\x7bA\x7d/$\x7bB\x7d.rs".toList twoReferences ∧
      (∀ rs, rs <+: references twoReferences →
        (resolveAll plainValues "$\x7bA\x7d/$\x7bB\x7d.rs".toList rs).result =
          .ok (textOf (filled plainValues rs twoReferences))) ∧
      "foo/bar.rs" = String.ofList (substituted plainValues twoReferences) := by
  have h : (resolveReferences plainValues "$\x7bA\x7d/$\x7bB\x7d.rs").result = .ok "foo/bar.rs" := by
    decide +kernel
  have hclear : Untangled plainValues twoReferences := by
    intro rs r hpre
    right
    rcases rs with _ | ⟨a, _ | ⟨b, rs⟩⟩
    · obtain rfl : r = ⟨['A'], none⟩ := by simpa [references, twoReferences] using hpre
      decide +kernel
    · obtain ⟨rfl, rfl⟩ : a = ⟨['A'], none⟩ ∧ r = ⟨['B'], none⟩ := by
        simpa [references, twoReferences] using hpre
      decide +kernel
    · simp [references, twoReferences] at hpre
  have hboth := substitution_in_place_iff h splits_twoReferences
  exact ⟨h, splits_twoReferences, hboth.1.2 hclear, hboth.2 hclear⟩

/-- Variables of which the first holds a reference to the second. -/
def nestedValues (name : String) : Option String :=
  [("A", "$\x7bB\x7d"), ("B", "x")].lookup name

/-- The reference that the first variable holds is replaced with the second reference. -/
theorem substitution_of_reference_text :
    Splits "$\x7bA\x7d/$\x7bB\x7d.rs".toList twoReferences ∧
      (resolveReferences nestedValues "$\x7bA\x7d/$\x7bB\x7d.rs").result = .ok "x/x.rs" ∧
      String.ofList (substituted nestedValues twoReferences) = "$\x7bB\x7d/x.rs" := by
  refine ⟨splits_twoReferences, ?_, ?_⟩
  · decide +kernel
  · decide +kernel

end EnumForge.Reference
