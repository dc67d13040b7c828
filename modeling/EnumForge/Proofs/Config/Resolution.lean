import EnumForge.Config.File
import EnumForge.Proofs.Config.Substitution

namespace EnumForge

namespace Reference

/-- Whether a reference has nothing to stand for: its variable is not set, and it has no default. -/
def unset (env : String → Option String) (r : Reference) : Bool :=
  (env (String.ofList r.name)).isNone && r.default.isNone

/-- The notice of a default that stands in for a variable that is not set. -/
def notice? (env : String → Option String) (r : Reference) : Option Warning :=
  match env (String.ofList r.name), r.default with
  | none, some d => some (.defaultUsed (String.ofList r.name) (String.ofList d))
  | _, _ => none

variable {env : String → Option String} {r : Reference}

theorem value_of_unset (h : r.unset env = true) :
    r.value env = .error (.variableNotSet (String.ofList r.name)) := by
  rw [unset, Bool.and_eq_true, Option.isNone_iff_eq_none, Option.isNone_iff_eq_none] at h
  rw [value, h.1, h.2]

/-- A reference that has something to stand for has a value, with a notice if that is a default. -/
theorem value_of_not_unset (h : r.unset env = false) :
    ∃ v, r.value env = ⟨(r.notice? env).toList, .ok v⟩ := by
  unfold value notice?
  cases henv : env (String.ofList r.name) with
  | some v => exact ⟨v.toList, rfl⟩
  | none =>
    cases hdefault : r.default with
    | some d => exact ⟨d, rfl⟩
    | none => simp [unset, henv, hdefault] at h

/-! One turn, and all turns. -/

theorem resolveAll_cons_of_unset (h : r.unset env = true) (s : List Char) (rs : List Reference) :
    resolveAll env s (r :: rs) = .error (.variableNotSet (String.ofList r.name)) := by
  rw [resolveAll, value_of_unset h]
  rfl

/-- A turn that succeeds goes on with another text; of what it did, only its notice stays. -/
theorem resolveAll_cons_of_not_unset (h : r.unset env = false) (s : List Char)
    (rs : List Reference) :
    ∃ t, resolveAll env s (r :: rs) =
      ⟨(r.notice? env).toList ++ (resolveAll env t rs).warnings, (resolveAll env t rs).result⟩ := by
  obtain ⟨v, hv⟩ := value_of_not_unset h
  refine ⟨replaceFrom r.text v 0 s, ?_⟩
  rw [resolveAll, hv]
  rfl

/-- The turns fail at the first reference that has nothing to stand for, whatever the text is. -/
theorem resolveAll_eq_error_iff (s : List Char) (rs : List Reference) (e : Error) :
    (resolveAll env s rs).result = .error e ↔
      ∃ r, rs.find? (unset env) = some r ∧ e = .variableNotSet (String.ofList r.name) := by
  induction rs generalizing s with
  | nil => simp [resolveAll]
  | cons r rs ih =>
    cases h : r.unset env with
    | true =>
      rw [resolveAll_cons_of_unset h, List.find?_cons_of_pos h]
      simp [eq_comm]
    | false =>
      obtain ⟨t, ht⟩ := resolveAll_cons_of_not_unset h s rs
      have hneg : ¬ r.unset env = true := Bool.eq_false_iff.1 h
      rw [ht, List.find?_cons_of_neg hneg]
      exact ih t

/-- The turns before the first that fails give their notices, in order. -/
theorem warnings_resolveAll (s : List Char) (rs : List Reference) :
    (resolveAll env s rs).warnings =
      (rs.takeWhile (!unset env ·)).filterMap (notice? env) := by
  induction rs generalizing s with
  | nil => rfl
  | cons r rs ih =>
    cases h : r.unset env with
    | true =>
      rw [resolveAll_cons_of_unset h, List.takeWhile_cons, h]
      rfl
    | false =>
      obtain ⟨t, ht⟩ := resolveAll_cons_of_not_unset h s rs
      have htake : (r :: rs).takeWhile (!unset env ·) = r :: rs.takeWhile (!unset env ·) := by
        simp [h]
      rw [ht, htake]
      change (r.notice? env).toList ++ _ = _
      rw [ih t]
      cases hnotice : r.notice? env with
      | none => rw [List.filterMap_cons_none hnotice]; rfl
      | some w => rw [List.filterMap_cons_some hnotice]; rfl

/-- Variables that no reference names are not asked for. -/
theorem resolveAll_congr {other : String → Option String} {rs : List Reference}
    (h : ∀ r ∈ rs, other (String.ofList r.name) = env (String.ofList r.name)) (s : List Char) :
    resolveAll other s rs = resolveAll env s rs := by
  induction rs generalizing s with
  | nil => rfl
  | cons r rs ih =>
    obtain ⟨hr, hrs⟩ := List.forall_mem_cons.1 h
    have hvalue : r.value other = r.value env := by rw [value, value, hr]
    have hrest : (fun v => resolveAll other (replaceFrom r.text v 0 s) rs) =
        fun v => resolveAll env (replaceFrom r.text v 0 s) rs := by
      funext v
      exact ih hrs _
    rw [resolveAll, resolveAll, hvalue, hrest]

/-! A text with its references. -/

/-- No reference is written in the text, neither whole nor as a part of something else. -/
def IsPlain (text : String) : Prop := ∀ r : Reference, r.WellFormed → ¬ r.text <:+: text.toList

/-- A cut finds a reference wherever one is written. -/
theorem Splits.references_eq_nil_iff {s : List Char} {ps : List Piece} (h : Splits s ps) :
    references ps = [] ↔ ∀ r : Reference, r.WellFormed → ¬ r.text <:+: s := by
  induction h with
  | nil =>
    refine iff_of_true rfl fun r _ hr => ?_
    obtain ⟨e, he⟩ := r.text_eq_cons
    rw [List.infix_nil, he] at hr
    exact absurd hr (List.cons_ne_nil _ _)
  | @reference r s ps hr _ _ =>
    refine iff_of_false (List.cons_ne_nil _ _) fun hnone => ?_
    exact hnone r hr (List.prefix_append r.text s).isInfix
  | @char c s ps hc _ ih =>
    change references ps = [] ↔ _
    rw [ih]
    constructor
    · intro hs r hr hinfix
      rcases List.infix_cons_iff.1 hinfix with hpre | hlater
      · exact hc r hr hpre
      · exact hs r hr hlater
    · intro hall r hr hinfix
      exact hall r hr (List.infix_cons_iff.2 (.inr hinfix))

/-- Characters among which none is a dollar sign are kept as they are before the rest of a text. -/
theorem Splits.chars {u s : List Char} {ps : List Piece} (hu : '$' ∉ u) (hs : Splits s ps) :
    Splits (u ++ s) (u.map .char ++ ps) := by
  induction u with
  | nil => exact hs
  | cons c u ih =>
    rw [List.mem_cons, not_or] at hu
    exact .char (fun r _ => not_prefix_of_ne (Ne.symm hu.1) _ r) (ih hu.2)

variable {text : String} {ps : List Piece}

theorem resolveReferences_eq_error_iff (h : Splits text.toList ps) (e : Error) :
    (resolveReferences env text).result = .error e ↔
      ∃ r, (references ps).find? (unset env) = some r ∧
        e = .variableNotSet (String.ofList r.name) := by
  rw [resolveReferences, Checked.result_bind_eq_error_iff, resolveAll_eq_error_iff, h.scan_eq]
  simp

/-- Resolution of a text succeeds unless a reference has nothing to stand for. -/
theorem resolveReferences_isOk_iff (h : Splits text.toList ps) :
    (∃ out, (resolveReferences env text).result = .ok out) ↔
      (references ps).find? (unset env) = none := by
  cases hresult : (resolveReferences env text).result with
  | ok out =>
    refine iff_of_true ⟨out, rfl⟩ ?_
    rw [Option.eq_none_iff_forall_ne_some]
    intro r hr
    have herror := (resolveReferences_eq_error_iff h _).2 ⟨r, hr, rfl⟩
    rw [hresult] at herror
    simp at herror
  | error e =>
    obtain ⟨r, hr, -⟩ := (resolveReferences_eq_error_iff h e).1 hresult
    simp [hr]

theorem warnings_resolveReferences (h : Splits text.toList ps) :
    (resolveReferences env text).warnings =
      ((references ps).takeWhile (!unset env ·)).filterMap (notice? env) := by
  rw [resolveReferences, Checked.warnings_bind_pure, h.scan_eq, warnings_resolveAll]

theorem resolveReferences_congr {other : String → Option String} (h : Splits text.toList ps)
    (hsame : ∀ r ∈ references ps, other (String.ofList r.name) = env (String.ofList r.name)) :
    resolveReferences other text = resolveReferences env text := by
  rw [resolveReferences, resolveReferences, h.scan_eq, resolveAll_congr hsame]

/-- A text without references is kept, and nothing is noticed. -/
theorem resolveReferences_of_isPlain (h : IsPlain text) :
    resolveReferences env text = .ok text := by
  obtain ⟨ps, hps⟩ := exists_splits text.toList
  have hnone : references ps = [] := hps.references_eq_nil_iff.2 h
  have htext : String.ofList text.toList = text := String.ofList_toList
  rw [resolveReferences, hps.scan_eq, hnone, resolveAll]
  change Checked.ok (String.ofList text.toList) = _
  rw [htext]

end Reference

namespace Config

open Reference

variable {env : String → Option String} {text baseDir : String} {s : Settings}
  {ps qs : List Piece}

/-- Once the settings are read, the input's path is resolved and then the output's. -/
theorem ofText_of_settings (h : settingsOfText text = .ok s) :
    ofText env text baseDir = (do
      let input ← resolveReferences env s.inputPath
      let output ← resolveReferences env s.outputPath
      return ⟨{ s with inputPath := input, outputPath := output }, baseDir⟩) := by
  rw [ofText, h]
  rfl

theorem ofText_eq_error_iff (h : settingsOfText text = .ok s)
    (hp : Splits s.inputPath.toList ps) (hq : Splits s.outputPath.toList qs) (e : Error) :
    (ofText env text baseDir).result = .error e ↔
      ∃ r, ((references ps).find? (unset env)).or ((references qs).find? (unset env)) = some r ∧
        e = .variableNotSet (String.ofList r.name) := by
  have hinput : (∃ out, (resolveReferences env s.inputPath).result = .ok out) ↔
      (references ps).find? (unset env) = none := resolveReferences_isOk_iff hp
  simp only [ofText_of_settings h, Checked.result_bind_eq_error_iff, Checked.result_pure,
    reduceCtorEq, and_false, exists_false, or_false, resolveReferences_eq_error_iff hp,
    resolveReferences_eq_error_iff hq]
  cases hfind : (references ps).find? (unset env) with
  | some r =>
    have hfails : ¬ ∃ out, (resolveReferences env s.inputPath).result = .ok out := by
      simp [hinput, hfind]
    constructor
    · rintro (hr | ⟨out, hout, -⟩)
      · exact hr
      · exact absurd ⟨out, hout⟩ hfails
    · exact .inl
  | none =>
    obtain ⟨out, hout⟩ := hinput.2 hfind
    simp [hout]

theorem warnings_ofText (h : settingsOfText text = .ok s) (hp : Splits s.inputPath.toList ps)
    (hq : Splits s.outputPath.toList qs) :
    (ofText env text baseDir).warnings =
      ((references ps ++ references qs).takeWhile (!unset env ·)).filterMap (notice? env) := by
  rw [ofText_of_settings h]
  cases hfind : (references ps).find? (unset env) with
  | some r =>
    -- the input's path fails, and the output's is not looked at
    have hfails := (resolveReferences_eq_error_iff hp _).2 ⟨r, hfind, rfl⟩
    obtain ⟨hr, before, after, hsplit, hbefore⟩ := List.find?_eq_some_iff_append.1 hfind
    have hstop (more : List Reference) :
        (before ++ r :: more).takeWhile (!unset env ·) = before := by
      rw [List.takeWhile_append_of_pos hbefore, List.takeWhile_cons, hr]
      simp
    rw [Checked.warnings_bind_of_error hfails, warnings_resolveReferences hp, hsplit,
      List.append_assoc, List.cons_append, hstop, hstop]
  | none =>
    obtain ⟨out, hout⟩ := (resolveReferences_isOk_iff hp).2 hfind
    have hall : ∀ r ∈ references ps, (!unset env r) = true := by
      simpa using hfind
    rw [Checked.warnings_bind_of_ok hout, Checked.warnings_bind_pure,
      warnings_resolveReferences hp, warnings_resolveReferences hq,
      List.takeWhile_append_of_pos hall, List.takeWhile_eq_self_iff.2 hall, List.filterMap_append]

/-- A path in which no reference is written is kept. -/
theorem paths_of_ofText (h : settingsOfText text = .ok s) {c : Config}
    (hc : (ofText env text baseDir).result = .ok c) :
    (IsPlain s.inputPath → c.settings.inputPath = s.inputPath) ∧
      (IsPlain s.outputPath → c.settings.outputPath = s.outputPath) := by
  rw [ofText_of_settings h, Checked.result_bind_eq_ok_iff] at hc
  obtain ⟨input, hinput, hc⟩ := hc
  rw [Checked.result_bind_eq_ok_iff] at hc
  obtain ⟨output, houtput, hc⟩ := hc
  obtain rfl := Except.ok.inj hc
  have hkept {path out : String} (hplain : IsPlain path)
      (hout : (resolveReferences env path).result = .ok out) : out = path := by
    rw [resolveReferences_of_isPlain hplain] at hout
    exact (Except.ok.inj hout).symm
  exact ⟨fun hplain => hkept hplain hinput, fun hplain => hkept hplain houtput⟩

/-- A configuration whose text is well-formed fails exactly when a reference in its two paths has
nothing to stand for, and then with the first of these, the input's before the output's. Each default
used before that is noticed, a path without references stays, and the outcome depends on no variable
but the ones that are named. -/
theorem ofText_ends_at_first_unset (h : settingsOfText text = .ok s)
    (hp : Splits s.inputPath.toList ps) (hq : Splits s.outputPath.toList qs) :
    ((∃ name, (ofText env text baseDir).result = .error (.variableNotSet name)) ↔
      ∃ r ∈ references ps ++ references qs, r.unset env = true) ∧
    (∀ e, (ofText env text baseDir).result = .error e ↔
      ∃ r, ((references ps).find? (unset env)).or ((references qs).find? (unset env)) = some r ∧
        e = .variableNotSet (String.ofList r.name)) ∧
    (ofText env text baseDir).warnings =
      ((references ps ++ references qs).takeWhile (!unset env ·)).filterMap (notice? env) ∧
    (∀ c, (ofText env text baseDir).result = .ok c →
      (IsPlain s.inputPath → c.settings.inputPath = s.inputPath) ∧
        (IsPlain s.outputPath → c.settings.outputPath = s.outputPath)) ∧
    ∀ other : String → Option String,
      (∀ r ∈ references ps ++ references qs,
        other (String.ofList r.name) = env (String.ofList r.name)) →
      ofText other text baseDir = ofText env text baseDir := by
  refine ⟨?_, ofText_eq_error_iff h hp hq, warnings_ofText h hp hq, fun c => paths_of_ofText h, ?_⟩
  · rw [← List.find?_isSome, List.find?_append, Option.isSome_iff_exists]
    constructor
    · rintro ⟨name, hname⟩
      obtain ⟨r, hr, -⟩ := (ofText_eq_error_iff h hp hq _).1 hname
      exact ⟨r, hr⟩
    · rintro ⟨r, hr⟩
      exact ⟨_, (ofText_eq_error_iff h hp hq _).2 ⟨r, hr, rfl⟩⟩
  · intro other hsame
    obtain ⟨hinput, houtput⟩ := List.forall_mem_append.1 hsame
    rw [ofText_of_settings h, ofText_of_settings h, resolveReferences_congr hp hinput]
    simp only [resolveReferences_congr hq houtput]

/-- Paths that name one variable twice, once with a default. -/
def oneDefault : String :=
  "[generate]\ninput_path = \"$\x7bDIR:-.\x7d/in\"\noutput_path = \"$\x7bOUT\x7d/$\x7bDIR\x7d\"\n"

/-- The two paths of these settings, cut into their references. -/
def oneDefaultPieces : List Piece × List Piece :=
  ([.reference ⟨['D', 'I', 'R'], some ['.']⟩, .char '/', .char 'i', .char 'n'],
    [.reference ⟨['O', 'U', 'T'], none⟩, .char '/', .reference ⟨['D', 'I', 'R'], none⟩])

def onlyOut (name : String) : Option String := [("OUT", "gen")].lookup name

/-- The default of the first path is noticed, and the second path fails. -/
theorem oneDefault_ends :
    settingsOfText oneDefault = .ok { Settings.default with
        inputPath := "$\x7bDIR:-.\x7d/in", outputPath := "$\x7bOUT\x7d/$\x7bDIR\x7d" } ∧
      Splits "$\x7bDIR:-.\x7d/in".toList oneDefaultPieces.1 ∧
      Splits "$\x7bOUT\x7d/$\x7bDIR\x7d".toList oneDefaultPieces.2 ∧
      (ofText onlyOut oneDefault "/").result = .error (.variableNotSet "DIR") ∧
      (ofText onlyOut oneDefault "/").warnings = [.defaultUsed "DIR" "."] ∧
      ∀ other : String → Option String, other "DIR" = none → other "OUT" = some "gen" →
        ofText other oneDefault "/" = ofText onlyOut oneDefault "/" := by
  have hplain : ∀ c ∈ ['D', 'I', 'R'], isNameChar c = true := List.all_eq_true.1 (by decide)
  have hdir (d : Option (List Char)) (hd : ∀ e, d = some e → '\x7d' ∉ e) :
      WellFormed ⟨['D', 'I', 'R'], d⟩ :=
    ⟨by simp, hplain, hd⟩
  have hout : WellFormed ⟨['O', 'U', 'T'], none⟩ :=
    ⟨by simp, List.all_eq_true.1 (by decide), by simp⟩
  have hs : settingsOfText oneDefault = .ok { Settings.default with
      inputPath := "$\x7bDIR:-.\x7d/in", outputPath := "$\x7bOUT\x7d/$\x7bDIR\x7d" } := by
    decide +kernel
  have hp : Splits "$\x7bDIR:-.\x7d/in".toList oneDefaultPieces.1 :=
    .reference (hdir (some ['.']) (by simp))
      (@Splits.chars ['/', 'i', 'n'] _ _ (by decide +kernel) .nil)
  have hq : Splits "$\x7bOUT\x7d/$\x7bDIR\x7d".toList oneDefaultPieces.2 :=
    .reference hout (@Splits.chars ['/'] _ _ (by decide +kernel)
      (.reference (hdir none (by simp)) .nil))
  obtain ⟨-, herror, hwarnings, -, hsame⟩ :=
    @ofText_ends_at_first_unset onlyOut _ "/" _ _ _ hs hp hq
  refine ⟨hs, hp, hq, ?_, ?_, ?_⟩
  · exact (herror _).2 ⟨⟨['D', 'I', 'R'], none⟩, by decide +kernel, by decide +kernel⟩
  · rw [hwarnings]
    decide +kernel
  · intro other hdirectory hfile
    apply hsame
    have hnames : references oneDefaultPieces.1 ++ references oneDefaultPieces.2 =
        [⟨['D', 'I', 'R'], some ['.']⟩, ⟨['O', 'U', 'T'], none⟩, ⟨['D', 'I', 'R'], none⟩] := rfl
    have hdirName : String.ofList ['D', 'I', 'R'] = "DIR" := rfl
    have houtName : String.ofList ['O', 'U', 'T'] = "OUT" := rfl
    rw [hnames]
    simp [hdirName, houtName, hdirectory, hfile, onlyOut]

end Config

end EnumForge
