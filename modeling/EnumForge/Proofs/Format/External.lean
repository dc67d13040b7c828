import EnumForge.Format.External
import EnumForge.Proofs.Text.Utf8

namespace EnumForge.External

open EnumForge.Text EnumForge.Unicode

/-- A text of nothing but blanks and line ends. -/
def Blank (s : String) : Prop := ∀ c ∈ s.toList, isWhiteSpace c = true

/-- A program has printed a text that can stand for a source: it left with status zero, the bytes are
those of the text, and the text is blank only if the source is. -/
structure Usable (source : String) (outcome : Outcome) (text : String) : Prop where
  printed : ∃ stderr, outcome = .exited 0 (utf8 text.toList) stderr
  blank : Blank text → Blank source

theorem isBlankText_iff (s : String) : isBlankText s.toList = true ↔ Blank s :=
  List.all_eq_true

theorem printed_iff (status : Nat) (stdout stderr : List UInt8) (text : String) :
    (∃ printed, Outcome.exited status stdout stderr = .exited 0 (utf8 text.toList) printed) ↔
      status = 0 ∧ ofUtf8 stdout = .ok text.toList := by
  rw [ofUtf8_eq_ok_iff]
  constructor
  · intro hboth
    obtain ⟨printed, h⟩ := hboth
    obtain ⟨hstatus, hstdout, -⟩ := Outcome.exited.inj h
    exact ⟨hstatus, hstdout⟩
  · intro hboth
    obtain ⟨rfl, rfl⟩ := hboth
    exact ⟨stderr, rfl⟩

theorem judge_exited_eq_ok_iff (program source text : String) (status : Nat)
    (stdout stderr : List UInt8) :
    judge program source (.exited status stdout stderr) = .ok text ↔
      (status = 0 ∧ ofUtf8 stdout = .ok text.toList) ∧ (Blank text → Blank source) := by
  unfold judge
  dsimp only
  split
  · next hstatus => simp [hstatus]
  · next hstatus =>
    have hzero : status = 0 := by simpa using hstatus
    cases hread : ofUtf8 stdout with
    | error e => simp
    | ok s =>
      have hs : s = text.toList ↔ String.ofList s = text := by
        rw [← String.toList_inj, String.toList_ofList]
      simp only [hzero, true_and, Except.ok.injEq, hs, ← isBlankText_iff]
      split
      · next hempty =>
        have hblank : isBlankText s = true ∧ isBlankText source.toList = false := by
          simpa using hempty
        refine iff_of_false (by simp) ?_
        intro hboth
        obtain ⟨rfl, hsource⟩ := hboth
        rw [String.toList_ofList] at hsource
        simp [hsource hblank.1] at hblank
      · next hfull =>
        have hblank : isBlankText s = true → isBlankText source.toList = true := by
          simpa using hfull
        constructor
        · intro h
          obtain rfl := Except.ok.inj h
          rw [String.toList_ofList]
          exact ⟨rfl, hblank⟩
        · intro hboth
          obtain ⟨rfl, -⟩ := hboth
          rfl

/-- What a program printed is taken exactly where it can be used. -/
theorem judge_eq_ok_iff (program source text : String) (outcome : Outcome) :
    judge program source outcome = .ok text ↔ Usable source outcome text := by
  cases outcome with
  | notStarted cause =>
    refine iff_of_false (by simp [judge]) ?_
    intro hboth
    obtain ⟨⟨stderr, h⟩, -⟩ := hboth
    simp at h
  | killed signal stderr =>
    refine iff_of_false (by simp [judge]) ?_
    intro hboth
    obtain ⟨⟨stderr, h⟩, -⟩ := hboth
    simp at h
  | exited status stdout stderr =>
    rw [judge_exited_eq_ok_iff, ← printed_iff status stdout stderr]
    exact ⟨fun h => ⟨h.1, h.2⟩, fun h => ⟨h.printed, h.blank⟩⟩

variable (program source : String) (run : List UInt8 → Outcome)

theorem canonicalize_of_usable {text : String}
    (h : Usable source (run (utf8 source.toList)) text) (policy : FailurePolicy) :
    canonicalize (formatter program run) source policy = .ok ⟨text, false⟩ := by
  have hjudge := (judge_eq_ok_iff program source text _).2 h
  have happly : (formatter program run).apply source = .ok text := by
    simp only [formatter, hjudge, except_mapError_ok]
  rw [canonicalize, happly]

/-- What formatting comes to where the formatter gives a reason for its failure. -/
def fallback (source reason : String) : FailurePolicy → Checked Failure Canonical
  | .raw => ⟨[.formatterFailed "rustfmt" (.format "rustfmt" reason)], .ok ⟨source, true⟩⟩
  | .fail => .error (.reported (.format "rustfmt" reason))

theorem canonicalize_of_unusable
    (h : ¬ ∃ text, Usable source (run (utf8 source.toList)) text) :
    ∃ reason, ∀ policy,
      canonicalize (formatter program run) source policy = fallback source reason policy := by
  cases hjudge : judge program source (run (utf8 source.toList)) with
  | ok text => exact absurd ⟨text, (judge_eq_ok_iff program source text _).1 hjudge⟩ h
  | error reason =>
    refine ⟨reason, fun policy => ?_⟩
    have happly : (formatter program run).apply source = .error (.refused reason) := by
      simp only [formatter, hjudge, except_mapError_error]
    rw [canonicalize, happly]
    cases policy <;> rfl

/-- The output of a program is taken, unchanged and without a warning, exactly where it can be used.
In every other case the policy decides: the source is kept with one warning, or the formatting fails
with an error of the formatter. So whatever text there is, it is the output or the source. -/
theorem canonicalize_external (program source : String) (run : List UInt8 → Outcome) :
    (∀ policy text, canonicalize (formatter program run) source policy = .ok ⟨text, false⟩ ↔
      Usable source (run (utf8 source.toList)) text) ∧
    ((¬ ∃ text, Usable source (run (utf8 source.toList)) text) →
      ∃ reason, ∀ policy,
        canonicalize (formatter program run) source policy = fallback source reason policy) ∧
    ∀ policy canonical,
      (canonicalize (formatter program run) source policy).result = .ok canonical →
      canonical = ⟨source, true⟩ ∨
        canonical.fellBack = false ∧
          ∃ stderr, run (utf8 source.toList) = .exited 0 (utf8 canonical.text.toList) stderr := by
  have hunusable := canonicalize_of_unusable program source run
  by_cases husable : ∃ text, Usable source (run (utf8 source.toList)) text
  · obtain ⟨text, htext⟩ := husable
    have htaken := canonicalize_of_usable program source run htext
    refine ⟨?_, hunusable, ?_⟩
    · intro policy other
      constructor
      · intro hother
        rw [htaken policy] at hother
        have hsame : text = other := by
          have hresult := congrArg Checked.result hother
          simpa using hresult
        exact hsame ▸ htext
      · intro hother
        exact canonicalize_of_usable program source run hother policy
    · intro policy canonical hresult
      rw [htaken policy] at hresult
      obtain rfl := Except.ok.inj hresult
      exact .inr ⟨rfl, htext.printed⟩
  · obtain ⟨reason, hfallback⟩ := hunusable husable
    refine ⟨?_, hunusable, ?_⟩
    · intro policy text
      refine iff_of_false ?_ fun htext => husable ⟨text, htext⟩
      rw [hfallback policy]
      cases policy with
      | raw => simp [fallback, Checked.ok]
      | fail => simp [fallback, Checked.ok, Checked.error]
    · intro policy canonical hresult
      rw [hfallback policy] at hresult
      cases policy with
      | raw => exact .inl (Except.ok.inj hresult).symm
      | fail => simp [fallback] at hresult

end EnumForge.External
