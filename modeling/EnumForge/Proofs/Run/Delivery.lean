import EnumForge.Proofs.Run.Effect

namespace EnumForge

open Text

namespace Writer

/-- Why a writer does not take what is left, or is not flushed where nothing is left. -/
inductive Refuses (w : Writer) (arrived : List UInt8) : List UInt8 → FileError → Prop
  | fails {b : UInt8} {bs : List UInt8} {cause : FileError}
    (failed : w.take arrived (b :: bs) = .error cause) : Refuses w arrived (b :: bs) cause
  | stalls {b : UInt8} {bs : List UInt8} (none : w.take arrived (b :: bs) = .ok 0) :
    Refuses w arrived (b :: bs) stalled
  | unflushed {cause : FileError} (failed : w.flush arrived = .error cause) :
    Refuses w arrived [] cause

/-- The loop stops where nothing is left, or where the writer refuses what is left. -/
theorem writeAll_spec (w : Writer) (arrived offered : List UInt8) :
    ∃ rest, arrived ++ offered = (w.writeAll arrived offered).2 ++ rest ∧
      ((w.writeAll arrived offered).1 = .ok () ∧ rest = [] ∨
        ∃ cause, (w.writeAll arrived offered).1 = .error cause ∧ rest ≠ [] ∧
          w.Refuses (w.writeAll arrived offered).2 rest cause) := by
  fun_induction writeAll w arrived offered with
  | case1 arrived => exact ⟨[], rfl, .inl ⟨rfl, rfl⟩⟩
  | case2 arrived b bs cause htake =>
    exact ⟨b :: bs, rfl, .inr ⟨cause, rfl, List.cons_ne_nil b bs, .fails htake⟩⟩
  | case3 arrived b bs htake =>
    exact ⟨b :: bs, rfl, .inr ⟨stalled, rfl, List.cons_ne_nil b bs, .stalls htake⟩⟩
  | case4 arrived b bs n htake ih =>
    obtain ⟨rest, hrest, hstop⟩ := ih
    refine ⟨rest, ?_, hstop⟩
    rw [← hrest, List.append_assoc, List.cons_append, List.take_append_drop]

/-- What became of bytes that were to be written: the result, and what has arrived. -/
structure Delivered (w : Writer) (bytes : List UInt8) (result : Except Failure Nat)
    (arrived : List UInt8) : Prop where
  begins : arrived <+: bytes
  ok_iff : ∀ n, result = .ok n ↔ (arrived = bytes ∧ w.flush bytes = .ok ()) ∧ n = bytes.length
  refused : ¬ (arrived = bytes ∧ w.flush bytes = .ok ()) →
    ∃ rest cause, bytes = arrived ++ rest ∧ w.Refuses arrived rest cause ∧
      result = .error (.reported (.outputWrite path cause))

theorem delivered_of_stopped {w : Writer} {arrived rest : List UInt8} {cause : FileError}
    (h : w.Refuses arrived rest cause) :
    w.Delivered (arrived ++ rest) (.error (.reported (.outputWrite path cause))) arrived := by
  have hpart : ¬ (arrived = arrived ++ rest ∧ w.flush (arrived ++ rest) = .ok ()) := by
    intro hboth
    obtain ⟨hall, hflush⟩ := hboth
    have hrest : rest = [] := by simpa using hall
    subst hrest
    cases h with
    | unflushed failed => simp [failed] at hflush
  refine ⟨List.prefix_append arrived rest, ?_, ?_⟩
  · intro n
    exact iff_of_false (by simp) fun h => hpart h.1
  · intro _
    exact ⟨rest, cause, rfl, h, rfl⟩

theorem delivered_write (w : Writer) (bytes : List UInt8) :
    w.Delivered bytes ((w.write bytes).1.mapError .reported) (w.write bytes).2 := by
  obtain ⟨rest, hbytes, hstop⟩ := w.writeAll_spec [] bytes
  rw [List.nil_append] at hbytes
  unfold write
  rcases hloop : w.writeAll [] bytes with ⟨done, arrived⟩
  rw [hloop] at hbytes hstop
  rcases hstop with ⟨rfl, rfl⟩ | ⟨cause, rfl, -, hrefuses⟩
  · have hall : bytes = arrived := by simpa using hbytes
    subst hall
    cases hflush : w.flush bytes with
    | error cause =>
      have hrefuses : w.Refuses bytes [] cause := .unflushed hflush
      simpa [Except.bind, Except.map, hflush] using delivered_of_stopped hrefuses
    | ok u =>
      refine ⟨List.prefix_refl bytes, ?_, ?_⟩
      · intro n
        simp [Except.bind, Except.map, hflush, eq_comm]
      · intro hpart
        exact absurd ⟨rfl, hflush⟩ hpart
  · rw [hbytes]
    exact delivered_of_stopped hrefuses

end Writer

variable {library : Library} {options : Options} {formatter : Formatter}

/-! Nothing arrives before there is a text. -/

theorem produce_of_invalid {e : Error} (policy : FailurePolicy)
    (h : (validate library options).result = .error e) :
    (produce library options formatter policy).result = .error (.reported e) := by
  have hgenerate : (generate library options).result = .error (.reported e) := by
    rw [generate_result, h]
  exact Checked.result_bind_of_error hgenerate _

theorem produce_of_generate {source : String} (policy : FailurePolicy)
    (h : (generate library options).result = .ok source) :
    (produce library options formatter policy).result =
      (canonicalize formatter source policy).result :=
  Checked.result_bind_of_ok h _

theorem generateTo_of_error (writer : Writer) {failure : Failure}
    (h : (produce library options formatter .fail).result = .error failure) :
    (generateTo writer library options formatter).1.result = .error failure ∧
      (generateTo writer library options formatter).2 = [] := by
  simp [generateTo, h]

theorem generateTo_of_text (writer : Writer) {text : String} {fellBack : Bool}
    (h : (produce library options formatter .fail).result = .ok ⟨text, fellBack⟩) :
    writer.Delivered (utf8 text.toList) (generateTo writer library options formatter).1.result
      (generateTo writer library options formatter).2 := by
  have hwrite := writer.delivered_write (utf8 text.toList)
  simpa [generateTo, h] using hwrite

/-- What a run leaves in its output where the formatter succeeds. -/
theorem Run.holds_of_generateFile {settings : Settings} {trace : String → World → World}
    {keepsRaw : Bool} {w v : World} {report : Report} {source text : String}
    (hload : Library.ofPath w settings.inputPath = .ok library)
    (hgenerate : (generate library settings.options).result = .ok source)
    (hformat : formatter.apply source = .ok text)
    (h : Ends (generateFile settings formatter trace keepsRaw) w v (.ok report)) :
    v.tree.readBytes v.cwd settings.outputPath = .ok (utf8 text.toList) ∧
      report.fellBack = false ∧ report.bytesWritten = (utf8 text.toList).length := by
  obtain ⟨library', source', canonical, hfinished, rfl⟩ := (generateFile_ok_iff w v report).1 h
  obtain rfl := Except.ok.inj (hload.symm.trans hfinished.loaded)
  obtain rfl := Except.ok.inj (hgenerate.symm.trans hfinished.generated)
  have hcanonical : canonical = ⟨text, false⟩ := by
    have hresult := hfinished.canonicalized
    simp only [canonicalize, hformat] at hresult
    exact (Except.ok.inj hresult).symm
  have hwrote := wrote_of_writeOutput hfinished.written
  subst hcanonical
  exact ⟨hwrote.holds, rfl, (Text.length_utf8 text).symm⟩

/-- Where generation does not break off, a writer is given nothing and the error of the checks or of
the formatter is returned, or it is given the formatted text: what arrives is a beginning of that
text, and success means that all of it has arrived and the writer has been flushed. A run to a file
writes the same text, whatever its policy. -/
theorem generateTo_delivers (writer : Writer) (library : Library) (options : Options)
    (formatter : Formatter)
    (hnames : ∀ name, (generate library options).result ≠ .error (.unemittable name)) :
    (∃ e, (validate library options).result = .error e ∧
      (generateTo writer library options formatter).1.result = .error (.reported e) ∧
      (generateTo writer library options formatter).2 = []) ∨
    ∃ source, (generate library options).result = .ok source ∧
      (∀ fault, formatter.apply source = .error fault →
        (generateTo writer library options formatter).1.result = .error
          (match fault with
          | .refused reason => .reported (.format formatter.name reason)
          | .brokenOff => .unformattable) ∧
        (generateTo writer library options formatter).2 = []) ∧
      ∀ text, formatter.apply source = .ok text →
        writer.Delivered (utf8 text.toList) (generateTo writer library options formatter).1.result
          (generateTo writer library options formatter).2 ∧
        ∀ (settings : Settings) (trace : String → World → World) (keepsRaw : Bool) (w v : World)
          (report : Report), settings.options = options →
          Library.ofPath w settings.inputPath = .ok library →
          Run.Ends (Run.generateFile settings formatter trace keepsRaw) w v (.ok report) →
          v.tree.readBytes v.cwd settings.outputPath = .ok (utf8 text.toList) ∧
            report.fellBack = false ∧ report.bytesWritten = (utf8 text.toList).length := by
  cases hvalid : (validate library options).result with
  | error e =>
    have hproduce := @produce_of_invalid _ _ formatter _ .fail hvalid
    exact .inl ⟨e, rfl, generateTo_of_error writer hproduce⟩
  | ok u =>
    right
    have hwritable : library.unwritable? options.width = none := by
      have hresult := generate_result library options
      rw [hvalid] at hresult
      cases hfirst : library.unwritable? options.width with
      | none => rfl
      | some name =>
        rw [hfirst] at hresult
        exact absurd hresult (hnames name)
    have hgenerate := generate_of_validate hvalid hwritable
    have hproduce := @produce_of_generate _ _ formatter _ .fail hgenerate
    refine ⟨_, hgenerate, ?_, ?_⟩
    · intro fault hfault
      apply generateTo_of_error
      rw [hproduce, canonicalize, hfault]
      cases fault <;> rfl
    · intro text htext
      constructor
      · apply @generateTo_of_text _ _ _ _ _ false
        rw [hproduce, canonicalize, htext]
        rfl
      · intro settings trace keepsRaw w v report hoptions hload hends
        subst hoptions
        exact Run.holds_of_generateFile hload hgenerate htext hends

/-- All of a text may arrive and yet the writer fail: it cannot be flushed. -/
theorem preferences_unflushed :
    (∀ name, (generate Library.preferences .default).result ≠ .error (.unemittable name)) ∧
      (generateInto ⟨none, false⟩ .preferences .default .passThrough).2 =
        utf8 (Library.preferences.text .u32).toList ∧
      (generateInto ⟨none, false⟩ .preferences .default .passThrough).1.result =
        .error (.reported (.outputWrite Writer.path (.other "flush refused"))) := by
  have hgenerate := generate_preferences
  have hnames : ∀ name, (generate Library.preferences .default).result ≠
      .error (.unemittable name) := by
    intro name h
    simp [hgenerate] at h
  refine ⟨hnames, ?_⟩
  unfold generateInto
  rcases generateTo_delivers (Sink.mk none false).writer .preferences .default .passThrough hnames
    with ⟨e, hvalid, -⟩ | ⟨source, hsource, -, hformatted⟩
  · rw [generate_result, hvalid] at hgenerate
    simp at hgenerate
  · obtain rfl := Except.ok.inj (hgenerate.symm.trans hsource)
    obtain ⟨hdelivered, -⟩ := hformatted _ rfl
    have hflush (bytes : List UInt8) :
        (Sink.mk none false).writer.flush bytes = .error (.other "flush refused") := rfl
    obtain ⟨rest, cause, hbytes, hrefuses, hresult⟩ := hdelivered.refused fun h => by
      simp only [hflush, reduceCtorEq, and_false] at h
    cases hrefuses with
    | fails failed => simp [Sink.writer] at failed
    | stalls none => simp [Sink.writer] at none
    | unflushed failed =>
      obtain rfl := Except.error.inj failed
      rw [List.append_nil] at hbytes
      exact ⟨hbytes.symm, hresult⟩

end EnumForge
