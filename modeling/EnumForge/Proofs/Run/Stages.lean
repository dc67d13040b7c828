import EnumForge.CommandLine
import EnumForge.Proofs.Generation
import EnumForge.Proofs.Run.File
import EnumForge.Proofs.Table.Document
import EnumForge.Proofs.World.EnvironmentFile

namespace EnumForge

/-- Errors of one stage. -/
def Error.Of (stage : Stage) (e : Error) : Prop := e.stage = stage

theorem Config.settingsOfText_fails (text : String) :
    FailsOnly (Error.Of .config) (Config.settingsOfText text) := by
  unfold Config.settingsOfText
  split
  · exact failsOnly_error rfl
  · exact failsOnly_mapError Error.toml (fun _ => rfl) _

theorem Reference.value_fails (env : String → Option String) (r : Reference) :
    FailsOnly (Error.Of .config) (r.value env).result := by
  unfold Reference.value
  split
  · exact failsOnly_ok _
  · exact failsOnly_ok _
  · exact failsOnly_error rfl

theorem Reference.resolveAll_fails (env : String → Option String) (rs : List Reference)
    (s : List Char) : FailsOnly (Error.Of .config) (Reference.resolveAll env s rs).result := by
  induction rs generalizing s with
  | nil => exact failsOnly_ok s
  | cons r rs ih => exact Checked.failsOnly_bind (r.value_fails env) fun v => ih _

theorem resolveReferences_fails (env : String → Option String) (text : String) :
    FailsOnly (Error.Of .config) (resolveReferences env text).result :=
  Checked.failsOnly_bind (Reference.resolveAll_fails env _ _) fun _ => failsOnly_ok _

theorem Config.ofText_fails (env : String → Option String) (text baseDir : String) :
    FailsOnly (Error.Of .config) (Config.ofText env text baseDir).result := by
  refine Checked.failsOnly_bind ?_ fun s => ?_
  · exact Config.settingsOfText_fails text
  · refine Checked.failsOnly_bind (resolveReferences_fails env s.inputPath) fun input => ?_
    refine Checked.failsOnly_bind (resolveReferences_fails env s.outputPath) fun output => ?_
    exact failsOnly_ok _

theorem Config.ofPath_fails (w : World) (path : String) :
    FailsOnly (Error.Of .config) (Config.ofPath w path).result := by
  unfold Config.ofPath
  split
  · exact failsOnly_error rfl
  · exact Config.ofText_fails _ _ _

theorem Config.near_fails (w : World) (start : String) :
    FailsOnly (Error.Of .config) (Config.near w start).result := by
  unfold Config.near
  split
  · exact Config.ofPath_fails w _
  · exact failsOnly_ok _

/-- A text whose document offends first with a whole number below zero or beyond 64 bits. -/
def OffendsOutside (text : String) : Prop :=
  ∃ d family label n, Document.read text = .ok d ∧ d.FirstOffence family label n ∧
    n.number.isOutside = true

theorem refusal_stage (family label : String) (n : Json.Number) :
    (refusal family label n).stage = if n.isOutside then .generate else .load := by
  unfold refusal
  split <;> rfl

theorem OffendsOutside.ofText {text : String} (h : OffendsOutside text) (path : String) :
    ∃ family label n, Library.ofText path text = .error (refusal family label n) ∧
      n.isOutside = true := by
  obtain ⟨d, family, label, n, hread, hoffence, houtside⟩ := h
  refine ⟨family, label, n.number, ?_, houtside⟩
  rw [Library.ofText_of_read hread]
  exact (d.library_eq_error_iff _).2 ⟨family, label, n, hoffence, rfl⟩

/-- An error of loading is of another stage only where a text offends outside. -/
theorem Library.ofText_fails (path text : String) :
    FailsOnly (fun e => e.stage = .load ↔ ¬ OffendsOutside text) (Library.ofText path text) := by
  intro e h
  constructor
  · intro hstage hoffends
    obtain ⟨family, label, n, hfail, houtside⟩ := hoffends.ofText path
    obtain rfl := Except.error.inj (hfail.symm.trans h)
    rw [refusal_stage, if_pos houtside] at hstage
    simp at hstage
  · intro hnot
    rcases (Library.ofText_eq_error_iff path text e).1 h with
      ⟨cause, -, rfl⟩ | ⟨d, family, label, n, hread, hoffence, rfl⟩
    · rfl
    · have hinside : ¬ n.number.isOutside = true := fun houtside =>
        hnot ⟨d, family, label, n, hread, hoffence, houtside⟩
      rw [refusal_stage, if_neg hinside]

/-- A file whose text offends first with a whole number below zero or beyond 64 bits. -/
def World.OffendsOutside (w : World) (path : String) : Prop :=
  ∃ text, w.readText path = .ok text ∧ EnumForge.OffendsOutside text

theorem Library.ofPath_of_unread {w : World} {path : String} {cause : FileError}
    (h : w.readText path = .error cause) :
    Library.ofPath w path = .error (.inputRead path cause) := by
  rw [Library.ofPath, h]
  rfl

theorem Library.ofPath_fails (w : World) (path : String) :
    FailsOnly (fun e => e.stage = .load ↔ ¬ w.OffendsOutside path) (Library.ofPath w path) := by
  cases hread : w.readText path with
  | error cause =>
    rw [Library.ofPath_of_unread hread]
    apply failsOnly_error
    simp [World.OffendsOutside, hread, Error.stage]
  | ok text =>
    rw [Library.ofPath_of_read hread]
    simpa [World.OffendsOutside, hread] using Library.ofText_fails path text

theorem World.OffendsOutside.not_ok {w : World} {path : String} (h : w.OffendsOutside path)
    (library : Library) : Library.ofPath w path ≠ .ok library := by
  obtain ⟨text, hread, hoffends⟩ := h
  obtain ⟨family, label, n, hfail, -⟩ := hoffends.ofText path
  rw [Library.ofPath_of_read hread, hfail]
  simp

theorem checkFamilyName_fails (name : String) :
    FailsOnly (Error.Of .generate) (Naming.checkFamilyName name) := by
  unfold Naming.checkFamilyName
  split
  · exact failsOnly_error rfl
  · split
    · exact failsOnly_error rfl
    · exact failsOnly_ok _

theorem constantName_fails (family label : String) :
    FailsOnly (Error.Of .generate) (Naming.constantName family label) := by
  unfold Naming.constantName
  split
  · exact failsOnly_error rfl
  · exact failsOnly_ok _

theorem claim_fails (claims : Claims) (ident origin : String) :
    FailsOnly (Error.Of .generate) (claim claims ident origin) := by
  unfold claim
  split
  · exact failsOnly_error rfl
  · exact failsOnly_ok _

theorem checkMember_fails (options : Options) (family : String) (claims : Claims) (m : Member) :
    FailsOnly (Error.Of .generate) (checkMember options family claims m) := by
  have hclaim := (constantName_fails family m.label).bind fun ident =>
    claim_fails claims ident s!"{family}.{Text.quoted m.label}"
  unfold checkMember
  split
  · exact FailsOnly.bind (failsOnly_error rfl) fun _ => hclaim
  · exact hclaim

theorem checkAliases_fails (options : Options) (family : String) (pairs : List (Member × Member)) :
    FailsOnly (Error.Of .generate) (checkAliases options family pairs).result := by
  induction pairs with
  | nil => exact failsOnly_ok _
  | cons pair pairs ih =>
    refine Checked.failsOnly_bind ?_ fun _ => ih
    unfold checkAlias
    split
    · exact failsOnly_ok _
    · exact failsOnly_error rfl

theorem checkFamily_fails (options : Options) (claims : Claims) (f : Family) :
    FailsOnly (Error.Of .generate) (checkFamily options claims f).result := by
  refine Checked.failsOnly_bind ?_ fun after => ?_
  · refine (checkFamilyName_fails f.name).bind fun _ => ?_
    refine (claim_fails claims f.name _).bind fun claims => ?_
    exact FailsOnly.foldlM (checkMember_fails options f.name) f.members claims
  · exact Checked.failsOnly_bind (checkAliases_fails options f.name f.aliases) fun _ =>
      failsOnly_ok _

theorem checkFamilies_fails (options : Options) (fs : List Family) (claims : Claims) :
    FailsOnly (Error.Of .generate) (checkFamilies options claims fs).result := by
  induction fs generalizing claims with
  | nil => exact failsOnly_ok _
  | cons f fs ih => exact Checked.failsOnly_bind (checkFamily_fails options claims f) ih

theorem validate_fails (library : Library) (options : Options) :
    FailsOnly (Error.Of .generate) (validate library options).result :=
  Checked.failsOnly_bind (checkFamilies_fails options library.families []) fun _ => failsOnly_ok _

/-- What a failure says, if it says anything, is of one stage. -/
def Failure.Of (stage : Stage) (failure : Failure) : Prop :=
  ∀ e, failure = .reported e → e.stage = stage

theorem Failure.of_reported {stage : Stage} {e : Error} (h : e.stage = stage) :
    Failure.Of stage (.reported e) := by
  intro e' he
  exact Failure.reported.inj he ▸ h

theorem generate_fails (library : Library) (options : Options) :
    FailsOnly (Failure.Of .generate) (generate library options).result := by
  intro failure h e he
  subst he
  rw [generate_result] at h
  cases hv : (validate library options).result with
  | error e' =>
    simp only [hv, Except.error.injEq, Failure.reported.injEq] at h
    exact validate_fails library options e (h ▸ hv)
  | ok u =>
    simp only [hv] at h
    split at h <;> simp at h

theorem canonicalize_fails (formatter : Formatter) (source : String) (policy : FailurePolicy) :
    FailsOnly (Failure.Of .format) (canonicalize formatter source policy).result := by
  unfold canonicalize
  split
  · exact failsOnly_ok _
  · refine failsOnly_error ?_
    intro e he
    simp at he
  · cases policy with
    | raw => exact failsOnly_ok _
    | fail => exact failsOnly_error (Failure.of_reported rfl)

theorem writeOutput_fails (path text : String) (w : World) :
    FailsOnly (Failure.Of .write) (Run.writeOutput path text w).2.result :=
  failsOnly_mapError (fun cause => Failure.reported (.outputWrite path cause))
    (fun _ => Failure.of_reported rfl) _

theorem Sink.write_fails (sink : Sink) (bytes : List UInt8) :
    FailsOnly (Error.Of .write) (sink.write bytes).1 :=
  failsOnly_mapError (Error.outputWrite Writer.path) (fun _ => rfl) _

theorem Run.Stopped.stage_eq_iff {settings : Settings} {formatter : Formatter}
    {trace : String → World → World} {keepsRaw : Bool} {w v : World} {stage : Stage} {e : Error}
    (h : Run.Stopped settings formatter trace keepsRaw w stage v (.reported e)) :
    e.stage = stage ↔ ¬ w.OffendsOutside settings.inputPath := by
  -- what has been loaded does not offend, so the phases after loading tell their own stage
  have past {library : Library} (hload : Library.ofPath w settings.inputPath = .ok library)
      {stage : Stage} (hstage : e.stage = stage) :
      e.stage = stage ↔ ¬ w.OffendsOutside settings.inputPath :=
    iff_of_true hstage fun hoffends => hoffends.not_ok library hload
  cases h with
  | load failed => exact Library.ofPath_fails _ _ e failed
  | generate loaded failed => exact past loaded (generate_fails _ _ _ failed e rfl)
  | format loaded _ failed => exact past loaded (canonicalize_fails _ _ _ _ failed e rfl)
  | write loaded _ _ failed => exact past loaded (writeOutput_fails _ _ _ _ failed.2 e rfl)

namespace Run

variable {w v : World}

theorem ends_loadVariables_ok_iff (u : Unit) :
    Ends loadVariables w v (.ok u) ↔ EnvironmentFile.load w = .ok v := by
  unfold Ends loadVariables
  cases EnvironmentFile.load w <;> simp

theorem ends_loadVariables_error_iff (failure : Failure) :
    Ends loadVariables w v (.error failure) ↔
      w = v ∧ ∃ name, EnvironmentFile.load w = .error name ∧ failure = .unsettable name := by
  unfold Ends loadVariables
  cases EnvironmentFile.load w <;> simp [eq_comm]

theorem ends_configuration_ok_iff (c : Config) :
    Ends configuration w v (.ok c) ↔
      EnvironmentFile.load w = .ok v ∧ (Config.near v w.cwdPath).result = .ok c := by
  simp only [configuration, reporting, ends_world_bind_iff, ends_bind_ok_iff loadVariables,
    ends_loadVariables_ok_iff, ends_ofChecked_iff, result_mapError_reported_eq_ok_iff]
  constructor
  · rintro ⟨u, -, hload, rfl, hnear⟩
    exact ⟨hload, EnvironmentFile.cwdPath_of_load hload ▸ hnear⟩
  · rintro ⟨hload, hnear⟩
    exact ⟨v, (), hload, rfl, EnvironmentFile.cwdPath_of_load hload ▸ hnear⟩

theorem ends_configuration_reported_iff (e : Error) :
    Ends configuration w v (.error (.reported e)) ↔
      EnvironmentFile.load w = .ok v ∧ (Config.near v w.cwdPath).result = .error e := by
  simp only [configuration, reporting, ends_world_bind_iff, ends_bind_error_iff loadVariables,
    ends_loadVariables_ok_iff, ends_loadVariables_error_iff, ends_ofChecked_iff,
    result_mapError_reported_eq_error_iff]
  constructor
  · rintro (⟨-, name, -, hname⟩ | ⟨u, -, hload, rfl, e', hnear, he⟩)
    · simp at hname
    · obtain rfl := Failure.reported.inj he
      exact ⟨hload, EnvironmentFile.cwdPath_of_load hload ▸ hnear⟩
  · rintro ⟨hload, hnear⟩
    exact .inr ⟨v, (), hload, rfl, e, EnvironmentFile.cwdPath_of_load hload ▸ hnear, rfl⟩

end Run

namespace CommandLine

/-- The phase in which the command fails, and the error that it reports. -/
inductive FailsIn (w : World) : Stage → Error → Prop
  | config {v : World} {e : Error} (loaded : EnvironmentFile.load w = .ok v)
    (failed : (Config.near v w.cwdPath).result = .error e) : FailsIn w .config e
  | file {u v : World} {c : Config} {stage : Stage} {e : Error}
    (loaded : EnvironmentFile.load w = .ok v)
    (configured : (Config.near v w.cwdPath).result = .ok c)
    (stopped : Run.Stopped c.resolved (v.formatter c.resolved.formatter)
      (fun source w => w.afterFormatting source c.resolved.formatter) false v stage u
      (.reported e)) : FailsIn w stage e

theorem generate_reports_iff (w : World) (e : Error) :
    (∃ v, Run.Ends generate w v (.error (.reported e))) ↔ ∃ stage, FailsIn w stage e := by
  simp only [generate, Run.ends_bind_error_iff, Run.ends_configuration_ok_iff,
    Run.ends_configuration_reported_iff, Run.ends_generateWith_iff, Run.generateFile_error_iff]
  constructor
  · rintro ⟨u, ⟨hload, hfail⟩ | ⟨v, c, ⟨hload, hconfig⟩, stage, hstopped⟩⟩
    · exact ⟨.config, .config hload hfail⟩
    · exact ⟨stage, .file hload hconfig hstopped⟩
  · rintro ⟨stage, hfails⟩
    cases hfails with
    | config hload hfail => exact ⟨_, .inl ⟨hload, hfail⟩⟩
    | file hload hconfig hstopped =>
      exact ⟨_, .inr ⟨_, _, ⟨hload, hconfig⟩, _, hstopped⟩⟩

/-- The table that the command loads offends first with a whole number below zero or beyond 64
bits. -/
def OffendsOutside (w : World) : Prop :=
  ∃ v c, EnvironmentFile.load w = .ok v ∧ (Config.near v w.cwdPath).result = .ok c ∧
    v.OffendsOutside c.resolved.inputPath

theorem FailsIn.stage_eq_iff {w : World} {stage : Stage} {e : Error} (h : FailsIn w stage e) :
    e.stage = stage ↔ ¬ OffendsOutside w := by
  cases h with
  | config loaded failed =>
    apply iff_of_true (Config.near_fails _ _ e failed)
    rintro ⟨v, c, hload, hconfig, -⟩
    obtain rfl := Except.ok.inj (loaded.symm.trans hload)
    simp [failed] at hconfig
  | file loaded configured stopped =>
    simpa [OffendsOutside, loaded, configured] using stopped.stage_eq_iff

theorem run_of_reported {w : World} {e : Error}
    (h : (generate w).2.result = .error (.reported e)) :
    run [] w = ((generate w).1.tree, ⟨1, "", s!"enumgen: {e.stage.name} failed: {e.message}\n"⟩) := by
  simp only [run, Request.ofArguments, h, failureAnswer]

end CommandLine

/-- Each phase fails only with errors of its own stage, but for a table that offends outside; so the
command names the phase that failed unless it loads such a table. -/
theorem stages_of_errors (w : World) (env : String → Option String) (path text baseDir : String)
    (library : Library) (options : Options) (formatter : Formatter) (policy : FailurePolicy)
    (sink : Sink) (bytes : List UInt8) :
    FailsOnly (Error.Of .config) (Config.ofText env text baseDir).result ∧
    FailsOnly (Error.Of .config) (Config.ofPath w path).result ∧
    FailsOnly (Error.Of .config) (Config.near w path).result ∧
    FailsOnly (fun e => e.stage = .load ↔ ¬ OffendsOutside text) (Library.ofText path text) ∧
    FailsOnly (fun e => e.stage = .load ↔ ¬ w.OffendsOutside path) (Library.ofPath w path) ∧
    FailsOnly (Error.Of .generate) (validate library options).result ∧
    FailsOnly (Failure.Of .generate) (generate library options).result ∧
    FailsOnly (Failure.Of .format) (canonicalize formatter text policy).result ∧
    FailsOnly (Failure.Of .write) (Run.writeOutput path text w).2.result ∧
    FailsOnly (Error.Of .write) (sink.write bytes).1 ∧
    ∀ e, (CommandLine.generate w).2.result = .error (.reported e) →
      (CommandLine.run [] w).2 = ⟨1, "", s!"enumgen: {e.stage.name} failed: {e.message}\n"⟩ ∧
      (∃ stage, CommandLine.FailsIn w stage e) ∧
      ∀ stage, CommandLine.FailsIn w stage e →
        (e.stage = stage ↔ ¬ CommandLine.OffendsOutside w) := by
  refine ⟨Config.ofText_fails env text baseDir, Config.ofPath_fails w path,
    Config.near_fails w path, Library.ofText_fails path text, Library.ofPath_fails w path,
    validate_fails library options, generate_fails library options,
    canonicalize_fails formatter text policy, writeOutput_fails path text w,
    sink.write_fails bytes, ?_⟩
  intro e h
  refine ⟨congrArg Prod.snd (CommandLine.run_of_reported h), ?_, ?_⟩
  · exact (CommandLine.generate_reports_iff w e).1 ⟨_, rfl, h⟩
  · intro stage hfails
    exact hfails.stage_eq_iff

/-- A table with a fraction for a value. -/
def Document.fractionText : String := "\x7b\"Color\":\x7b\"Red\":0.5\x7d\x7d"

theorem fractionText_fails_in_load :
    Library.ofText inlinePath Document.fractionText =
        .error (.notAnInteger "Color" "Red" "0.5") ∧
      ¬ OffendsOutside Document.fractionText := by
  have hfail : Library.ofText inlinePath Document.fractionText =
      .error (.notAnInteger "Color" "Red" "0.5") := by decide +kernel
  obtain ⟨-, -, -, hstage, -⟩ := stages_of_errors ⟨⟨[]⟩, [], []⟩ (fun _ => none) inlinePath
    Document.fractionText "" .empty .default .passThrough .raw ⟨none, true⟩ []
  exact ⟨hfail, (hstage _ hfail).1 rfl⟩

/-- A table with a number below zero for a value. -/
def Document.negativeText : String := "\x7b\"Color\":\x7b\"Red\":-1\x7d\x7d"

theorem negativeText_not_of_load :
    Library.ofText inlinePath Document.negativeText =
        .error (.outOfRange "Color" "Red" "-1" .u64) ∧
      (Error.outOfRange "Color" "Red" "-1" .u64).stage ≠ .load := by
  have hfail : Library.ofText inlinePath Document.negativeText =
      .error (.outOfRange "Color" "Red" "-1" .u64) := by decide +kernel
  exact ⟨hfail, by decide⟩

end EnumForge
