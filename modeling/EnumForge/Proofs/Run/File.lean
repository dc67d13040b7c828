import EnumForge.Proofs.Run.Basic
import EnumForge.Run.File

namespace EnumForge

theorem Library.ofPath_of_read {w : World} {path text : String} (h : w.readText path = .ok text) :
    Library.ofPath w path = Library.ofText path text := by
  rw [Library.ofPath, h]
  rfl

namespace Run

variable (settings : Settings) (formatter : Formatter) (trace : String → World → World)
  (keepsRaw : Bool)

/-- The surroundings once a source has been kept, where it is to be, and formatted. -/
def formatted (source : String) (w : World) : World :=
  trace source (if keepsRaw then w.log rawName source false else w)

/-- What a run that finishes tells. -/
def reportOf (library : Library) (canonical : Canonical) : Report where
  outputPath := settings.outputPath
  bytesWritten := canonical.text.utf8ByteSize
  families := library.size
  members := library.memberCount
  formatter := formatter.name
  fellBack := canonical.fellBack

/-- What the phases of a finished run have given. -/
structure Finished (w : World) (library : Library) (source : String) (canonical : Canonical)
    (v : World) : Prop where
  loaded : Library.ofPath w settings.inputPath = .ok library
  generated : (generate library settings.options).result = .ok source
  canonicalized : (canonicalize formatter source settings.policy).result = .ok canonical
  written : Ends (writeOutput settings.outputPath canonical.text)
    (formatted trace keepsRaw source w) v (.ok ())

/-- The phase in which a run stops, and the surroundings that it leaves. -/
inductive Stopped (w : World) : Stage → World → Failure → Prop
  | load {e : Error} (failed : Library.ofPath w settings.inputPath = .error e) :
    Stopped w .load w (.reported e)
  | generate {library : Library} {failure : Failure}
    (loaded : Library.ofPath w settings.inputPath = .ok library)
    (failed : (generate library settings.options).result = .error failure) :
    Stopped w .generate w failure
  | format {library : Library} {source : String} {failure : Failure}
    (loaded : Library.ofPath w settings.inputPath = .ok library)
    (generated : (generate library settings.options).result = .ok source)
    (failed : (canonicalize formatter source settings.policy).result = .error failure) :
    Stopped w .format (formatted trace keepsRaw source w) failure
  | write {library : Library} {source : String} {canonical : Canonical} {v : World}
    {failure : Failure}
    (loaded : Library.ofPath w settings.inputPath = .ok library)
    (generated : (generate library settings.options).result = .ok source)
    (canonicalized : (canonicalize formatter source settings.policy).result = .ok canonical)
    (failed : Ends (writeOutput settings.outputPath canonical.text)
      (formatted trace keepsRaw source w) v (.error failure)) :
    Stopped w .write v failure

variable {settings formatter trace keepsRaw}

/-- Keeping the source and formatting it are one step for the surroundings. -/
theorem generateFile_eq :
    generateFile settings formatter trace keepsRaw = do
      let library ← reporting (.ofExcept (Library.ofPath (← world) settings.inputPath))
      let source ← ofChecked (generate library settings.options)
      modify (formatted trace keepsRaw source)
      let canonical ← ofChecked (canonicalize formatter source settings.policy)
      writeOutput settings.outputPath canonical.text
      return reportOf settings formatter library canonical := by
  cases keepsRaw <;> rfl

theorem generateFile_ok_iff (w v : World) (report : Report) :
    Ends (generateFile settings formatter trace keepsRaw) w v (.ok report) ↔
      ∃ library source canonical,
        Finished settings formatter trace keepsRaw w library source canonical v ∧
          reportOf settings formatter library canonical = report := by
  simp only [generateFile_eq, reporting, ends_world_bind_iff, ends_ofChecked_bind_ok_iff,
    ends_modify_bind_iff, ends_bind_ok_iff _ (fun _ => pure _), ends_pure_iff,
    result_mapError_reported_eq_ok_iff, Checked.result_ofExcept]
  constructor
  · rintro ⟨library, hload, source, hsource, canonical, hcanonical, _, ⟨⟩, hwrite, rfl, hreport⟩
    exact ⟨library, source, canonical, ⟨hload, hsource, hcanonical, hwrite⟩, Except.ok.inj hreport⟩
  · rintro ⟨library, source, canonical, ⟨hload, hsource, hcanonical, hwrite⟩, rfl⟩
    exact ⟨library, hload, source, hsource, canonical, hcanonical, v, (), hwrite, rfl, rfl⟩

theorem generateFile_error_iff (w v : World) (failure : Failure) :
    Ends (generateFile settings formatter trace keepsRaw) w v (.error failure) ↔
      ∃ stage, Stopped settings formatter trace keepsRaw w stage v failure := by
  simp only [generateFile_eq, reporting, ends_world_bind_iff, ends_ofChecked_bind_error_iff,
    ends_modify_bind_iff, ends_bind_error_iff _ (fun _ => pure _), ends_pure_iff,
    result_mapError_reported_eq_ok_iff, result_mapError_reported_eq_error_iff,
    Checked.result_ofExcept, reduceCtorEq, and_false, exists_false, or_false]
  constructor
  · rintro (⟨rfl, e, hload, rfl⟩ | ⟨library, hload, ⟨rfl, hfail⟩ | ⟨source, hsource, ⟨rfl, hfail⟩ |
      ⟨canonical, hcanonical, hwrite⟩⟩⟩)
    · exact ⟨.load, .load hload⟩
    · exact ⟨.generate, .generate hload hfail⟩
    · exact ⟨.format, .format hload hsource hfail⟩
    · exact ⟨.write, .write hload hsource hcanonical hwrite⟩
  · rintro ⟨stage, hstopped⟩
    cases hstopped with
    | load hload => exact .inl ⟨rfl, _, hload, rfl⟩
    | generate hload hfail => exact .inr ⟨_, hload, .inl ⟨rfl, hfail⟩⟩
    | format hload hsource hfail => exact .inr ⟨_, hload, .inr ⟨_, hsource, .inl ⟨rfl, hfail⟩⟩⟩
    | write hload hsource hcanonical hwrite =>
      exact .inr ⟨_, hload, .inr ⟨_, hsource, .inr ⟨_, hcanonical, hwrite⟩⟩⟩

theorem ends_generateWith_iff (w v : World) (result : Except Failure Report) :
    Ends (generateWith settings keepsRaw) w v result ↔
      Ends (generateFile settings (w.formatter settings.formatter)
        (fun source w => w.afterFormatting source settings.formatter) keepsRaw) w v result := by
  rw [generateWith, ends_world_bind_iff]

end Run

end EnumForge
