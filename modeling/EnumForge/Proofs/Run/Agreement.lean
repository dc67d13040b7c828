import EnumForge.Proofs.Run.Regeneration
import EnumForge.Proofs.Run.Stages

namespace EnumForge

open Text

namespace Run

variable {α β : Type} {w v : World}

/-- What is made of a result may be made of it before it is reported. -/
theorem reporting_map (x : Checked Error α) (f : α → β) :
    (do return f (← reporting x) : Run β) = reporting (do return f (← x)) := by
  rcases x with ⟨warnings, e | a⟩ <;> rfl

theorem loadVariables_bind_of_ok (h : EnvironmentFile.load w = .ok v) (f : Unit → Run β) :
    (loadVariables >>= f) w = f () v := by
  have hload : loadVariables w = (v, ⟨[], .ok ()⟩) := by
    unfold loadVariables
    rw [h]
    rfl
  rw [bind_ok hload, List.nil_append]

theorem loadVariables_bind_of_error {name : String} (h : EnvironmentFile.load w = .error name)
    (f : Unit → Run β) : (loadVariables >>= f) w = (w, ⟨[], .error (.unsettable name)⟩) := by
  have hload : loadVariables w = (w, ⟨[], .error (.unsettable name)⟩) := by
    unfold loadVariables
    rw [h]
    rfl
  rw [bind_error hload]

/-- Settings near a directory are those of the configuration there. -/
theorem settingsNear_eq (w : World) (start : String) :
    settingsNear w start = do return (← reporting (Config.near w start)).resolved := by
  unfold settingsNear Config.near
  cases w.findConfig? start with
  | some path => exact (reporting_map _ _).symm
  | none => rfl

theorem settingsFor_eq (start : World → String) (w : World) :
    settingsFor start w =
      (loadVariables >>= fun _ => world >>= fun v => settingsNear v (start w)) w := by
  rw [settingsFor, world_bind]

theorem configuration_of_error {name : String} (h : EnvironmentFile.load w = .error name) :
    configuration w = (w, ⟨[], .error (.unsettable name)⟩) := by
  rw [configuration, loadVariables_bind_of_error h]

theorem buildSettings_of_error {name : String} (h : EnvironmentFile.load w = .error name) :
    buildSettings w = (w, ⟨[], .error (.unsettable name)⟩) := by
  rw [buildSettings, settingsFor_eq, loadVariables_bind_of_error h]

theorem configuration_of_ok (h : EnvironmentFile.load w = .ok v) :
    configuration w = reporting (Config.near v w.cwdPath) v := by
  rw [configuration, loadVariables_bind_of_ok h, ← EnvironmentFile.cwdPath_of_load h, world_bind,
    world_bind]

/-- A build that starts from the current directory resolves what the command does. -/
theorem buildSettings_of_ok (hdirectory : w.variableValue? "CARGO_MANIFEST_DIR" = none)
    (h : EnvironmentFile.load w = .ok v) :
    buildSettings w =
      (do return (← reporting (Config.near v w.cwdPath)).resolved : Run Settings) v := by
  have hstart : buildDirectory w = w.cwdPath := by rw [buildDirectory, hdirectory, Option.getD_none]
  rw [← settingsNear_eq, ← hstart, buildSettings, settingsFor_eq, loadVariables_bind_of_ok h,
    world_bind]

theorem configuration_resolved_eq (hdirectory : w.variableValue? "CARGO_MANIFEST_DIR" = none) :
    (do return (← configuration).resolved : Run Settings) w = buildSettings w := by
  cases hload : EnvironmentFile.load w with
  | error name => rw [bind_error (configuration_of_error hload), buildSettings_of_error hload]
  | ok v => rw [bind_of_eq (configuration_of_ok hload), buildSettings_of_ok hdirectory hload]

/-- Whether the unformatted code is to be kept does not matter where no directory is set for it. -/
theorem generateWith_of_unset (settings : Settings)
    (hlog : w.variableValue? World.logVariable = none) :
    generateWith settings true w = generateWith settings false w := by
  have hsame (trace : String → World → World) (source : String) :
      formatted trace true source w = formatted trace false source w :=
    (formatted_of_unset (fun _ => hlog) source).trans
      (formatted_of_unset (fun h => by simp at h) source).symm
  have hfile (formatter : Formatter) (trace : String → World → World) :
      generateFile settings formatter trace true w =
        generateFile settings formatter trace false w := by
    rw [generateFile_eq, generateFile_eq, world_bind, world_bind, reporting]
    apply ofChecked_bind_congr
    intro library
    apply ofChecked_bind_congr
    intro source
    rw [modify_bind, modify_bind, hsame]
  rw [generateWith, generateWith, world_bind, world_bind]
  exact hfile _ _

/-- The command and a build that starts from the current directory are the same run. -/
theorem generate_eq_build (hdirectory : w.variableValue? "CARGO_MANIFEST_DIR" = none)
    (hlog : ∀ v, EnvironmentFile.load w = .ok v → v.variableValue? World.logVariable = none) :
    CommandLine.generate w = build w := by
  cases hload : EnvironmentFile.load w with
  | error name =>
    rw [CommandLine.generate, build, bind_error (configuration_of_error hload),
      bind_error (buildSettings_of_error hload)]
  | ok v =>
    rw [CommandLine.generate, build, bind_of_eq (configuration_of_ok hload),
      bind_of_eq (buildSettings_of_ok hdirectory hload), map_bind]
    exact ofChecked_bind_congr _ fun c => (generateWith_of_unset _ (hlog v hload)).symm

end Run

namespace CommandLine

open Run

/-- From surroundings in which a build starts from the current directory, keeps no texts and breaks
nothing off, the command does what the build does: it has the same settings, leaves the same files,
and ends well when the build has a report, and else tells the error of the build. -/
theorem run_agrees_with_build (w : World)
    (hdirectory : w.variableValue? "CARGO_MANIFEST_DIR" = none)
    (hlog : ∀ v, EnvironmentFile.load w = .ok v → v.variableValue? World.logVariable = none)
    (hreported : ∀ failure, (build w).2.result = .error failure → ∃ e, failure = .reported e) :
    (do return (← configuration).resolved : Run Settings) w = buildSettings w ∧
    (run [] w).1 = (build w).1.tree ∧
    (((run [] w).2.status = 0 ∧ (run [] w).2.stdout = "") ↔
      ∃ report, (build w).2.result = .ok report) ∧
    ((¬ ∃ report, (build w).2.result = .ok report) →
      ∃ e, (build w).2.result = .error (.reported e) ∧
        (run [] w).2 = ⟨1, "", s!"enumgen: {e.stage.name} failed: {e.message}\n"⟩) := by
  have hgenerate : CommandLine.generate w = build w := generate_eq_build hdirectory hlog
  refine ⟨configuration_resolved_eq hdirectory, ?_⟩
  cases hresult : (build w).2.result with
  | ok report =>
    have hrun : run [] w = ((build w).1.tree, ⟨0, "", ""⟩) := by
      simp only [run, Request.ofArguments, hgenerate, hresult]
    simp [hrun]
  | error failure =>
    obtain ⟨e, rfl⟩ := hreported failure hresult
    have hrun := run_of_reported (hgenerate ▸ hresult)
    rw [hgenerate] at hrun
    simp [hrun]

/-- A project whose settings are in a file, and depend on a variable in another one. -/
def project : World where
  tree := ⟨[(["enums.json"], .file (utf8 Document.surveyText.toList) false),
    ([".env"], .file (utf8 "OUT=codes\n".toList) false),
    (["enumgen.toml"], .file (utf8 ("[generate]\noutput_path = \"$\x7bOUT\x7d.rs\"\n" ++
      "formatter = \"none\"\nrepr = \"u8\"\n").toList) false)]⟩
  cwd := []
  env := []

/-- The same once its variables have been loaded. -/
def loadedProject : World := { project with env := [("OUT", "codes")] }

def projectSettings : Settings :=
  { Settings.default with
    inputPath := "/enums.json", outputPath := "/codes.rs", formatter := .none, width := .u8 }

theorem project_loaded : EnvironmentFile.load project = .ok loadedProject := by
  have hload : (EnvironmentFile.load project).toOption.map (·.env) = some [("OUT", "codes")] := by
    decide +kernel
  cases h : EnvironmentFile.load project with
  | error name => simp [h, Except.toOption] at hload
  | ok v =>
    obtain ⟨tree, cwd, env⟩ := v
    obtain ⟨rfl, rfl⟩ := EnvironmentFile.load_keeps h
    rw [h] at hload
    obtain rfl := Option.some.inj hload
    rfl

theorem project_resolved : Ends buildSettings project loadedProject (.ok projectSettings) := by
  constructor
  · rw [buildSettings_of_ok rfl project_loaded, reporting_map]
    rfl
  · decide +kernel

theorem project_written (text : String) :
    ∃ v, Ends (writeOutput "/codes.rs" text) loadedProject v (.ok ()) := by
  have hmade : parentsMade "/codes.rs" loadedProject = (project.tree, .ok ()) :=
    parentsMade_again fun parent hparent hempty => by
      obtain rfl := Option.some.inj (hparent.symm.trans (rfl : _ = some "/"))
      decide +kernel
  have hplace : project.tree.writablePlace loadedProject.cwd "/codes.rs" = .ok ["codes.rs"] := by
    decide +kernel
  refine ⟨{ loadedProject with
    tree := project.tree.put ["codes.rs"] (.file (utf8 text.toList) false) },
    writeOutput_ok_iff.2 ⟨_, hmade, ?_, rfl, rfl⟩⟩
  rw [Tree.writeBytes_eq, hplace]
  rfl

theorem project_built :
    ∃ v, Ends build project v (.ok (reportOf projectSettings .passThrough .survey
        ⟨Library.survey.text .u8, false⟩)) ∧
      v.cwd = [] ∧
      v.tree.readBytes v.cwd "/codes.rs" = .ok (utf8 (Library.survey.text .u8).toList) := by
  have hload : Library.ofPath loadedProject "/enums.json" = .ok .survey :=
    (Library.ofPath_of_read (by decide +kernel)).trans (Library.ofText_surveyText _)
  obtain ⟨v, hwrite⟩ := project_written (Library.survey.text .u8)
  have hwrote := wrote_of_writeOutput hwrite
  refine ⟨v, (ends_bind_ok_iff _ _ _).2 ⟨_, _, project_resolved, ?_⟩, hwrote.cwd, hwrote.holds⟩
  exact (ends_generateWith_iff _ _ _).2 ((generateFile_ok_iff _ _ _).2
    ⟨_, _, _, ⟨hload, generate_survey, rfl, hwrite⟩, rfl⟩)

theorem project_agrees :
    project.variableValue? "CARGO_MANIFEST_DIR" = none ∧
      (∀ v, EnvironmentFile.load project = .ok v → v.variableValue? World.logVariable = none) ∧
      (buildSettings project).2.result = .ok projectSettings ∧
      (∃ report, (build project).2.result = .ok report ∧ report.families = 2 ∧
        report.members = 5) ∧
      (run [] project).1 = (build project).1.tree ∧
      (run [] project).1.readBytes [] "/codes.rs" =
        .ok (utf8 (Library.survey.text .u8).toList) ∧
      (run [] project).2.status = 0 ∧ (run [] project).2.stdout = "" := by
  have hlog : ∀ v, EnvironmentFile.load project = .ok v →
      v.variableValue? World.logVariable = none := by
    intro v h
    obtain rfl := Except.ok.inj (project_loaded.symm.trans h)
    rfl
  obtain ⟨v, hbuild, hcwd, hbytes⟩ := project_built
  obtain ⟨-, hfiles, hends, -⟩ := run_agrees_with_build project rfl hlog fun failure h => by
    simp [hbuild.2] at h
  refine ⟨rfl, hlog, project_resolved.2, ⟨_, hbuild.2, rfl, rfl⟩, hfiles, ?_,
    hends.2 ⟨_, hbuild.2⟩⟩
  rw [hfiles, hbuild.1, ← hbytes, hcwd]

end CommandLine

end EnumForge
