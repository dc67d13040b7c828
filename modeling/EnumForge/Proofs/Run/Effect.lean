import EnumForge.Proofs.Generation
import EnumForge.Proofs.Run.File
import EnumForge.Proofs.Table.Library
import EnumForge.Proofs.World.Tree

namespace EnumForge

open Text

namespace Path

/-- The paths to which one comes from a path by going up at least once. -/
def StrictlyAbove (above path : String) : Prop :=
  ∃ parent, parent? path = some parent ∧ Above above parent

end Path

theorem Text.length_utf8 (s : String) : (utf8 s.toList).length = s.utf8ByteSize := by
  have hbytes : s.toByteArray = s.toList.utf8Encode := by
    rw [← String.toByteArray_ofList, String.ofList_toList]
  rw [← String.size_toByteArray, hbytes, List.utf8Encode, List.size_toByteArray, utf8]

/-- A text after formatting under a policy: what the formatter makes of the source, or the source
itself where the formatter refuses it and the policy keeps it. -/
def Rendered (formatter : Formatter) (policy : FailurePolicy) (source : String)
    (canonical : Canonical) : Prop :=
  canonical.fellBack = false ∧ formatter.apply source = .ok canonical.text ∨
    canonical.fellBack = true ∧ canonical.text = source ∧ policy = .raw ∧
      ∃ reason, formatter.apply source = .error (.refused reason)

theorem canonicalize_eq_ok_iff (formatter : Formatter) (source : String) (policy : FailurePolicy)
    (canonical : Canonical) :
    (canonicalize formatter source policy).result = .ok canonical ↔
      Rendered formatter policy source canonical := by
  obtain ⟨text, fellBack⟩ := canonical
  unfold canonicalize Rendered
  split
  · next h => cases fellBack <;> simp [h]
  · next h => simp [h]
  · next h => cases policy <;> cases fellBack <;> simp [h, eq_comm]

namespace Run

variable {path text : String} {u v w : World}

/-- What writing a text to a path has done: the path leads to a file with the text, and the
directories above it are there. -/
structure Wrote (path text : String) (u v : World) : Prop where
  cwd : v.cwd = u.cwd
  env : v.env = u.env
  holds : v.tree.readBytes v.cwd path = .ok (utf8 text.toList)
  parent : ∀ parent, Path.parent? path = some parent → parent.isEmpty = false →
    v.tree.isDirectoryAt v.cwd parent = true
  frame : ∃ place, v.tree.locate v.cwd path = .ok place ∧
    ∀ p, p ≠ place → v.tree.get? p = u.tree.get? p ∨
      u.tree.get? p = none ∧ v.tree.get? p = some .directory ∧
        ∃ above, Path.StrictlyAbove above path ∧ v.tree.locate v.cwd above = .ok p

/-- At most directories above a path have been made. -/
structure MadeOnly (path : String) (u v : World) : Prop where
  cwd : v.cwd = u.cwd
  env : v.env = u.env
  files : ∀ p content executable, v.tree.get? p = some (.file content executable) ↔
    u.tree.get? p = some (.file content executable)
  grows : Tree.Grows u.cwd (Path.StrictlyAbove · path) u.tree v.tree

/-- The directories above a path, made where they are missing. -/
def parentsMade (path : String) (u : World) : Tree × Except FileError Unit :=
  match (Path.parent? path).filter (!·.isEmpty) with
  | none => (u.tree, .ok ())
  | some parent => u.tree.makeDirectories u.cwd parent

theorem grows_parentsMade (path : String) (u : World) :
    Tree.Grows u.cwd (Path.StrictlyAbove · path) u.tree (parentsMade path u).1 := by
  unfold parentsMade
  split
  · exact .refl _
  · next parent hparent =>
    obtain ⟨hparent, -⟩ := Option.filter_eq_some_iff.1 hparent
    exact (Tree.Grows.makeDirectoriesFrom _ _ _).mono fun above habove => ⟨parent, hparent, habove⟩

theorem isDirectoryAt_parentsMade {t : Tree} (h : parentsMade path u = (t, .ok ()))
    {parent : String} (hparent : Path.parent? path = some parent)
    (hempty : parent.isEmpty = false) :
    t.isDirectoryAt u.cwd parent = true := by
  have hfilter : (Path.parent? path).filter (!·.isEmpty) = some parent := by
    simp [hparent, hempty]
  rw [parentsMade, hfilter] at h
  exact Tree.isDirectoryAt_of_makeDirectoriesFrom hempty h

theorem writeOutput_eq (path text : String) :
    writeOutput path text = changing (.outputWrite path) fun w =>
      match parentsMade path w with
      | (tree, .error e) => (tree, .error e)
      | (tree, .ok ()) =>
        match tree.writeBytes w.cwd path false (utf8 text.toList) with
        | .ok tree => (tree, .ok ())
        | .error e => (tree, .error e) := rfl

theorem writeOutput_ok_iff :
    Ends (writeOutput path text) u v (.ok ()) ↔
      ∃ t, parentsMade path u = (t, .ok ()) ∧
        t.writeBytes u.cwd path false (utf8 text.toList) = .ok v.tree ∧
        v.cwd = u.cwd ∧ v.env = u.env := by
  rw [writeOutput_eq, ends_changing_ok_iff]
  rcases hmade : parentsMade path u with ⟨t, _ | _⟩
  · simp
  · cases hwritten : t.writeBytes u.cwd path false (utf8 text.toList) <;> simp [hwritten]

theorem wrote_of_writeOutput (h : Ends (writeOutput path text) u v (.ok ())) :
    Wrote path text u v := by
  obtain ⟨t, hmade, hwritten, hcwd, henv⟩ := writeOutput_ok_iff.1 h
  obtain ⟨place, executable, hwritable, hlocate, hplace, hframe⟩ := Tree.writeBytes_eq_ok hwritten
  obtain ⟨-, -, -, hdirectory, -⟩ := Tree.writablePlace_eq_ok_iff.1 hwritable
  have hkeeps := Tree.KeepsDirectories.of_frame hdirectory hframe
  have hgrows := grows_parentsMade path u
  rw [hmade] at hgrows
  refine ⟨hcwd, henv, ?_, ?_, ?_⟩
  · rw [hcwd]
    exact Tree.readBytes_eq_ok_iff.2 ⟨place, executable, hlocate, hplace⟩
  · intro parent hparent hempty
    rw [hcwd]
    exact hkeeps.isDirectoryAt (isDirectoryAt_parentsMade hmade hparent hempty)
  · rw [hcwd]
    refine ⟨place, hlocate, ?_⟩
    intro p hp
    rw [hframe p hp]
    rcases hgrows p with hsame | ⟨hnone, hnew, above, habove, hleads⟩
    · exact .inl hsame
    · exact .inr ⟨hnone, hnew, above, habove, hkeeps.locate hleads hnew⟩

theorem madeOnly_of_writeOutput {failure : Failure}
    (h : Ends (writeOutput path text) u v (.error failure)) : MadeOnly path u v := by
  rw [writeOutput_eq, ends_changing_error_iff] at h
  obtain ⟨e, hstep, -, hcwd, henv⟩ := h
  have hgrows : Tree.Grows u.cwd (Path.StrictlyAbove · path) u.tree v.tree := by
    have hmade := grows_parentsMade path u
    split at hstep
    · next hfail =>
      rw [hfail] at hmade
      exact (Prod.mk.inj hstep).1 ▸ hmade
    · next hparents =>
      rw [hparents] at hmade
      split at hstep
      · simp at hstep
      · exact (Prod.mk.inj hstep).1 ▸ hmade
  exact ⟨hcwd, henv, hgrows.get?_eq_file_iff, hgrows⟩

/-- What a run that stops has done, by its phase. -/
inductive Spared (path : String) (trace : String → World → World) (w : World) :
    Stage → World → Prop
  | load : Spared path trace w .load w
  | generate : Spared path trace w .generate w
  | format (source : String) : Spared path trace w .format (trace source w)
  | write (source : String) {v : World} (made : MadeOnly path (trace source w) v) :
    Spared path trace w .write v

variable {settings : Settings} {formatter : Formatter} {trace : String → World → World}
  {keepsRaw : Bool}

theorem formatted_of_unset (hlog : keepsRaw = true → w.variableValue? World.logVariable = none)
    (source : String) : formatted trace keepsRaw source w = trace source w := by
  unfold formatted
  cases keepsRaw with
  | false => rfl
  | true => rw [if_pos rfl, World.log, hlog rfl]

theorem Stopped.spared {stage : Stage} {failure : Failure}
    (hlog : keepsRaw = true → w.variableValue? World.logVariable = none)
    (h : Stopped settings formatter trace keepsRaw w stage v failure) :
    Spared settings.outputPath trace w stage v := by
  cases h with
  | load _ => exact .load
  | generate _ _ => exact .generate
  | format _ _ _ => exact formatted_of_unset hlog _ ▸ .format _
  | write _ _ _ failed => exact .write _ (formatted_of_unset hlog _ ▸ madeOnly_of_writeOutput failed)

/-- A run that finishes has written what was rendered, and nothing else; a run that stops has
changed no file. The texts of a run are kept nowhere else where no directory is set for that. -/
theorem generateFile_effect (settings : Settings) (formatter : Formatter)
    (trace : String → World → World) (keepsRaw : Bool) (w : World)
    (hlog : keepsRaw = true → w.variableValue? World.logVariable = none) :
    (∀ v report, Ends (generateFile settings formatter trace keepsRaw) w v (.ok report) →
      ∃ library source canonical,
        Library.ofPath w settings.inputPath = .ok library ∧
        (generate library settings.options).result = .ok source ∧
        Rendered formatter settings.policy source canonical ∧
        Wrote settings.outputPath canonical.text (trace source w) v ∧
        report.fellBack = canonical.fellBack ∧
        report.bytesWritten = (utf8 canonical.text.toList).length ∧
        report.families = library.families.length ∧
        report.members = (library.families.flatMap Family.members).length) ∧
    ∀ v failure, Ends (generateFile settings formatter trace keepsRaw) w v (.error failure) →
      ∃ stage, Stopped settings formatter trace keepsRaw w stage v failure ∧
        Spared settings.outputPath trace w stage v := by
  constructor
  · intro v report h
    obtain ⟨library, source, canonical, hfinished, rfl⟩ := (generateFile_ok_iff w v report).1 h
    have hrendered := (canonicalize_eq_ok_iff _ _ _ _).1 hfinished.canonicalized
    have hwrote := wrote_of_writeOutput hfinished.written
    rw [formatted_of_unset hlog] at hwrote
    exact ⟨library, source, canonical, hfinished.loaded, hfinished.generated, hrendered, hwrote, rfl,
      (Text.length_utf8 canonical.text).symm, rfl, library.memberCount_eq_length⟩
  · intro v failure h
    obtain ⟨stage, hstopped⟩ := (generateFile_error_iff w v failure).1 h
    exact ⟨stage, hstopped, hstopped.spared hlog⟩

end Run

/-- A table of two families out of order, of which one has two labels for a value. -/
def Document.surveyText : String :=
  "\x7b\"Preference\":\x7b\"Neutral\":4,\"Loved\":6,\"Liked\":6\x7d," ++
    "\"Color\":\x7b\"Red\":7,\"Blue\":3\x7d\x7d"

def Library.survey : Library where
  families := [⟨"Color", [⟨"Blue", 3⟩, ⟨"Red", 7⟩], by decide⟩,
    ⟨"Preference", [⟨"Neutral", 4⟩, ⟨"Liked", 6⟩, ⟨"Loved", 6⟩], by decide⟩]
  sorted := by decide

theorem Library.ofText_surveyText (path : String) :
    Library.ofText path Document.surveyText = .ok .survey := by
  obtain ⟨document, hread, hlibrary⟩ : ∃ document,
      Document.read Document.surveyText = .ok document ∧ document.library = .ok (Library.ofFamilies
        [.ofMembers "Color" [⟨"Blue", 3⟩, ⟨"Red", 7⟩],
          .ofMembers "Preference" [⟨"Liked", 6⟩, ⟨"Loved", 6⟩, ⟨"Neutral", 4⟩]]) := ⟨_, rfl, rfl⟩
  have hcolor : Family.ofMembers "Color" [⟨"Blue", 3⟩, ⟨"Red", 7⟩] =
      ⟨"Color", [⟨"Blue", 3⟩, ⟨"Red", 7⟩], by decide⟩ :=
    Family.ofMembers_eq_of_ordered "Color" (.refl _) _
  have hpreference : Family.ofMembers "Preference" [⟨"Liked", 6⟩, ⟨"Loved", 6⟩, ⟨"Neutral", 4⟩] =
      ⟨"Preference", [⟨"Neutral", 4⟩, ⟨"Liked", 6⟩, ⟨"Loved", 6⟩], by decide⟩ :=
    Family.ofMembers_eq_of_ordered "Preference" (by decide) _
  rw [Library.ofText_of_read hread, hlibrary, hcolor, hpreference]
  rfl

theorem generate_survey :
    (generate .survey ⟨.u8, true⟩).result = .ok (Library.survey.text .u8) :=
  generate_of_validate (by decide +kernel) (by decide +kernel)

namespace Run

/-- Surroundings that hold the table. -/
def surveyed : World where
  tree := ⟨[(["enums.json"], .file (utf8 Document.surveyText.toList) false)]⟩
  cwd := []
  env := []

theorem surveyed_loaded : Library.ofPath surveyed "enums.json" = .ok .survey :=
  (Library.ofPath_of_read (by decide +kernel)).trans (Library.ofText_surveyText _)

/-- Settings under which a directory has to be made for the output. -/
def intoDirectory : Settings :=
  { Settings.default with outputPath := "out/enums.rs", formatter := .none, width := .u8 }

theorem survey_written :
    surveyed.variableValue? World.logVariable = none ∧
      ∃ v report,
        Ends (generateFile intoDirectory .passThrough (fun _ w => w) true) surveyed v
          (.ok report) ∧
        Wrote "out/enums.rs" (Library.survey.text .u8) surveyed v ∧
        report.fellBack = false ∧
        report.bytesWritten = (utf8 (Library.survey.text .u8).toList).length ∧
        report.families = 2 ∧ report.members = 5 := by
  have hlog : surveyed.variableValue? World.logVariable = none := rfl
  have hwrite (text : String) : ∃ v, Ends (writeOutput "out/enums.rs" text) surveyed v (.ok ()) :=
    ⟨_, rfl, rfl⟩
  obtain ⟨v, hwrite⟩ := hwrite (Library.survey.text .u8)
  have hends : Ends (generateFile intoDirectory .passThrough (fun _ w => w) true) surveyed v
      (.ok (reportOf intoDirectory .passThrough .survey ⟨Library.survey.text .u8, false⟩)) :=
    (generateFile_ok_iff _ _ _).2 ⟨_, _, _, ⟨surveyed_loaded, generate_survey, rfl, hwrite⟩, rfl⟩
  obtain ⟨library, source, canonical, hload, hsource, hrendered, hwrote, -, hbytes, hcounts⟩ :=
    (generateFile_effect intoDirectory .passThrough (fun _ w => w) true surveyed
      (fun _ => hlog)).1 v _ hends
  obtain rfl := Except.ok.inj (surveyed_loaded.symm.trans hload)
  obtain rfl := Except.ok.inj (generate_survey.symm.trans hsource)
  have htext : canonical.text = Library.survey.text .u8 := by
    rcases hrendered with ⟨-, happly⟩ | ⟨-, htext, -⟩
    · exact (Except.ok.inj happly).symm
    · exact htext
  rw [htext] at hwrote hbytes
  exact ⟨hlog, v, _, hends, hwrote, rfl, hbytes, hcounts⟩

end Run

end EnumForge
