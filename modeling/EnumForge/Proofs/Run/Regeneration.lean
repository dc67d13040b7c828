import EnumForge.Proofs.Run.Effect
import EnumForge.Proofs.World.Alike

namespace EnumForge

open Text

/-- A library is read alike where its file is. -/
theorem Library.ofPath_congr {u w : World} {path : String}
    (h : u.tree.readBytes u.cwd path = w.tree.readBytes w.cwd path) :
    Library.ofPath u path = Library.ofPath w path := by
  unfold Library.ofPath World.readText Tree.readText
  rw [h]

theorem Library.readBytes_of_ofPath {w : World} {path : String} {library : Library}
    (h : Library.ofPath w path = .ok library) :
    ∃ bytes, w.tree.readBytes w.cwd path = .ok bytes := by
  cases hread : w.tree.readBytes w.cwd path with
  | ok bytes => exact ⟨bytes, rfl⟩
  | error e =>
    unfold Library.ofPath World.readText Tree.readText at h
    rw [hread] at h
    simp [bind, Except.bind] at h

/-- Surroundings that are alike but for what file is at a place, if there is one. The first have the
directory of their file. -/
structure World.AlikeOff (place : Place) (w u : World) : Prop where
  cwd : u.cwd = w.cwd
  env : u.env = w.env
  tree : w.tree.AlikeOff place u.tree
  stands : ∀ content executable, w.tree.get? place = some (.file content executable) →
    w.tree.get? place.dropLast = some .directory

namespace Run

variable {path text : String} {place : Place} {u v w : World}

/-! Writing once more, and writing over something else. -/

theorem parentsMade_again (h : ∀ parent, Path.parent? path = some parent → parent.isEmpty = false →
    v.tree.isDirectoryAt v.cwd parent = true) : parentsMade path v = (v.tree, .ok ()) := by
  unfold parentsMade
  split
  · rfl
  · next parent hfilter =>
    obtain ⟨hparent, hempty⟩ := Option.filter_eq_some_iff.1 hfilter
    exact Tree.makeDirectories_of_isDirectoryAt (h parent hparent (by simpa using hempty))

theorem writeOutput_again (h : Ends (writeOutput path text) u v (.ok ())) :
    Ends (writeOutput path text) v v (.ok ()) := by
  have hmade := parentsMade_again (wrote_of_writeOutput h).parent
  obtain ⟨t, -, hwritten, hcwd, -⟩ := writeOutput_ok_iff.1 h
  refine writeOutput_ok_iff.2 ⟨v.tree, hmade, ?_, rfl, rfl⟩
  rw [hcwd]
  exact Tree.writeBytes_again hwritten

theorem parentsMade_alike {t : Tree} (h : World.AlikeOff place w u)
    (hmade : parentsMade path w = (t, .ok ())) (hplace : t.get? place ≠ some .directory) :
    ∃ t', parentsMade path u = (t', .ok ()) ∧ t.AlikeOff place t' := by
  unfold parentsMade at hmade ⊢
  split at hmade
  · obtain ⟨rfl, -⟩ := Prod.mk.inj hmade
    exact ⟨u.tree, rfl, h.tree⟩
  · next parent hparent =>
    rw [h.cwd]
    exact h.tree.makeDirectoriesFrom hmade hplace

/-- Where a text has been written, and what tree it was written to. -/
theorem written_at (hwrite : Ends (writeOutput path text) w v (.ok ()))
    (hlocate : v.tree.locate v.cwd path = .ok place) :
    ∃ t, parentsMade path w = (t, .ok ()) ∧
      Tree.Grows w.cwd (Path.StrictlyAbove · path) w.tree t ∧
      t.writablePlace w.cwd path = .ok place ∧ v.cwd = w.cwd ∧
      ∀ p, p ≠ place → v.tree.get? p = t.get? p := by
  obtain ⟨t, hmade, hwritten, hcwd, -⟩ := writeOutput_ok_iff.1 hwrite
  obtain ⟨q, -, hwritable, hlocate', -, hframe⟩ := Tree.writeBytes_eq_ok hwritten
  rw [hcwd] at hlocate
  obtain rfl : q = place := Except.ok.inj (hlocate'.symm.trans hlocate)
  have hgrows := grows_parentsMade path w
  rw [hmade] at hgrows
  exact ⟨t, hmade, hgrows, hwritable, hcwd, hframe⟩

/-- What a text is written over leaves no trace. -/
theorem writeOutput_alike (h : World.AlikeOff place w u)
    (hwrite : Ends (writeOutput path text) w v (.ok ()))
    (hlocate : v.tree.locate v.cwd path = .ok place) :
    ∃ z, Ends (writeOutput path text) u z (.ok ()) ∧ z.tree.locate z.cwd path = .ok place ∧
      z.tree.readBytes z.cwd path = .ok (utf8 text.toList) ∧
      ∀ p, p ≠ place → z.tree.get? p = v.tree.get? p := by
  obtain ⟨t, hmade, hgrows, hwritable, -, hframe⟩ := written_at hwrite hlocate
  obtain ⟨-, -, -, hdirectory, hnone⟩ := Tree.writablePlace_eq_ok_iff.1 hwritable
  -- a new file has been written into a directory; an old one stood in one all along
  have hparent : t.get? place.dropLast = some .directory := by
    cases hplace : t.get? place with
    | none => exact hnone hplace
    | some entry =>
      cases entry with
      | directory => exact absurd hplace hdirectory
      | file content executable =>
        have hfile := (hgrows.get?_eq_file_iff place content executable).1 hplace
        exact hgrows.keepsDirectories _ (h.stands content executable hfile)
  obtain ⟨t', hmade', halike⟩ := parentsMade_alike h hmade hdirectory
  obtain ⟨u', hwritten', hlocate', hplace', hframe'⟩ := halike.writeBytes hwritable hparent
  refine ⟨{ u with tree := u' }, writeOutput_ok_iff.2 ⟨t', hmade', ?_, rfl, rfl⟩, ?_, ?_, ?_⟩
  · rw [h.cwd]
    exact hwritten'
  · change u'.locate u.cwd path = _
    rw [h.cwd]
    exact hlocate'
  · change u'.readBytes u.cwd path = _
    rw [h.cwd]
    exact Tree.readBytes_eq_ok_iff.2 ⟨place, _, hlocate', hplace'⟩
  · intro p hp
    rw [hframe p hp]
    exact hframe' p hp

/-- A run from a file that is not the output reads it as before once the output has been written,
and whatever the output was. -/
theorem ofPath_of_wrote {input : String} {library : Library}
    (hload : Library.ofPath w input = .ok library)
    (hwrite : Ends (writeOutput path text) w v (.ok ()))
    (hlocate : v.tree.locate v.cwd path = .ok place)
    (hdistinct : v.tree.locate v.cwd input ≠ v.tree.locate v.cwd path) :
    Library.ofPath v input = .ok library ∧
      ∀ u, World.AlikeOff place w u → Library.ofPath u input = .ok library := by
  obtain ⟨t, -, hgrows, hwritable, hcwd, hframe⟩ := written_at hwrite hlocate
  obtain ⟨-, -, -, hdirectory, -⟩ := Tree.writablePlace_eq_ok_iff.1 hwritable
  obtain ⟨bytes, hread⟩ := Library.readBytes_of_ofPath hload
  obtain ⟨p, executable, hinput, hfile⟩ := Tree.readBytes_eq_ok_iff.1 hread
  rw [hlocate, hcwd] at hdistinct
  -- the input is found where it was, so it is not what was written
  have hkeeps : w.tree.KeepsDirectories v.tree := fun r hr =>
    Tree.KeepsDirectories.of_frame hdirectory hframe r (hgrows.keepsDirectories r hr)
  have hvinput := hkeeps.locate_file hinput hfile
  have hp : p ≠ place := by
    rintro rfl
    exact hdistinct hvinput
  constructor
  · rw [← hload]
    apply Library.ofPath_congr
    rw [hread, hcwd]
    refine Tree.readBytes_eq_ok_iff.2 ⟨p, executable, hvinput, ?_⟩
    rw [hframe p hp]
    exact (hgrows.get?_eq_file_iff p bytes executable).2 hfile
  · intro u h
    rw [← hload]
    apply Library.ofPath_congr
    rw [hread, h.cwd]
    refine Tree.readBytes_eq_ok_iff.2 ⟨p, executable, ?_, by rw [h.tree.same p hp, hfile]⟩
    exact h.tree.keepsDirectories.locate_file hinput hfile

/-- A run that has finished does the same once more, and changes nothing: the output is not its
input, which is a matter of where the two paths lead once the directories are made. And it does the
same in surroundings that have another file at the output, or none. -/
theorem generateFile_again (settings : Settings) (formatter : Formatter) (keepsRaw : Bool)
    (w v : World) (report : Report)
    (hlog : keepsRaw = true → w.variableValue? World.logVariable = none)
    (hrun : Ends (generateFile settings formatter (fun _ w => w) keepsRaw) w v (.ok report))
    (hdistinct :
      v.tree.locate v.cwd settings.inputPath ≠ v.tree.locate v.cwd settings.outputPath) :
    Ends (generateFile settings formatter (fun _ w => w) keepsRaw) v v (.ok report) ∧
      ∃ place bytes, v.tree.locate v.cwd settings.outputPath = .ok place ∧
        v.tree.readBytes v.cwd settings.outputPath = .ok bytes ∧
        ∀ u, World.AlikeOff place w u →
          ∃ z, Ends (generateFile settings formatter (fun _ w => w) keepsRaw) u z (.ok report) ∧
            z.tree.locate z.cwd settings.outputPath = .ok place ∧
            z.tree.readBytes z.cwd settings.outputPath = .ok bytes ∧
            ∀ p, p ≠ place → z.tree.get? p = v.tree.get? p := by
  obtain ⟨library, source, canonical, hfinished, rfl⟩ := (generateFile_ok_iff w v report).1 hrun
  have hwrite := hfinished.written
  rw [formatted_of_unset hlog] at hwrite
  have hwrote := wrote_of_writeOutput hwrite
  obtain ⟨place, hlocate, -⟩ := hwrote.frame
  obtain ⟨hagain, halike⟩ := ofPath_of_wrote hfinished.loaded hwrite hlocate hdistinct
  have hsame {u : World} (henv : u.env = w.env) :
      formatted (fun _ w => w) keepsRaw source u = u := by
    apply formatted_of_unset
    intro hkeeps
    rw [World.variableValue?, henv]
    exact hlog hkeeps
  constructor
  · refine (generateFile_ok_iff _ _ _).2 ⟨library, source, canonical, ?_, rfl⟩
    refine ⟨hagain, hfinished.generated, hfinished.canonicalized, ?_⟩
    rw [hsame hwrote.env]
    exact writeOutput_again hwrite
  · refine ⟨place, _, hlocate, hwrote.holds, fun u h => ?_⟩
    obtain ⟨z, hz, hzlocate, hzholds, hzframe⟩ := writeOutput_alike h hwrite hlocate
    refine ⟨z, (generateFile_ok_iff _ _ _).2 ⟨library, source, canonical, ?_, rfl⟩, hzlocate,
      hzholds, hzframe⟩
    refine ⟨halike u h, hfinished.generated, hfinished.canonicalized, ?_⟩
    rw [hsame h.env]
    exact hz

/-- Settings under which the output stands beside the table. -/
def besideTable : Settings :=
  { Settings.default with outputPath := "enums.rs", formatter := .none, width := .u8 }

/-- Surroundings with the same table and an output of an earlier run. -/
def surveyedBefore : World :=
  { surveyed with tree := surveyed.tree.put ["enums.rs"] (.file (utf8 "// old".toList) true) }

theorem surveyed_alike : World.AlikeOff ["enums.rs"] surveyed surveyedBefore where
  cwd := rfl
  env := rfl
  tree := ⟨fun _ hp => Tree.get?_put_of_ne _ hp _, by decide, by decide⟩
  stands := fun _ _ _ => rfl

theorem survey_again :
    ∃ v report, surveyed.variableValue? World.logVariable = none ∧
      Ends (generateFile besideTable .passThrough (fun _ w => w) true) surveyed v (.ok report) ∧
      report.families = 2 ∧ report.members = 5 ∧
      v.tree.locate v.cwd besideTable.inputPath ≠ v.tree.locate v.cwd besideTable.outputPath ∧
      Ends (generateFile besideTable .passThrough (fun _ w => w) true) v v (.ok report) ∧
      ∃ z, Ends (generateFile besideTable .passThrough (fun _ w => w) true) surveyedBefore z
        (.ok report) ∧
        z.tree.readBytes z.cwd "enums.rs" = v.tree.readBytes v.cwd "enums.rs" := by
  have hlog : surveyed.variableValue? World.logVariable = none := rfl
  have hwrite (text : String) :
      ∃ v, Ends (writeOutput "enums.rs" text) surveyed v (.ok ()) ∧
        v.tree.locate v.cwd "enums.json" = .ok ["enums.json"] ∧
        v.tree.locate v.cwd "enums.rs" = .ok ["enums.rs"] := ⟨_, ⟨rfl, rfl⟩, rfl, rfl⟩
  obtain ⟨v, hwrite, hinput, houtput⟩ := hwrite (Library.survey.text .u8)
  have hrun : Ends (generateFile besideTable .passThrough (fun _ w => w) true) surveyed v
      (.ok (reportOf besideTable .passThrough .survey ⟨Library.survey.text .u8, false⟩)) :=
    (generateFile_ok_iff _ _ _).2
      ⟨_, _, _, ⟨surveyed_loaded, generate_survey, rfl, hwrite⟩, rfl⟩
  have hdistinct : v.tree.locate v.cwd besideTable.inputPath ≠
      v.tree.locate v.cwd besideTable.outputPath := by
    rw [show besideTable.inputPath = "enums.json" from rfl,
      show besideTable.outputPath = "enums.rs" from rfl, hinput, houtput]
    decide
  obtain ⟨hagain, place, bytes, hlocate, hbytes, halike⟩ :=
    generateFile_again besideTable .passThrough true surveyed v _ (fun _ => hlog) hrun hdistinct
  obtain rfl : ["enums.rs"] = place := Except.ok.inj (houtput.symm.trans hlocate)
  obtain ⟨z, hz, -, hzbytes, -⟩ := halike surveyedBefore surveyed_alike
  exact ⟨v, _, hlog, hrun, rfl, rfl, hdistinct, hagain, z, hz, hzbytes.trans hbytes.symm⟩

end Run

end EnumForge
