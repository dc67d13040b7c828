import EnumForge.Proofs.World.Alike
import EnumForge.Proofs.World.Path
import EnumForge.Run.Log

namespace EnumForge

open Text

/-! Places of files in a directory. -/

namespace Tree

variable {t : Tree} {cwd place : Place} {dir name : String}

theorem eq_of_ofPath {path : String} {route : Route} (h : Route.ofPath cwd path = .ok route) :
    route = ⟨if Path.isAbsolute path then [] else cwd, Path.names path,
      (Path.segments path.toList).getLast?.any Path.isVoid⟩ := by
  unfold Route.ofPath at h
  split at h
  · simp at h
  · split at h
    · simp at h
    · split at h
      · simp at h
      · exact (Except.ok.inj h).symm

/-- The file of a name is one step from the directory; the name is not the empty one and not that of
the directory itself. -/
theorem step_of_writablePlace (hname : '/' ∉ name.toList)
    (h : t.writablePlace cwd (Path.join dir name) = .ok place) :
    name ≠ "." ∧ ∃ parent, t.follow (if Path.isAbsolute dir then [] else cwd) (Path.names dir) =
      .ok parent ∧ place = step parent name := by
  obtain ⟨route, ⟨hroute, hfollow⟩, hends, -⟩ := writablePlace_eq_ok_iff.1 h
  obtain rfl := eq_of_ofPath hroute
  obtain ⟨ss, hsegments, -⟩ := Path.segments_join dir hname
  have hvoid : Path.isVoid name.toList = false := by
    simpa [hsegments] using hends
  rw [Path.isVoid, Bool.or_eq_false_iff, List.isEmpty_eq_false_iff, beq_eq_false_iff_ne] at hvoid
  refine ⟨?_, ?_⟩
  · rintro rfl
    exact hvoid.2 rfl
  · dsimp only at hfollow
    rw [Path.isAbsolute_join dir hname, Path.names_join dir hname hvoid.1, follow_append,
      except_bind_eq_ok_iff] at hfollow
    obtain ⟨parent, hparent, hlast⟩ := hfollow
    exact ⟨parent, hparent, eq_of_follow hlast⟩

theorem step_inj {parent : Place} {a b : String} (ha : a ≠ ".") (hb : b ≠ ".")
    (h : step parent a = step parent b) : a = b := by
  have hlength := congrArg List.length h
  simp only [step, if_neg ha, if_neg hb] at h hlength
  split_ifs at h hlength with haback hbback hbback
  · rw [haback, hbback]
  · rw [List.length_dropLast, List.length_append, List.length_singleton] at hlength
    omega
  · rw [List.length_dropLast, List.length_append, List.length_singleton] at hlength
    omega
  · simpa using h

/-- Files of two names stand at two places. -/
theorem name_eq_of_writablePlace {a b : String} (ha : '/' ∉ a.toList) (hb : '/' ∉ b.toList)
    (hplace : t.writablePlace cwd (Path.join dir a) = .ok place)
    (hother : t.writablePlace cwd (Path.join dir b) = .ok place) : a = b := by
  obtain ⟨hadot, parent, hparent, rfl⟩ := step_of_writablePlace ha hplace
  obtain ⟨hbdot, other, hsame, hstep⟩ := step_of_writablePlace hb hother
  obtain rfl := Except.ok.inj (hparent.symm.trans hsame)
  exact step_inj hadot hbdot hstep

end Tree

/-- The directory can be made, and in it the file of a name can be opened, which stands at the place.
-/
structure World.Opens (w : World) (dir name : String) (place : Place) : Prop where
  made : (w.tree.makeDirectories w.cwd dir).2 = .ok ()
  opened : (w.tree.makeDirectories w.cwd dir).1.writablePlace w.cwd (Path.join dir name) =
    .ok place

namespace World.Opens

variable {w : World} {dir name other : String} {place p : Place}

theorem place_eq (h : w.Opens dir name place) (hp : w.Opens dir name p) : p = place :=
  Except.ok.inj (hp.opened.symm.trans h.opened)

theorem name_eq (h : w.Opens dir name place) (hp : w.Opens dir other place)
    (hname : '/' ∉ name.toList) (hother : '/' ∉ other.toList) : name = other :=
  Tree.name_eq_of_writablePlace hname hother h.opened hp.opened

section

variable (text : String) (append : Bool)

theorem writeLog_eq (h : w.Opens dir name place) :
    w.writeLog dir name text append =
      { w with
        tree := (w.tree.makeDirectories w.cwd dir).1.put place
          (.file ((if append then (w.tree.file? place).getD [] else []) ++ utf8 text.toList)
            ((w.tree.makeDirectories w.cwd dir).1.isExecutable place)) } := by
  unfold World.writeLog
  extract_lets tree
  rw [Tree.writeBytes_eq_map, h.opened, ← w.tree.file?_makeDirectories w.cwd dir place]
  rfl

theorem file?_writeLog (h : w.Opens dir name place) :
    (w.writeLog dir name text append).tree.file? place =
      some ((if append then (w.tree.file? place).getD [] else []) ++ utf8 text.toList) := by
  obtain ⟨-, -, -, hplace, -⟩ := Tree.writablePlace_eq_ok_iff.1 h.opened
  rw [h.writeLog_eq]
  exact Tree.file?_put_self (Tree.ne_nil_of_get? hplace)

theorem file?_writeLog_of_ne (h : w.Opens dir name place) (hp : p ≠ place) :
    (w.writeLog dir name text append).tree.file? p = w.tree.file? p := by
  rw [h.writeLog_eq, ← w.tree.file?_makeDirectories w.cwd dir p]
  exact Tree.file?_congr (Tree.get?_put_of_ne _ hp _)

/-- Once a text has been kept, the directory is there. -/
theorem makeDirectories_writeLog (h : w.Opens dir name place) :
    (w.writeLog dir name text append).tree.makeDirectories
        (w.writeLog dir name text append).cwd dir =
      ((w.writeLog dir name text append).tree, .ok ()) := by
  obtain ⟨-, -, -, hplace, -⟩ := Tree.writablePlace_eq_ok_iff.1 h.opened
  rw [h.writeLog_eq]
  exact Tree.makeDirectories_again h.made (Tree.KeepsDirectories.put _ hplace _)

/-- Whatever could be opened before a text was kept can be opened afterwards. -/
theorem writeLog (h : w.Opens dir name place) (hp : w.Opens dir other p) :
    (w.writeLog dir name text append).Opens dir other p := by
  have hmade := h.makeDirectories_writeLog text append
  refine ⟨by rw [hmade], ?_⟩
  rw [hmade, h.writeLog_eq]
  exact Tree.writablePlace_put h.opened hp.opened

/-- After a text has been kept, files in the directory are read at their places. -/
theorem readBytes_writeLog (h : w.Opens dir name place) (hp : w.Opens dir other p)
    {bytes : List UInt8} (hfile : (w.writeLog dir name text append).tree.file? p = some bytes) :
    (w.writeLog dir name text append).tree.readBytes (w.writeLog dir name text append).cwd
      (Path.join dir other) = .ok bytes := by
  have hopened := (h.writeLog text append hp).opened
  rw [h.makeDirectories_writeLog] at hopened
  obtain ⟨executable, hget⟩ := Tree.file?_eq_some_iff.1 hfile
  exact Tree.readBytes_eq_ok_iff.2 ⟨p, executable, Tree.locate_of_writablePlace hopened, hget⟩

end

end World.Opens

/-- A text to be kept in the file of a name, after what it holds or in place of that. -/
structure LogCall where
  name : String
  text : String
  append : Bool

/-- Keeps some texts in one directory, one after the other. -/
def World.writeLogs (w : World) (dir : String) (calls : List LogCall) : World :=
  calls.foldl (fun w c => w.writeLog dir c.name c.text c.append) w

namespace LogCall

/-- What a call leaves in its file. -/
def leaves (held : Option (List UInt8)) (c : LogCall) : Option (List UInt8) :=
  some ((if c.append then held.getD [] else []) ++ utf8 c.text.toList)

def bytes (calls : List LogCall) : List UInt8 := calls.flatMap fun c => utf8 c.text.toList

theorem foldl_leaves_of_append {calls : List LogCall} (h : ∀ c ∈ calls, c.append = true)
    (held : List UInt8) : calls.foldl leaves (some held) = some (held ++ bytes calls) := by
  induction calls generalizing held with
  | nil => simp [bytes]
  | cons c calls ih =>
    obtain ⟨hc, hcalls⟩ := List.forall_mem_cons.1 h
    rw [List.foldl_cons, leaves, if_pos hc, ih hcalls]
    simp [bytes]

/-- What a file held before a call is lost only if the call does not append. -/
theorem foldl_leaves_cons {calls : List LogCall} (h : ∀ c ∈ calls, c.append = true) (c : LogCall)
    (held : Option (List UInt8)) :
    (c :: calls).foldl leaves held =
      some ((if c.append then held.getD [] else []) ++ bytes (c :: calls)) := by
  rw [List.foldl_cons, leaves, foldl_leaves_of_append h]
  simp [bytes]

end LogCall

section

variable {w : World} {dir name : String} {place : Place} {calls : List LogCall}

theorem World.writeLogs_append (w : World) (dir : String) (calls more : List LogCall) :
    w.writeLogs dir (calls ++ more) = (w.writeLogs dir calls).writeLogs dir more :=
  List.foldl_append

theorem World.writeLogs_concat (w : World) (dir : String) (calls : List LogCall) (c : LogCall) :
    w.writeLogs dir (calls ++ [c]) = (w.writeLogs dir calls).writeLog dir c.name c.text c.append :=
  w.writeLogs_append dir calls [c]

theorem World.Opens.writeLogs (h : w.Opens dir name place)
    (hcalls : ∀ c ∈ calls, ∃ p, w.Opens dir c.name p) :
    (w.writeLogs dir calls).Opens dir name place := by
  -- for all names at once, as the last call needs it of its own
  induction calls using List.reverseRecOn generalizing name place with
  | nil => exact h
  | append_singleton calls c ih =>
    obtain ⟨hcalls, hlast⟩ := List.forall_mem_append.1 hcalls
    obtain ⟨p, hc⟩ := hlast c (List.mem_singleton.2 rfl)
    rw [World.writeLogs_concat]
    exact (ih hc hcalls).writeLog c.text c.append (ih h hcalls)

/-- A file is what the calls to its name leave, one after the other, whatever was kept in between. -/
theorem World.Opens.file?_writeLogs (h : w.Opens dir name place) (hname : '/' ∉ name.toList)
    (hplain : ∀ c ∈ calls, '/' ∉ c.name.toList) (hcalls : ∀ c ∈ calls, ∃ p, w.Opens dir c.name p) :
    (w.writeLogs dir calls).tree.file? place =
      (calls.filter (·.name = name)).foldl LogCall.leaves (w.tree.file? place) := by
  induction calls using List.reverseRecOn with
  | nil => rfl
  | append_singleton calls c ih =>
    obtain ⟨hcalls, hlast⟩ := List.forall_mem_append.1 hcalls
    obtain ⟨hplain, hslash⟩ := List.forall_mem_append.1 hplain
    obtain ⟨p, hc⟩ := hlast c (List.mem_singleton.2 rfl)
    have hopens := hc.writeLogs hcalls
    rw [World.writeLogs_concat, List.filter_append, List.foldl_append, ← ih hplain hcalls]
    -- the last call counts exactly if it is to this name
    by_cases hsame : c.name = name
    · subst hsame
      obtain rfl := h.place_eq hc
      rw [hopens.file?_writeLog]
      simp [LogCall.leaves]
    · have hne : place ≠ p := by
        rintro rfl
        exact hsame (hc.name_eq h (hslash c (List.mem_singleton.2 rfl)) hname)
      rw [hopens.file?_writeLog_of_ne _ _ hne]
      simp [hsame]

theorem World.Opens.readBytes_writeLogs (h : w.Opens dir name place) (hne : calls ≠ [])
    (hcalls : ∀ c ∈ calls, ∃ p, w.Opens dir c.name p) {bytes : List UInt8}
    (hfile : (w.writeLogs dir calls).tree.file? place = some bytes) :
    (w.writeLogs dir calls).tree.readBytes (w.writeLogs dir calls).cwd (Path.join dir name) =
      .ok bytes := by
  obtain ⟨before, c, rfl⟩ := List.eq_nil_or_concat calls |>.resolve_left hne
  rw [List.concat_eq_append] at hcalls hfile ⊢
  obtain ⟨hbefore, hlast⟩ := List.forall_mem_append.1 hcalls
  obtain ⟨p, hc⟩ := hlast c (List.mem_singleton.2 rfl)
  rw [World.writeLogs_concat] at hfile ⊢
  exact (hc.writeLogs hbefore).readBytes_writeLog _ _ (h.writeLogs hbefore) hfile

end

/-- What the file of a name holds after some calls, those to its name being `own`: all from the last
one on that does not append; if all append, what it held before and then all of them. -/
structure World.HoldsLog (w v : World) (dir name : String) (place : Place) (own : List LogCall) :
    Prop where
  overwritten : ∀ before c after, own = before ++ c :: after → c.append = false →
    (∀ d ∈ after, d.append = true) →
      v.tree.readBytes v.cwd (Path.join dir name) = .ok (LogCall.bytes (c :: after))
  appended : (∀ c ∈ own, c.append = true) →
    v.tree.readBytes v.cwd (Path.join dir name) =
      .ok ((w.tree.file? place).getD [] ++ LogCall.bytes own)

/-- Texts that are kept in one directory stand in the files of their names as the calls ask for. No
call changes a file but that of its name, so none changes that of another name. -/
theorem logs_hold {w : World} {dir : String} {calls : List LogCall}
    (hplain : ∀ c ∈ calls, '/' ∉ c.name.toList)
    (hcalls : ∀ c ∈ calls, ∃ place, w.Opens dir c.name place) :
    (∀ c ∈ calls, ∃ place, w.Opens dir c.name place ∧
      w.HoldsLog (w.writeLogs dir calls) dir c.name place (calls.filter (·.name = c.name))) ∧
    ∀ before c after, calls = before ++ c :: after →
      (∀ p, ¬w.Opens dir c.name p →
        (w.writeLogs dir (before ++ [c])).tree.file? p = (w.writeLogs dir before).tree.file? p) ∧
      ∀ name p, '/' ∉ name.toList → name ≠ c.name → w.Opens dir name p →
        (w.writeLogs dir (before ++ [c])).tree.file? p =
          (w.writeLogs dir before).tree.file? p := by
  constructor
  · intro c hc
    obtain ⟨place, hopens⟩ := hcalls c hc
    have hfile := hopens.file?_writeLogs (hplain c hc) hplain hcalls
    refine ⟨place, hopens, ⟨?_, ?_⟩⟩
    · intro before d after hown hd hafter
      apply hopens.readBytes_writeLogs (List.ne_nil_of_mem hc) hcalls
      rw [hfile, hown, List.foldl_append, LogCall.foldl_leaves_cons hafter, hd]
      rfl
    · intro happend
      apply hopens.readBytes_writeLogs (List.ne_nil_of_mem hc) hcalls
      have hmem : c ∈ calls.filter (·.name = c.name) := List.mem_filter.2 ⟨hc, by simp⟩
      obtain ⟨d, own, hown⟩ := List.exists_cons_of_ne_nil (List.ne_nil_of_mem hmem)
      rw [hown] at happend hfile ⊢
      obtain ⟨hd, hrest⟩ := List.forall_mem_cons.1 happend
      rw [hfile, LogCall.foldl_leaves_cons hrest, hd]
      rfl
  · rintro before c after rfl
    obtain ⟨hbefore, hrest⟩ := List.forall_mem_append.1 hcalls
    obtain ⟨place, hc⟩ := hrest c List.mem_cons_self
    have hframe {p : Place} (hp : p ≠ place) :
        (w.writeLogs dir (before ++ [c])).tree.file? p =
          (w.writeLogs dir before).tree.file? p := by
      rw [World.writeLogs_concat]
      exact (hc.writeLogs hbefore).file?_writeLog_of_ne _ _ hp
    constructor
    · intro p hp
      apply hframe
      rintro rfl
      exact hp hc
    · intro name p hslash hname hopens
      apply hframe
      rintro rfl
      exact hname (hopens.name_eq hc hslash (hplain c (by simp)))

/-- Calls to two files by turns: the first one goes on with what an earlier run left, the second one
is begun anew in between. -/
def twoLogs : List LogCall :=
  [⟨"runs.log", "b\n", true⟩, ⟨"raw.rs", "long text", true⟩, ⟨"raw.rs", "x", false⟩,
    ⟨"runs.log", "c\n", true⟩, ⟨"raw.rs", "y", true⟩]

/-- Surroundings in which one file stands in the directory of logs. -/
def loggedBefore : World where
  tree := ⟨[(["logs"], .directory), (["logs", "runs.log"], .file (utf8 "a\n".toList) false)]⟩
  cwd := []
  env := []

theorem loggedBefore_holds :
    let v := loggedBefore.writeLogs "logs" twoLogs
    v.tree.readBytes v.cwd "logs/runs.log" = .ok (utf8 "a\nb\nc\n".toList) ∧
      v.tree.readBytes v.cwd "logs/raw.rs" = .ok (utf8 "xy".toList) := by
  have hplain : ∀ c ∈ twoLogs, '/' ∉ c.name.toList := by decide
  have hruns : loggedBefore.Opens "logs" "runs.log" ["logs", "runs.log"] := ⟨rfl, rfl⟩
  have hraw : loggedBefore.Opens "logs" "raw.rs" ["logs", "raw.rs"] := ⟨rfl, rfl⟩
  have hcalls : ∀ c ∈ twoLogs, ∃ place, loggedBefore.Opens "logs" c.name place := by
    intro c hc
    have hname : c.name = "runs.log" ∨ c.name = "raw.rs" := by
      simp only [twoLogs, List.mem_cons, List.not_mem_nil, or_false] at hc
      rcases hc with rfl | rfl | rfl | rfl | rfl <;> simp
    rcases hname with hname | hname
    · exact ⟨_, hname ▸ hruns⟩
    · exact ⟨_, hname ▸ hraw⟩
  have hhold := (logs_hold hplain hcalls).1
  constructor
  · obtain ⟨place, hopens, hholds⟩ := hhold ⟨"runs.log", "b\n", true⟩ (by simp [twoLogs])
    obtain rfl := hruns.place_eq hopens
    exact hholds.appended (by decide)
  · obtain ⟨place, -, hholds⟩ := hhold ⟨"raw.rs", "x", false⟩ (by simp [twoLogs])
    exact hholds.overwritten [⟨"raw.rs", "long text", true⟩] ⟨"raw.rs", "x", false⟩
      [⟨"raw.rs", "y", true⟩] rfl rfl (by decide)

end EnumForge
