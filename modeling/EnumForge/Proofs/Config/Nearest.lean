import EnumForge.Run.Configuration
import EnumForge.Proofs.World.Path
import EnumForge.Proofs.World.Tree
import Mathlib.Data.List.Infix

namespace EnumForge

/-! Beginnings of a list. -/

section

variable {α : Type}

theorem reverse_inits_concat (as : List α) (a : α) :
    (as ++ [a]).inits.reverse = (as ++ [a]) :: as.inits.reverse := by
  simp [List.inits_append]

theorem inits_append_dropLast (as bs : List α) :
    (as ++ bs).inits = as.inits.dropLast ++ bs.inits.map (as ++ ·) := by
  induction as with
  | nil => simp
  | cons a as ih =>
    have hne : as.inits.map (a :: ·) ≠ [] := by
      cases as <;> simp
    rw [List.cons_append, List.inits_cons, List.inits_cons, ih, List.dropLast_cons_of_ne_nil hne,
      List.map_append, List.map_dropLast, List.map_map]
    rfl

theorem length_lt_of_mem_inits_dropLast {as bs : List α}
    (h : bs ∈ as.inits.dropLast) : bs.length < as.length := by
  rcases List.eq_nil_or_concat as with rfl | ⟨before, a, rfl⟩
  · simp at h
  · rw [List.concat_eq_append, List.inits_append] at h
    simp at h
    have hle := h.length_le
    simp
    omega

end

namespace Tree

theorem foldl_step_names (path : String) (p : Place) :
    (Path.names path).foldl step p = (Path.moves path).foldl step p := by
  rw [Path.names, Path.moves, Path.movesOf]
  induction Path.segments path.toList generalizing p with
  | nil => rfl
  | cons s ss ih =>
    by_cases hempty : s = []
    · simp [hempty, Path.isVoid, ih]
    · by_cases hdot : s = ['.']
      · simp [hdot, Path.isVoid, step, ih]
      · simp [hempty, hdot, Path.isVoid, ih]

/-- Names that do not go back lead to a place below. -/
theorem foldl_step_eq_append {names : List String} (h : ∀ name ∈ names, name ≠ "." ∧ name ≠ "..")
    (p : Place) : names.foldl step p = p ++ names := by
  induction names generalizing p with
  | nil => simp
  | cons name names ih =>
    obtain ⟨⟨hdot, hback⟩, hnames⟩ := List.forall_mem_cons.1 h
    rw [List.foldl_cons, step, if_neg hdot, if_neg hback, ih hnames, List.append_assoc,
      List.singleton_append]

end Tree

/-! Where the search goes. -/

/-- A directory and those above it up to the root, the nearest first. -/
def Place.upward (place : Place) : List Place := place.inits.reverse

def Path.origin (cwd : Place) (path : String) : Place := if isAbsolute path then [] else cwd

/-- The places that a path and the paths it begins with name, the nearest first. -/
def Path.passed (cwd : Place) (path : String) : List Place :=
  ((moves path).inits.map fun names => names.foldl Tree.step (origin cwd path)).reverse

/-- Whether a directory stands at a place, and a configuration file in it. -/
def Tree.holdsConfig (t : Tree) (place : Place) : Bool :=
  t.isDirectory place && (t.get? (place ++ [Config.fileName])).any (· != .directory)

/-- A path names a directory, in which the path of the configuration file can be followed. -/
structure World.Names (w : World) (path : String) (place : Place) : Prop where
  plain : path.toList.contains '\x00' = false
  short : (Path.join path Config.fileName).utf8ByteSize ≤ Tree.maxPathSize
  follows : w.tree.follow (Path.origin w.cwd path) (Path.names path) = .ok place
  directory : w.tree.get? place = some .directory

theorem slash_not_mem_fileName : '/' ∉ Config.fileName.toList := by decide

theorem Tree.route_join {cwd : Place} {path : String}
    (hplain : path.toList.contains '\x00' = false)
    (hshort : (Path.join path Config.fileName).utf8ByteSize ≤ maxPathSize) :
    Route.ofPath cwd (Path.join path Config.fileName) =
      .ok ⟨Path.origin cwd path, Path.names path ++ [Config.fileName], false⟩ := by
  obtain ⟨ss, hjoin, -⟩ := Path.segments_join path slash_not_mem_fileName
  have hzero : (Path.join path Config.fileName).toList.contains '\x00' = false := by
    have hnone : '\x00' ∉ path.toList := by simpa using hplain
    simp only [List.contains_eq_mem, decide_eq_false_iff_not]
    intro hmem
    rcases Path.mem_join hmem with hpath | hslash | hname
    · exact hnone hpath
    · simp at hslash
    · exact absurd hname (by decide)
  have hsome : (Path.join path Config.fileName).isEmpty = false := by
    have hsize := (Path.utf8ByteSize_join path slash_not_mem_fileName).1
    rw [Bool.eq_false_iff]
    intro hempty
    have hzero : "".utf8ByteSize = 0 := by decide
    have hname : Config.fileName.utf8ByteSize = 12 := by decide
    rw [String.isEmpty_iff.1 hempty] at hsize
    omega
  have hnames := Path.names_join path slash_not_mem_fileName (by decide)
  have hlong : ¬ maxPathSize < (Path.join path Config.fileName).utf8ByteSize := by omega
  have hends : (Path.segments (Path.join path Config.fileName).toList).getLast?.any Path.isVoid =
      false := by
    rw [hjoin, List.getLast?_concat]
    decide
  rw [Route.ofPath, hzero, hsome, if_neg (by decide), if_neg (by decide), if_neg hlong]
  dsimp only
  rw [hends, Path.origin, ← Path.isAbsolute_join path slash_not_mem_fileName, ← hnames]
  rfl

namespace World.Names

variable {w : World} {path : String} {place : Place}

/-- The path of the configuration file leads to the file in the directory. -/
theorem locate_join (h : w.Names path place) :
    w.tree.locate w.cwd (Path.join path Config.fileName) = .ok (place ++ [Config.fileName]) := by
  have hfollow : w.tree.follow (Path.origin w.cwd path) (Path.names path ++ [Config.fileName]) =
      .ok (place ++ [Config.fileName]) := by
    have hstep : Tree.step place Config.fileName = place ++ [Config.fileName] := rfl
    have hsize : ¬ Tree.maxNameSize < Config.fileName.utf8ByteSize := by decide
    rw [Tree.follow_append, h.follows]
    change w.tree.follow place [Config.fileName] = _
    rw [Tree.follow, h.directory]
    simp only [hsize, if_false, Tree.follow, hstep]
  exact Tree.locate_eq_ok_iff.2
    ⟨_, ⟨Tree.route_join h.plain h.short, hfollow⟩, fun hends => by simp at hends⟩

theorem isFile_join (h : w.Names path place) :
    w.isFile (Path.join path Config.fileName) = w.tree.holdsConfig place := by
  rw [World.isFile, Tree.isFile, h.locate_join, Tree.holdsConfig, Tree.isDirectory, h.directory]
  rfl

theorem eq_foldl (h : w.Names path place) :
    place = (Path.moves path).foldl Tree.step (Path.origin w.cwd path) := by
  rw [← Tree.foldl_step_names]
  exact Tree.eq_of_follow h.follows

/-- A path that names a directory begins with paths that name directories. -/
theorem parent {parent : String} (h : w.Names path place) (hparent : Path.Parent parent path) :
    ∃ above, w.Names parent above := by
  obtain ⟨above, habove, hdirectory⟩ := Tree.follow_prefix hparent.names h.follows h.directory
  have horigin : Path.origin w.cwd parent = Path.origin w.cwd path := by
    rw [Path.origin, Path.origin, hparent.isAbsolute]
  refine ⟨above, ?_, ?_, horigin ▸ habove, hdirectory⟩
  · obtain ⟨rest, -, htext⟩ := hparent.text
    have hplain := h.plain
    rw [htext, String.toList_append] at hplain
    simp at hplain ⊢
    exact hplain.1
  · exact (Path.utf8ByteSize_join_le hparent slash_not_mem_fileName).trans h.short

end World.Names

namespace Path

theorem passed_of_moves_eq_nil {cwd : Place} {path : String} (h : moves path = []) :
    passed cwd path = [origin cwd path] := by
  rw [passed, h]
  rfl

/-- A path passes the place it names itself first. -/
theorem passed_eq_cons (cwd : Place) (path : String) :
    ∃ rest, passed cwd path = (moves path).foldl Tree.step (origin cwd path) :: rest := by
  rcases List.eq_nil_or_concat (moves path) with hnil | ⟨before, name, hmoves⟩
  · exact ⟨[], by rw [passed_of_moves_eq_nil hnil, hnil]; rfl⟩
  · rw [passed, ← List.map_reverse, hmoves, List.concat_eq_append, reverse_inits_concat]
    exact ⟨_, rfl⟩

/-- What a path passes is the place it names itself and what its parent passes. -/
theorem find?_passed_of_parent {cwd : Place} {path parent : String} (h : Parent parent path)
    (p : Place → Bool) :
    (passed cwd path).find? p =
      if p ((moves path).foldl Tree.step (origin cwd path)) then
        some ((moves path).foldl Tree.step (origin cwd path))
      else (passed cwd parent).find? p := by
  have horigin : origin cwd parent = origin cwd path := by rw [origin, origin, h.isAbsolute]
  rcases h.moves with hmoves | ⟨name, hmoves⟩
  · have hpassed : passed cwd parent = passed cwd path := by
      rw [passed, passed, hmoves, horigin]
    obtain ⟨rest, hrest⟩ := passed_eq_cons cwd path
    rw [hpassed, hrest, List.find?_cons]
    cases p ((moves path).foldl Tree.step (origin cwd path)) <;> rfl
  · rw [passed, passed, ← List.map_reverse, ← List.map_reverse, hmoves, horigin,
      reverse_inits_concat, List.map_cons, List.find?_cons]
    cases p ((moves parent ++ [name]).foldl Tree.step (origin cwd path)) <;> rfl

end Path

/-- The search finds the configuration file of the first of the places that the start passes. -/
theorem World.Names.find?_ancestorsFrom {w : World} {path : String} {place : Place} {fuel : Nat}
    (h : w.Names path place) (hfuel : path.length < fuel) :
    ((((Path.ancestorsFrom fuel path).map fun dir => Path.join dir Config.fileName).find?
        w.isFile).map fun found => w.tree.locate w.cwd found) =
      ((Path.passed w.cwd path).find? w.tree.holdsConfig).map fun q =>
        .ok (q ++ [Config.fileName]) := by
  -- a parent names a directory because its names begin those of the path
  induction fuel generalizing path place with
  | zero => omega
  | succ fuel ih =>
    rw [Path.ancestorsFrom, List.map_cons, List.find?_cons, h.isFile_join]
    cases hholds : w.tree.holdsConfig place with
    | true =>
      obtain ⟨rest, hrest⟩ := Path.passed_eq_cons w.cwd path
      rw [hrest, ← h.eq_foldl, List.find?_cons, hholds]
      exact congrArg some h.locate_join
    | false =>
      cases hparent : Path.parent? path with
      | none =>
        have hmoves := Path.moves_of_parent?_eq_none hparent
        have hplace := h.eq_foldl
        rw [hmoves] at hplace
        rw [Path.passed_of_moves_eq_nil hmoves, List.find?_cons]
        obtain rfl : place = Path.origin w.cwd path := hplace
        rw [hholds]
        rfl
      | some parent =>
        have hp := Path.parent_of_parent? hparent
        obtain ⟨above, habove⟩ := h.parent hp
        have hlt := hp.length_lt
        rw [Path.find?_passed_of_parent hp, ← h.eq_foldl, hholds]
        exact ih habove (by omega)

theorem Path.ne_of_mem_moves {path name : String} (h : name ∈ moves path) :
    name ≠ "." ∧ name ∈ names path := by
  obtain ⟨s, hs, rfl⟩ := List.mem_map.1 h
  obtain ⟨hmem, hvoid⟩ := List.mem_filter.1 hs
  have hvoid : s ≠ [] ∧ s ≠ ['.'] := by simpa [isVoid] using hvoid
  constructor
  · intro hdot
    rw [← String.toList_inj, String.toList_ofList] at hdot
    exact hvoid.2 hdot
  · exact List.mem_map_of_mem (List.mem_filter.2 ⟨hmem, by simpa using hvoid.1⟩)

namespace Path

variable {path : String}

theorem ne_back_of_mem_moves (h : ".." ∉ names path) :
    ∀ name ∈ moves path, name ≠ "." ∧ name ≠ ".." := by
  intro name hname
  obtain ⟨hdot, hmem⟩ := ne_of_mem_moves hname
  refine ⟨hdot, ?_⟩
  intro heq
  subst heq
  exact h hmem

/-- A path that does not go back passes places below the one it starts from. -/
theorem passed_of_not_mem (cwd : Place) (h : ".." ∉ names path) :
    passed cwd path = ((moves path).inits.map (origin cwd path ++ ·)).reverse := by
  rw [passed]
  congr 1
  apply List.map_congr_left
  intro before hbefore
  have hbegins := (List.mem_inits _ _).1 hbefore
  exact Tree.foldl_step_eq_append
    (fun name hname => ne_back_of_mem_moves h name (hbegins.subset hname)) _

theorem prefix_of_mem_passed {cwd q : Place} (h : ".." ∉ names path) (hq : q ∈ passed cwd path) :
    origin cwd path <+: q := by
  rw [passed_of_not_mem cwd h, List.mem_reverse, List.mem_map] at hq
  obtain ⟨before, -, rfl⟩ := hq
  exact List.prefix_append _ _

/-- The directories above the place that a path names are those it passes and those above the place
it starts from. -/
theorem upward_of_not_mem (cwd : Place) (h : ".." ∉ names path) :
    Place.upward ((moves path).foldl Tree.step (origin cwd path)) =
      passed cwd path ++ (origin cwd path).inits.dropLast.reverse := by
  rw [Tree.foldl_step_eq_append (ne_back_of_mem_moves h), Place.upward, inits_append_dropLast,
    List.reverse_append, passed_of_not_mem cwd h]

end Path

namespace World

/-- The search finds the file of the nearest directory that holds one, from a directory up to the
root, and nothing where none of them does. -/
def FindsNearest (w : World) (start : String) (place : Place) : Prop :=
  (w.findConfig? start).map (fun found => w.tree.locate w.cwd found) =
    (place.upward.find? w.tree.holdsConfig).map fun nearest => .ok (nearest ++ [Config.fileName])

theorem names_of_locate {w : World} {start : String} {place : Place}
    (hstart : w.tree.locate w.cwd start = .ok place)
    (hplace : w.tree.get? place = some .directory)
    (hshort : (Path.join start Config.fileName).utf8ByteSize ≤ Tree.maxPathSize) :
    w.Names start place := by
  obtain ⟨route, ⟨hroute, hfollow⟩, -⟩ := Tree.locate_eq_ok_iff.1 hstart
  unfold Tree.Route.ofPath at hroute
  split at hroute
  · simp at hroute
  · next hzero =>
    split at hroute
    · simp at hroute
    · split at hroute
      · simp at hroute
      · obtain rfl := Except.ok.inj hroute
        exact ⟨Bool.eq_false_iff.2 hzero, hshort, hfollow, hplace⟩

/-- From a directory, the search finds the nearest configuration file exactly where the first of the
places that the start passes to hold one is the first of the directories above it; a start that does
not go back must begin at the root, or else the nearest file must not stand above the current
directory. -/
theorem findsNearest_iff {w : World} {start : String} {place : Place}
    (hstart : w.tree.locate w.cwd start = .ok place)
    (hplace : w.tree.get? place = some .directory)
    (hshort : (Path.join start Config.fileName).utf8ByteSize ≤ Tree.maxPathSize) :
    (w.FindsNearest start place ↔
        (Path.passed w.cwd start).find? w.tree.holdsConfig =
          place.upward.find? w.tree.holdsConfig) ∧
      (".." ∉ Path.names start →
        (w.FindsNearest start place ↔
          Path.isAbsolute start = true ∨
            ∀ nearest, place.upward.find? w.tree.holdsConfig = some nearest →
              w.cwd <+: nearest)) := by
  have hnames := names_of_locate hstart hplace hshort
  have hpassed : w.FindsNearest start place ↔
      (Path.passed w.cwd start).find? w.tree.holdsConfig =
        place.upward.find? w.tree.holdsConfig := by
    have hfuel : start.length < start.length + 2 := by omega
    have hinjective : Function.Injective fun q : Place =>
        (.ok (q ++ [Config.fileName]) : Except FileError Place) := by
      intro q r h
      exact List.append_cancel_right (Except.ok.inj h)
    rw [FindsNearest, findConfig?, Path.ancestors, hnames.find?_ancestorsFrom hfuel]
    exact (Option.map_injective hinjective).eq_iff
  refine ⟨hpassed, ?_⟩
  intro hback
  rw [hpassed, hnames.eq_foldl, Path.upward_of_not_mem w.cwd hback, List.find?_append]
  cases habsolute : Path.isAbsolute start with
  | true =>
    have horigin : Path.origin w.cwd start = [] := by rw [Path.origin, if_pos habsolute]
    rw [horigin]
    simp
  | false =>
    have horigin : Path.origin w.cwd start = w.cwd := by
      rw [Path.origin, habsolute]
      rfl
    rw [horigin]
    cases hfirst : (Path.passed w.cwd start).find? w.tree.holdsConfig with
    | some q =>
      have hbegins := Path.prefix_of_mem_passed hback (List.mem_of_find?_eq_some hfirst)
      rw [horigin] at hbegins
      simp [hbegins]
    | none =>
      rw [Option.none_or]
      cases habove : w.cwd.inits.dropLast.reverse.find? w.tree.holdsConfig with
      | none => simp
      | some q =>
        have hmem := List.mem_reverse.1 (List.mem_of_find?_eq_some habove)
        have hlt := length_lt_of_mem_inits_dropLast hmem
        refine iff_of_false (by simp) ?_
        intro heither
        rcases heither with h | h
        · simp at h
        · have hle := (h q rfl).length_le
          omega

/-- A directory holds a configuration file and another directory, and is the current one. -/
def nested : World where
  tree := ⟨[(["a"], .directory), (["a", "b"], .directory), (["a", "enumgen.toml"], .file [] false)]⟩
  cwd := ["a"]
  env := []

theorem nested_findsNearest : nested.FindsNearest "./b" ["a", "b"] := by
  have hstart : nested.tree.locate nested.cwd "./b" = .ok ["a", "b"] := rfl
  have hplace : nested.tree.get? ["a", "b"] = some .directory := rfl
  have hbelow : ∀ nearest, (Place.upward ["a", "b"]).find? nested.tree.holdsConfig = some nearest →
      nested.cwd <+: nearest := by
    intro nearest hnearest
    obtain rfl : ["a"] = nearest := Option.some.inj hnearest
    exact List.prefix_rfl
  exact ((findsNearest_iff hstart hplace (by decide)).2 (by decide)).2 (.inr hbelow)

/-- A start that goes back from a directory passes it, though it does not stand above the root. -/
theorem nested_passes_file :
    nested.tree.locate nested.cwd "/a/.." = .ok [] ∧
      nested.findConfig? "/a/.." = some "/a/enumgen.toml" ∧
        ¬ nested.FindsNearest "/a/.." [] := by
  refine ⟨rfl, by decide, ?_⟩
  unfold FindsNearest
  decide

-- from "b" the search does not go above the current directory
example : ({ nested with cwd := ["a", "b"] } : World).findConfig? "." = none := by decide

end World

end EnumForge
