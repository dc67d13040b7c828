import EnumForge.Proofs.Checked
import EnumForge.World.Tree

namespace EnumForge

namespace Path

/-- The paths to which one comes from a path by going up. -/
inductive Above : String → String → Prop
  | refl (path : String) : Above path path
  | up {above parent path : String} (hparent : parent? path = some parent)
    (habove : Above above parent) : Above above path

end Path

namespace Tree

theorem get?_nil (tree : Tree) : tree.get? [] = some .directory := rfl

theorem ne_nil_of_get? {tree : Tree} {place : Place} (h : tree.get? place ≠ some .directory) :
    place ≠ [] := by
  rintro rfl
  exact h tree.get?_nil

theorem get?_put_self (tree : Tree) {place : Place} (hplace : place ≠ []) (entry : Entry) :
    (tree.put place entry).get? place = some entry := by
  simp [get?, put, hplace]

theorem get?_put_of_ne (tree : Tree) {p place : Place} (h : p ≠ place) (entry : Entry) :
    (tree.put place entry).get? p = tree.get? p := by
  have hfilter (es : List (Place × Entry)) :
      (es.filter fun e => e.1 ≠ place).lookup p = es.lookup p := by
    induction es with
    | nil => rfl
    | cons e es ih =>
      by_cases he : e.1 = place
      · have hp : (p == e.1) = false := beq_eq_false_iff_ne.2 (he ▸ h)
        rw [List.filter_cons_of_neg (by simpa using he), ih, List.lookup_cons, hp]
      · rw [List.filter_cons_of_pos (by simpa using he), List.lookup_cons, List.lookup_cons, ih]
  have hp : (p == place) = false := beq_eq_false_iff_ne.2 h
  simp only [get?, put, List.lookup_cons, hp, hfilter]

/-- Every directory of a tree is one of another. -/
def KeepsDirectories (t u : Tree) : Prop :=
  ∀ p, t.get? p = some .directory → u.get? p = some .directory

variable {t u v : Tree} {cwd place : Place} {path : String}

/-- A change at one place, where no directory stands, keeps all directories. -/
theorem KeepsDirectories.of_frame (hplace : t.get? place ≠ some .directory)
    (hframe : ∀ p, p ≠ place → u.get? p = t.get? p) : KeepsDirectories t u := by
  intro p hp
  have hne : p ≠ place := by
    rintro rfl
    exact hplace hp
  rw [hframe p hne, hp]

theorem KeepsDirectories.put (t : Tree) (hplace : t.get? place ≠ some .directory) (entry : Entry) :
    KeepsDirectories t (t.put place entry) :=
  of_frame hplace fun _ hp => get?_put_of_ne t hp entry

theorem KeepsDirectories.follow (h : KeepsDirectories t u) {start : Place} {names : List String}
    (hfollow : t.follow start names = .ok place) : u.follow start names = .ok place := by
  induction names generalizing start with
  | nil => exact hfollow
  | cons name names ih =>
    unfold Tree.follow at hfollow ⊢
    split at hfollow
    · simp at hfollow
    · simp at hfollow
    · next hdirectory =>
      rw [h start hdirectory]
      split at hfollow
      · simp at hfollow
      · next hsize =>
        rw [if_neg hsize]
        exact ih hfollow

theorem follow_append (p : Place) (before after : List String) :
    t.follow p (before ++ after) = t.follow p before >>= fun q => t.follow q after := by
  induction before generalizing p with
  | nil => rfl
  | cons name before ih =>
    rw [List.cons_append, follow, follow]
    cases t.get? p with
    | none => rfl
    | some entry =>
      cases entry with
      | file content executable => rfl
      | directory =>
        dsimp only
        split
        · rfl
        · exact ih _

theorem eq_of_follow {p q : Place} {names : List String} (h : t.follow p names = .ok q) :
    q = names.foldl step p := by
  induction names generalizing p with
  | nil => exact (Except.ok.inj h).symm
  | cons name names ih =>
    unfold follow at h
    split at h
    · simp at h
    · simp at h
    · split at h
      · simp at h
      · exact ih h

theorem isDirectory_of_follow_cons {p q : Place} {name : String} {names : List String}
    (h : t.follow p (name :: names) = .ok q) : t.get? p = some .directory := by
  unfold follow at h
  split at h
  · simp at h
  · simp at h
  · next hdirectory => exact hdirectory

/-- The beginning of a way to a directory leads to a directory. -/
theorem follow_prefix {p q : Place} {before names : List String} (hbegins : before <+: names)
    (h : t.follow p names = .ok q) (hq : t.get? q = some .directory) :
    ∃ r, t.follow p before = .ok r ∧ t.get? r = some .directory := by
  obtain ⟨after, rfl⟩ := hbegins
  rw [follow_append, except_bind_eq_ok_iff] at h
  obtain ⟨r, hr, hafter⟩ := h
  refine ⟨r, hr, ?_⟩
  cases after with
  | nil =>
    obtain rfl := Except.ok.inj hafter
    exact hq
  | cons name after => exact isDirectory_of_follow_cons hafter

/-- A path leads to a place: the names of its route lead there, whatever stands at the end. -/
def Leads (t : Tree) (cwd : Place) (path : String) (route : Route) (place : Place) : Prop :=
  Route.ofPath cwd path = .ok route ∧ t.follow route.start route.names = .ok place

theorem KeepsDirectories.leads (h : KeepsDirectories t u) {route : Route}
    (hleads : t.Leads cwd path route place) : u.Leads cwd path route place :=
  ⟨hleads.1, h.follow hleads.2⟩

theorem locate_eq_ok_iff :
    t.locate cwd path = .ok place ↔
      ∃ route, t.Leads cwd path route place ∧
        (route.endsInDirectory = true → ∀ content executable,
          t.get? place ≠ some (.file content executable)) := by
  simp only [locate, Leads, except_bind_eq_ok_iff, and_assoc]
  refine exists_congr fun route => and_congr_right fun _ => ?_
  constructor
  · rintro ⟨p, hfollow, hplace⟩
    split at hplace
    · next content executable hfile =>
      split at hplace
      · simp at hplace
      · next hends =>
        obtain rfl := Except.ok.inj hplace
        exact ⟨hfollow, fun h => absurd h hends⟩
    · next hother =>
      obtain rfl := Except.ok.inj hplace
      exact ⟨hfollow, fun _ content executable h => hother content executable h⟩
  · rintro ⟨hfollow, hends⟩
    refine ⟨place, hfollow, ?_⟩
    split
    · next content executable hfile =>
      split
      · next h => exact absurd hfile (hends h content executable)
      · rfl
    · rfl

theorem isDirectoryAt_eq_true_iff :
    t.isDirectoryAt cwd path = true ↔
      ∃ place, t.locate cwd path = .ok place ∧ t.get? place = some .directory := by
  unfold isDirectoryAt
  cases hlocate : t.locate cwd path with
  | error e => simp
  | ok place => simp [isDirectory]

/-- Where a directory stands, it stays. -/
theorem KeepsDirectories.locate (h : KeepsDirectories t u) (hlocate : t.locate cwd path = .ok place)
    (hplace : t.get? place = some .directory) : u.locate cwd path = .ok place := by
  obtain ⟨route, hleads, -⟩ := locate_eq_ok_iff.1 hlocate
  refine locate_eq_ok_iff.2 ⟨route, h.leads hleads, ?_⟩
  intro _ content executable hfile
  rw [h place hplace] at hfile
  simp at hfile

theorem KeepsDirectories.isDirectoryAt (h : KeepsDirectories t u)
    (ht : t.isDirectoryAt cwd path = true) : u.isDirectoryAt cwd path = true := by
  obtain ⟨place, hlocate, hplace⟩ := isDirectoryAt_eq_true_iff.1 ht
  exact isDirectoryAt_eq_true_iff.2 ⟨place, h.locate hlocate hplace, h place hplace⟩

theorem makeDirectory_eq_ok (h : t.makeDirectory cwd path = .ok u) :
    ∃ place, t.get? place = none ∧ u = t.put place .directory ∧
      u.get? place = some .directory ∧ u.locate cwd path = .ok place := by
  simp only [makeDirectory, except_bind_eq_ok_iff] at h
  obtain ⟨route, hroute, place, hfollow, h⟩ := h
  split at h
  · simp at h
  · next hnone =>
    split at h
    · simp at h
    · obtain rfl := Except.ok.inj h
      have hnone : t.get? place = none := by simpa using hnone
      have hdirectory : t.get? place ≠ some .directory := by simp [hnone]
      have hput := get?_put_self t (ne_nil_of_get? hdirectory) .directory
      have hkeeps := KeepsDirectories.put t hdirectory .directory
      have hleads : (t.put place .directory).Leads cwd path route place :=
        hkeeps.leads ⟨hroute, hfollow⟩
      refine ⟨place, hnone, rfl, hput, locate_eq_ok_iff.2 ⟨route, hleads, ?_⟩⟩
      simp [hput]

theorem isDirectoryAt_of_makeDirectory (h : t.makeDirectory cwd path = .ok u) :
    u.isDirectoryAt cwd path = true := by
  obtain ⟨place, -, -, hplace, hlocate⟩ := makeDirectory_eq_ok h
  exact isDirectoryAt_eq_true_iff.2 ⟨place, hlocate, hplace⟩

/-- A directory that had to be there is there. -/
theorem isDirectoryAt_of_makeDirectoriesFrom {fuel : Nat} (hpath : path.isEmpty = false)
    (h : t.makeDirectoriesFrom fuel cwd path = (u, .ok ())) : u.isDirectoryAt cwd path = true := by
  cases fuel with
  | zero => simp [makeDirectoriesFrom] at h
  | succ fuel =>
    have settled {t : Tree} {e : FileError}
        (h : (if t.isDirectoryAt cwd path then (t, Except.ok ()) else (t, .error e)) =
          (u, .ok ())) : u.isDirectoryAt cwd path = true := by
      split at h
      · next hdirectory => exact (Prod.mk.inj h).1 ▸ hdirectory
      · simp at h
    simp only [makeDirectoriesFrom, hpath, Bool.false_eq_true, if_false] at h
    split at h
    · next hmade => exact isDirectoryAt_of_makeDirectory ((Prod.mk.inj h).1 ▸ hmade)
    · split at h
      · simp at h
      · split at h
        · simp at h
        · split at h
          · next hmade => exact isDirectoryAt_of_makeDirectory ((Prod.mk.inj h).1 ▸ hmade)
          · exact settled h
    · exact settled h

/-- A tree to which directories may have been added, each at a place to which one of some paths
leads. -/
def Grows (cwd : Place) (paths : String → Prop) (t u : Tree) : Prop :=
  ∀ p, u.get? p = t.get? p ∨
    t.get? p = none ∧ u.get? p = some .directory ∧
      ∃ path, paths path ∧ u.locate cwd path = .ok p

namespace Grows

variable {paths : String → Prop}

theorem refl (t : Tree) : Grows cwd paths t t := fun _ => .inl rfl

theorem keepsDirectories (h : Grows cwd paths t u) : KeepsDirectories t u := by
  intro p hp
  rcases h p with hsame | ⟨hnone, -⟩
  · rw [hsame, hp]
  · simp [hp] at hnone

theorem trans (htu : Grows cwd paths t u) (huv : Grows cwd paths u v) : Grows cwd paths t v := by
  intro p
  rcases huv p with huv' | ⟨hnone, hnew⟩
  · rcases htu p with htu' | ⟨hnone, hnew, path, hpath, hlocate⟩
    · exact .inl (huv'.trans htu')
    · have hkept := huv.keepsDirectories.locate hlocate hnew
      exact .inr ⟨hnone, huv'.trans hnew, path, hpath, hkept⟩
  · rcases htu p with htu' | ⟨-, hdirectory, -⟩
    · exact .inr ⟨htu' ▸ hnone, hnew⟩
    · simp [hdirectory] at hnone

theorem mono {more : String → Prop} (hmore : ∀ path, paths path → more path)
    (h : Grows cwd paths t u) : Grows cwd more t u := by
  intro p
  rcases h p with hsame | ⟨hnone, hnew, path, hpath, hlocate⟩
  · exact .inl hsame
  · exact .inr ⟨hnone, hnew, path, hmore path hpath, hlocate⟩

/-- No file comes, goes or changes. -/
theorem get?_eq_file_iff (h : Grows cwd paths t u) (p : Place) (content : List UInt8)
    (executable : Bool) :
    u.get? p = some (.file content executable) ↔ t.get? p = some (.file content executable) := by
  rcases h p with hsame | ⟨hnone, hnew, -⟩
  · rw [hsame]
  · simp [hnone, hnew]

theorem makeDirectory (h : t.makeDirectory cwd path = .ok u) :
    Grows cwd (Path.Above · path) t u := by
  obtain ⟨place, hnone, rfl, hput, hlocate⟩ := makeDirectory_eq_ok h
  intro p
  by_cases hp : p = place
  · subst hp
    exact .inr ⟨hnone, hput, path, .refl path, hlocate⟩
  · exact .inl (get?_put_of_ne t hp .directory)

/-- Whether or not all directories could be made, nothing else has changed. -/
theorem makeDirectoriesFrom (fuel : Nat) (t : Tree) (path : String) :
    Grows cwd (Path.Above · path) t (t.makeDirectoriesFrom fuel cwd path).1 := by
  induction fuel generalizing path with
  | zero => exact refl t
  | succ fuel ih =>
    unfold Tree.makeDirectoriesFrom
    dsimp only
    split
    · exact refl t
    · split
      · next hmade => exact makeDirectory hmade
      · split
        · exact refl t
        · next parent hparent =>
          have hup := (ih parent).mono fun above habove => Path.Above.up hparent habove
          split
          · next habove =>
            rw [habove] at hup
            exact hup
          · next habove =>
            rw [habove] at hup
            split
            · next hmade => exact hup.trans (makeDirectory hmade)
            · split <;> exact hup
      · split <;> exact refl t

end Grows

theorem writablePlace_eq_ok_iff :
    t.writablePlace cwd path = .ok place ↔
      ∃ route, t.Leads cwd path route place ∧ route.endsInDirectory = false ∧
        t.get? place ≠ some .directory ∧
        (t.get? place = none → t.get? place.dropLast = some .directory) := by
  simp only [writablePlace, Leads, except_bind_eq_ok_iff, and_assoc]
  refine exists_congr fun route => and_congr_right fun _ => ?_
  constructor
  · rintro ⟨p, hfollow, h⟩
    split at h
    · simp at h
    · next hfile =>
      split at h
      · simp at h
      · next hends =>
        obtain rfl := Except.ok.inj h
        exact ⟨hfollow, by simpa using hends, by simp [hfile], by simp [hfile]⟩
    · next hnone =>
      split at h
      · next hparent =>
        split at h
        · simp at h
        · next hends =>
          obtain rfl := Except.ok.inj h
          exact ⟨hfollow, by simpa using hends, by simp [hnone], fun _ => hparent⟩
      · simp at h
      · simp at h
  · rintro ⟨hfollow, hends, hdirectory, hparent⟩
    refine ⟨place, hfollow, ?_⟩
    split
    · next h => exact absurd h hdirectory
    · simp [hends, pure, Except.pure]
    · next hnone => simp [hparent hnone, hends, pure, Except.pure]

def isExecutable (t : Tree) (place : Place) : Bool :=
  match t.get? place with
  | some (.file _ executable) => executable
  | _ => false

/-- Bytes of the file at a place, if one stands there. -/
def file? (t : Tree) (place : Place) : Option (List UInt8) :=
  match t.get? place with
  | some (.file content _) => some content
  | _ => none

theorem file?_congr (h : u.get? place = t.get? place) : u.file? place = t.file? place := by
  rw [file?, file?, h]

theorem file?_eq_some_iff {bytes : List UInt8} :
    t.file? place = some bytes ↔ ∃ executable, t.get? place = some (.file bytes executable) := by
  unfold file?
  split
  · next content executable hfile => simp [hfile]
  · next hother =>
    constructor
    · intro h
      simp at h
    · rintro ⟨executable, hfile⟩
      exact absurd hfile (hother bytes executable)

theorem file?_put_self (hplace : place ≠ []) {bytes : List UInt8} {executable : Bool} :
    (t.put place (.file bytes executable)).file? place = some bytes :=
  file?_eq_some_iff.2 ⟨executable, get?_put_self t hplace _⟩

/-- Making directories changes no file. -/
theorem file?_makeDirectories (t : Tree) (cwd : Place) (path : String) (p : Place) :
    (t.makeDirectories cwd path).1.file? p = t.file? p := by
  have hgrows : Grows cwd (Path.Above · path) t (t.makeDirectories cwd path).1 :=
    .makeDirectoriesFrom (path.length + 2) t path
  apply Option.ext
  intro bytes
  simp only [file?_eq_some_iff, hgrows.get?_eq_file_iff]

/-- Writing puts a file where the path leads, after the bytes of the one before it or in place of
them; it may be run if the one before it could. -/
theorem writeBytes_eq_map (t : Tree) (cwd : Place) (path : String) (append : Bool)
    (bytes : List UInt8) :
    t.writeBytes cwd path append bytes =
      (t.writablePlace cwd path).map fun place =>
        t.put place (.file ((if append then (t.file? place).getD [] else []) ++ bytes)
          (t.isExecutable place)) := by
  unfold writeBytes
  cases t.writablePlace cwd path with
  | error e => rfl
  | ok place =>
    simp only [isExecutable, file?, Except.map, bind, Except.bind]
    cases t.get? place with
    | none => cases append <;> rfl
    | some entry =>
      cases entry with
      | file content executable => cases append <;> rfl
      | directory => cases append <;> rfl

theorem writeBytes_eq (t : Tree) (cwd : Place) (path : String) (bytes : List UInt8) :
    t.writeBytes cwd path false bytes =
      (t.writablePlace cwd path).map fun place =>
        t.put place (.file bytes (t.isExecutable place)) :=
  t.writeBytes_eq_map cwd path false bytes

theorem writeBytes_eq_ok {bytes : List UInt8} (h : t.writeBytes cwd path false bytes = .ok u) :
    ∃ place executable, t.writablePlace cwd path = .ok place ∧ u.locate cwd path = .ok place ∧
      u.get? place = some (.file bytes executable) ∧ ∀ p, p ≠ place → u.get? p = t.get? p := by
  rw [writeBytes_eq, except_map_eq_ok_iff] at h
  obtain ⟨place, hwritable, rfl⟩ := h
  obtain ⟨route, hleads, hends, hdirectory, -⟩ := writablePlace_eq_ok_iff.1 hwritable
  refine ⟨place, t.isExecutable place, hwritable, ?_, ?_, ?_⟩
  · have hkeeps := KeepsDirectories.put t hdirectory (.file bytes (t.isExecutable place))
    exact locate_eq_ok_iff.2 ⟨route, hkeeps.leads hleads, by simp [hends]⟩
  · exact get?_put_self t (ne_nil_of_get? hdirectory) _
  · exact fun p hp => get?_put_of_ne t hp _

/-- Where a file is written, it is found. -/
theorem locate_of_writablePlace (h : t.writablePlace cwd path = .ok place) :
    t.locate cwd path = .ok place := by
  obtain ⟨route, hleads, hends, -⟩ := writablePlace_eq_ok_iff.1 h
  exact locate_eq_ok_iff.2 ⟨route, hleads, by simp [hends]⟩

/-- A file that is written at a place hinders no other from being written. -/
theorem writablePlace_put {other : String} {p : Place} {content : List UInt8} {executable : Bool}
    (h : t.writablePlace cwd path = .ok place) (hother : t.writablePlace cwd other = .ok p) :
    (t.put place (.file content executable)).writablePlace cwd other = .ok p := by
  obtain ⟨-, -, -, hplace, -⟩ := writablePlace_eq_ok_iff.1 h
  obtain ⟨route, hleads, hends, hp, hparent⟩ := writablePlace_eq_ok_iff.1 hother
  have hkeeps := KeepsDirectories.put t hplace (.file content executable)
  refine writablePlace_eq_ok_iff.2 ⟨route, hkeeps.leads hleads, hends, ?_⟩
  by_cases hsame : p = place
  · subst hsame
    have hput := get?_put_self t (ne_nil_of_get? hplace) (.file content executable)
    exact ⟨by simp [hput], by simp [hput]⟩
  · rw [get?_put_of_ne t hsame]
    exact ⟨hp, fun hnone => hkeeps _ (hparent hnone)⟩

theorem readBytes_eq_ok_iff {bytes : List UInt8} :
    t.readBytes cwd path = .ok bytes ↔
      ∃ place executable, t.locate cwd path = .ok place ∧
        t.get? place = some (.file bytes executable) := by
  simp only [readBytes, except_bind_eq_ok_iff]
  constructor
  · rintro ⟨place, hlocate, h⟩
    split at h
    · simp at h
    · simp at h
    · next content executable hfile =>
      obtain rfl := Except.ok.inj h
      exact ⟨place, executable, hlocate, hfile⟩
  · rintro ⟨place, executable, hlocate, hplace⟩
    exact ⟨place, hlocate, by rw [hplace]; rfl⟩

/-- A path that leads to a file leads to the place of the file, whatever stands there. -/
theorem KeepsDirectories.locate_file (h : KeepsDirectories t u) {content : List UInt8}
    {executable : Bool} (hlocate : t.locate cwd path = .ok place)
    (hplace : t.get? place = some (.file content executable)) : u.locate cwd path = .ok place := by
  obtain ⟨route, hleads, hends⟩ := locate_eq_ok_iff.1 hlocate
  refine locate_eq_ok_iff.2 ⟨route, h.leads hleads, fun hroute => ?_⟩
  exact absurd hplace (hends hroute content executable)

end Tree

end EnumForge
