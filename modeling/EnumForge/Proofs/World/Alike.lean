import EnumForge.Proofs.World.Tree

namespace EnumForge.Tree

variable {s t u : Tree} {cwd place : Place} {path : String}

/-! Following paths in two trees. -/

/-- Only directories on the way count for following names. -/
theorem follow_congr (h : ∀ p, s.get? p = some .directory → u.get? p = t.get? p) {start : Place}
    {names : List String} (hfollow : s.follow start names = .ok place) :
    u.follow start names = t.follow start names := by
  induction names generalizing start with
  | nil => rfl
  | cons name names ih =>
    unfold follow at hfollow ⊢
    split at hfollow
    · simp at hfollow
    · simp at hfollow
    · next hdirectory =>
      split at hfollow
      · simp at hfollow
      · next hsize =>
        rw [h start hdirectory, if_neg hsize, if_neg hsize, ih hfollow]

/-- Trees with the same at every place but one, where neither has a directory. -/
structure AlikeOff (place : Place) (t u : Tree) : Prop where
  same : ∀ p, p ≠ place → u.get? p = t.get? p
  left : t.get? place ≠ some .directory
  right : u.get? place ≠ some .directory

namespace AlikeOff

theorem symm (h : AlikeOff place t u) : AlikeOff place u t :=
  ⟨fun p hp => (h.same p hp).symm, h.right, h.left⟩

theorem keepsDirectories (h : AlikeOff place t u) : KeepsDirectories t u :=
  .of_frame h.left h.same

theorem isDirectory_eq (h : AlikeOff place t u) (p : Place) :
    u.isDirectory p = t.isDirectory p := by
  unfold isDirectory
  by_cases hp : p = place
  · subst hp
    rw [beq_eq_false_iff_ne.2 h.left, beq_eq_false_iff_ne.2 h.right]
  · rw [h.same p hp]

theorem isDirectoryAt_eq (h : AlikeOff place t u) (cwd : Place) (path : String) :
    u.isDirectoryAt cwd path = t.isDirectoryAt cwd path :=
  Bool.eq_iff_iff.2 ⟨h.symm.keepsDirectories.isDirectoryAt, h.keepsDirectories.isDirectoryAt⟩

theorem put (h : AlikeOff place t u) {p : Place} (hp : p ≠ place) (entry : Entry) :
    AlikeOff place (t.put p entry) (u.put p entry) := by
  refine ⟨fun q hq => ?_, ?_, ?_⟩
  · by_cases hqp : q = p
    · subst hqp
      by_cases hroot : q = []
      · subst hroot
        rfl
      · rw [get?_put_self t hroot, get?_put_self u hroot]
    · rw [get?_put_of_ne t hqp, get?_put_of_ne u hqp, h.same q hq]
  · rw [get?_put_of_ne t (Ne.symm hp)]
    exact h.left
  · rw [get?_put_of_ne u (Ne.symm hp)]
    exact h.right

/-- A directory is made alike in both trees, or not at all for the same reason. The path must be one
that does not need a directory at the place where they differ: in `s` it leads to a directory
without one there. -/
theorem makeDirectory (h : AlikeOff place t u) (hs : s.isDirectoryAt cwd path = true)
    (hplace : s.get? place ≠ some .directory) :
    (∃ e, t.makeDirectory cwd path = .error e ∧ u.makeDirectory cwd path = .error e) ∨
      ∃ t' u', t.makeDirectory cwd path = .ok t' ∧ u.makeDirectory cwd path = .ok u' ∧
        AlikeOff place t' u' := by
  obtain ⟨q, hlocate, hq⟩ := isDirectoryAt_eq_true_iff.1 hs
  obtain ⟨route, ⟨hroute, hleads⟩, -⟩ := locate_eq_ok_iff.1 hlocate
  have hne : ∀ {p}, s.get? p = some .directory → p ≠ place := by
    rintro p hp rfl
    exact hplace hp
  have hfollow : u.follow route.start route.names = t.follow route.start route.names :=
    follow_congr (fun p hp => h.same p (hne hp)) hleads
  unfold Tree.makeDirectory
  rw [hroute]
  simp only [bind, Except.bind, hfollow]
  cases ht : t.follow route.start route.names with
  | error e => exact .inl ⟨e, rfl, rfl⟩
  | ok p =>
    obtain rfl : p = q := (eq_of_follow ht).trans (eq_of_follow hleads).symm
    have hp := hne hq
    simp only [h.same p hp, h.isDirectory_eq]
    split
    · exact .inl ⟨_, rfl, rfl⟩
    · split
      · exact .inl ⟨_, rfl, rfl⟩
      · exact .inr ⟨_, _, rfl, rfl, h.put hp .directory⟩

/-- A directory that could not be made was there already, in both trees. -/
theorem settle (h : AlikeOff place t u) {e : FileError} {t' : Tree}
    (hmade : (if t.isDirectoryAt cwd path then (t, Except.ok ()) else (t, .error e)) =
      (t', .ok ())) :
    ∃ u', (if u.isDirectoryAt cwd path then (u, Except.ok ()) else (u, .error e)) = (u', .ok ()) ∧
      AlikeOff place t' u' := by
  rw [h.isDirectoryAt_eq]
  split at hmade
  · next hdirectory =>
    obtain ⟨rfl, -⟩ := Prod.mk.inj hmade
    exact ⟨u, by rw [if_pos hdirectory], h⟩
  · simp at hmade

/-- Directories that could all be made in one tree are made in the other, unless one would stand
where they differ. -/
theorem makeDirectoriesFrom {fuel : Nat} {t' : Tree} (h : AlikeOff place t u)
    (hmade : t.makeDirectoriesFrom fuel cwd path = (t', .ok ()))
    (hplace : t'.get? place ≠ some .directory) :
    ∃ u', u.makeDirectoriesFrom fuel cwd path = (u', .ok ()) ∧ AlikeOff place t' u' := by
  induction fuel generalizing path t' with
  | zero => simp [Tree.makeDirectoriesFrom] at hmade
  | succ fuel ih =>
    cases hpath : path.isEmpty with
    | true =>
      simp only [Tree.makeDirectoriesFrom, hpath, if_true, Prod.mk.injEq, and_true] at hmade ⊢
      subst hmade
      exact ⟨u, rfl, h⟩
    | false =>
      -- in the end the path leads to a directory, so no path on the way goes through `place`
      have hs := isDirectoryAt_of_makeDirectoriesFrom hpath hmade
      simp only [Tree.makeDirectoriesFrom, hpath, Bool.false_eq_true, if_false] at hmade ⊢
      rcases h.makeDirectory hs hplace with ⟨e, ht, hu⟩ | ⟨t₁, u₁, ht, hu, h₁⟩
      · rw [ht] at hmade
        rw [hu]
        cases e with
        | missing =>
          dsimp only at hmade ⊢
          cases hparent : Path.parent? path with
          | none => simp [hparent] at hmade
          | some parent =>
            simp only [hparent] at hmade ⊢
            rcases habove : t.makeDirectoriesFrom fuel cwd parent with ⟨t₁, result⟩
            rw [habove] at hmade
            cases result with
            | error e => simp at hmade
            | ok _ =>
              dsimp only at hmade
              have hkeeps : KeepsDirectories t₁ t' := by
                split at hmade
                · next hdirectory =>
                  obtain ⟨rfl, -⟩ := Prod.mk.inj hmade
                  exact (Grows.makeDirectory hdirectory).keepsDirectories
                · split at hmade
                  · exact (Prod.mk.inj hmade).1 ▸ fun _ hp => hp
                  · simp at hmade
              obtain ⟨u₁, hu₁, h₁⟩ := ih habove fun hdirectory => hplace (hkeeps _ hdirectory)
              rw [hu₁]
              dsimp only
              rcases h₁.makeDirectory hs hplace with ⟨e, ht, hu⟩ | ⟨t₂, u₂, ht, hu, h₂⟩
              · rw [ht] at hmade
                rw [hu]
                exact h₁.settle hmade
              · rw [ht] at hmade
                rw [hu]
                obtain ⟨rfl, -⟩ := Prod.mk.inj hmade
                exact ⟨u₂, rfl, h₂⟩
        | _ => exact h.settle hmade
      · rw [ht] at hmade
        rw [hu]
        obtain ⟨rfl, -⟩ := Prod.mk.inj hmade
        exact ⟨u₁, rfl, h₁⟩

/-- A file that is written where the trees differ is written in both, if the directory is there. -/
theorem writeBytes (h : AlikeOff place t u) {bytes : List UInt8}
    (hwritable : t.writablePlace cwd path = .ok place)
    (hparent : t.get? place.dropLast = some .directory) :
    ∃ u', u.writeBytes cwd path false bytes = .ok u' ∧ u'.locate cwd path = .ok place ∧
      u'.get? place = some (.file bytes (u.isExecutable place)) ∧
      ∀ p, p ≠ place → u'.get? p = t.get? p := by
  obtain ⟨route, hleads, hends, -⟩ := writablePlace_eq_ok_iff.1 hwritable
  have hwritable : u.writablePlace cwd path = .ok place :=
    writablePlace_eq_ok_iff.2 ⟨route, h.keepsDirectories.leads hleads, hends, h.right,
      fun _ => h.keepsDirectories _ hparent⟩
  have hput := get?_put_self u (ne_nil_of_get? h.right) (.file bytes (u.isExecutable place))
  have hkeeps := KeepsDirectories.put u h.right (.file bytes (u.isExecutable place))
  refine ⟨u.put place (.file bytes (u.isExecutable place)), ?_, ?_, hput, ?_⟩
  · rw [writeBytes_eq, hwritable]
    rfl
  · have hleads := hkeeps.leads (h.keepsDirectories.leads hleads)
    exact locate_eq_ok_iff.2 ⟨route, hleads, by simp [hends]⟩
  · intro p hp
    rw [get?_put_of_ne u hp, h.same p hp]

end AlikeOff

/-! What is done again. -/

/-- Directories that are there are not made. -/
theorem makeDirectories_of_isDirectoryAt (h : t.isDirectoryAt cwd path = true) :
    t.makeDirectories cwd path = (t, .ok ()) := by
  obtain ⟨place, hlocate, hplace⟩ := isDirectoryAt_eq_true_iff.1 h
  obtain ⟨route, ⟨hroute, hfollow⟩, -⟩ := locate_eq_ok_iff.1 hlocate
  have hthere : t.makeDirectory cwd path = .error .alreadyExists := by
    simp [Tree.makeDirectory, hroute, hfollow, hplace, bind, Except.bind]
  rw [makeDirectories, makeDirectoriesFrom, hthere]
  simp [h]

/-- What has been made is not made again, as long as it is there. -/
theorem makeDirectories_again (h : (t.makeDirectories cwd path).2 = .ok ())
    (hkeeps : KeepsDirectories (t.makeDirectories cwd path).1 u) :
    u.makeDirectories cwd path = (u, .ok ()) := by
  cases hpath : path.isEmpty with
  | true => simp [makeDirectories, makeDirectoriesFrom, hpath]
  | false =>
    have hmade : t.makeDirectoriesFrom (path.length + 2) cwd path =
        ((t.makeDirectories cwd path).1, .ok ()) := Prod.ext rfl h
    exact makeDirectories_of_isDirectoryAt
      (hkeeps.isDirectoryAt (isDirectoryAt_of_makeDirectoriesFrom hpath hmade))

theorem put_put (t : Tree) (place : Place) (entry : Entry) :
    (t.put place entry).put place entry = t.put place entry := by
  simp [put]

/-- A file that has been written is written again without a change. -/
theorem writeBytes_again {bytes : List UInt8} (h : t.writeBytes cwd path false bytes = .ok u) :
    u.writeBytes cwd path false bytes = .ok u := by
  rw [writeBytes_eq, except_map_eq_ok_iff] at h
  obtain ⟨place, hwritable, rfl⟩ := h
  obtain ⟨route, hleads, hends, hdirectory, -⟩ := writablePlace_eq_ok_iff.1 hwritable
  have hput := get?_put_self t (ne_nil_of_get? hdirectory) (.file bytes (t.isExecutable place))
  have hkeeps := KeepsDirectories.put t hdirectory (.file bytes (t.isExecutable place))
  have hwritable := writablePlace_eq_ok_iff.2
    ⟨route, hkeeps.leads hleads, hends, by simp [hput], by simp [hput]⟩
  have hexecutable : (t.put place (.file bytes (t.isExecutable place))).isExecutable place =
      t.isExecutable place := by
    rw [isExecutable, hput]
  rw [writeBytes_eq, hwritable, Except.map, hexecutable, put_put]

end EnumForge.Tree
