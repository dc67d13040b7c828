import EnumForge.Proofs.Checked
import EnumForge.World.EnvironmentFile

namespace EnumForge.EnvironmentFile

theorem applyLines_keeps {known : Known} {lines : List (List Char)} {w v : World}
    (h : applyLines known lines w = .ok v) : v.tree = w.tree ∧ v.cwd = w.cwd := by
  fun_induction applyLines known lines w with
  | case1 known w => exact Except.ok.inj h ▸ ⟨rfl, rfl⟩
  | case2 known line lines w hline => exact Except.ok.inj h ▸ ⟨rfl, rfl⟩
  | case3 known line lines w hline ih => exact ih h
  | case4 known line lines w key value hline known' hset ih => exact ih h
  | case5 known line lines w key value hline known' hset text hsettable ih => exact ih h
  | case6 known line lines w key value hline hset text hsettable => simp at h

/-- Loading variables leaves the files and the current directory alone. -/
theorem load_keeps {w v : World} (h : load w = .ok v) : v.tree = w.tree ∧ v.cwd = w.cwd := by
  unfold load at h
  split at h
  · exact Except.ok.inj h ▸ ⟨rfl, rfl⟩
  · exact applyLines_keeps h

theorem cwdPath_of_load {w v : World} (h : load w = .ok v) : v.cwdPath = w.cwdPath := by
  rw [World.cwdPath, World.cwdPath, (load_keeps h).2]

end EnumForge.EnvironmentFile
