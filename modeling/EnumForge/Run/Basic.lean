import EnumForge.Generation
import EnumForge.World.State

namespace EnumForge

/-- A step of a run. -/
def Run (α : Type) : Type := World → World × Checked Failure α

namespace Run

protected def pure {α : Type} (a : α) : Run α := fun w => (w, .ok a)

/-- Goes on after success, in the surroundings that the first step leaves. -/
protected def bind {α β : Type} (x : Run α) (f : α → Run β) : Run β := fun w =>
  match x w with
  | (w, ⟨warnings, .error e⟩) => (w, ⟨warnings, .error e⟩)
  | (w, ⟨warnings, .ok a⟩) =>
    let (w, y) := f a w
    (w, ⟨warnings ++ y.warnings, y.result⟩)

instance : Monad Run where
  pure := Run.pure
  bind := Run.bind

def world : Run World := fun w => (w, .ok w)

def modify (f : World → World) : Run Unit := fun w => (f w, .ok ())

/-- A step that leaves the surroundings alone. -/
def ofChecked {α : Type} (x : Checked Failure α) : Run α := fun w => (w, x)

/-- A step that can fail with an error of its own. -/
def reporting {α : Type} (x : Checked Error α) : Run α := ofChecked (x.mapError .reported)

/-- A step that changes files, even where it fails. -/
def changing {α : Type} (error : FileError → Error)
    (step : World → Tree × Except FileError α) : Run α := fun w =>
  let (tree, result) := step w
  ({ w with tree := tree }, .ofExcept (result.mapError fun e => .reported (error e)))

theorem bind_ok {α β : Type} {x : Run α} {w v : World} {warnings : List Warning} {a : α}
    (h : x w = (v, ⟨warnings, .ok a⟩)) (f : α → Run β) :
    (x >>= f) w = ((f a v).1, ⟨warnings ++ (f a v).2.warnings, (f a v).2.result⟩) := by
  simp [Bind.bind, Run.bind, h]

theorem bind_error {α β : Type} {x : Run α} {w v : World} {warnings : List Warning} {e : Failure}
    (h : x w = (v, ⟨warnings, .error e⟩)) (f : α → Run β) :
    (x >>= f) w = (v, ⟨warnings, .error e⟩) := by
  simp [Bind.bind, Run.bind, h]

end Run

end EnumForge
