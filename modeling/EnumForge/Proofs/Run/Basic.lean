import EnumForge.Run.Basic
import EnumForge.Proofs.Checked

namespace EnumForge.Run

variable {α β γ : Type}

/-- How a run ends that starts in `w`; its warnings are left out. -/
def Ends (x : Run α) (w v : World) (result : Except Failure α) : Prop :=
  (x w).1 = v ∧ (x w).2.result = result

variable {w v : World}

theorem ends_bind_ok_iff (x : Run α) (f : α → Run β) (b : β) :
    Ends (x >>= f) w v (.ok b) ↔ ∃ u a, Ends x w u (.ok a) ∧ Ends (f a) u v (.ok b) := by
  rcases hx : x w with ⟨u, warnings, r⟩
  cases r with
  | error e => simp [Ends, bind_error hx, hx]
  | ok a => simp [Ends, bind_ok hx, hx, and_assoc]

theorem ends_bind_error_iff (x : Run α) (f : α → Run β) (e : Failure) :
    Ends (x >>= f) w v (.error e) ↔
      Ends x w v (.error e) ∨ ∃ u a, Ends x w u (.ok a) ∧ Ends (f a) u v (.error e) := by
  rcases hx : x w with ⟨u, warnings, r⟩
  cases r with
  | error e => simp [Ends, bind_error hx, hx]
  | ok a => simp [Ends, bind_ok hx, hx, and_assoc]

/-! Single steps, and what comes after them. -/

@[simp] theorem ends_pure_iff (a : α) (result : Except Failure α) :
    Ends (pure a) w v result ↔ w = v ∧ .ok a = result := Iff.rfl

@[simp] theorem ends_ofChecked_iff (x : Checked Failure α) (result : Except Failure α) :
    Ends (ofChecked x) w v result ↔ w = v ∧ x.result = result := Iff.rfl

@[simp] theorem ends_world_bind_iff (f : World → Run β) (result : Except Failure β) :
    Ends (world >>= f) w v result ↔ Ends (f w) w v result := Iff.rfl

@[simp] theorem ends_modify_bind_iff (g : World → World) (f : Unit → Run β)
    (result : Except Failure β) :
    Ends (modify g >>= f) w v result ↔ Ends (f ()) (g w) v result := Iff.rfl

@[simp] theorem ends_ofChecked_bind_ok_iff (x : Checked Failure α) (f : α → Run β) (b : β) :
    Ends (ofChecked x >>= f) w v (.ok b) ↔ ∃ a, x.result = .ok a ∧ Ends (f a) w v (.ok b) := by
  simp [ends_bind_ok_iff, and_assoc]

@[simp] theorem ends_ofChecked_bind_error_iff (x : Checked Failure α) (f : α → Run β)
    (e : Failure) :
    Ends (ofChecked x >>= f) w v (.error e) ↔
      (w = v ∧ x.result = .error e) ∨ ∃ a, x.result = .ok a ∧ Ends (f a) w v (.error e) := by
  simp [ends_bind_error_iff, and_assoc]

theorem ends_changing_ok_iff (error : FileError → Error)
    (step : World → Tree × Except FileError α) (a : α) :
    Ends (changing error step) w v (.ok a) ↔
      step w = (v.tree, .ok a) ∧ v.cwd = w.cwd ∧ v.env = w.env := by
  rcases hstep : step w with ⟨tree, result⟩
  cases v
  cases result with
  | error e => simp [Ends, changing, hstep]
  | ok b => simp [Ends, changing, hstep, and_comm, and_assoc, eq_comm]

theorem ends_changing_error_iff (error : FileError → Error)
    (step : World → Tree × Except FileError α) (failure : Failure) :
    Ends (changing error step) w v (.error failure) ↔
      ∃ e, step w = (v.tree, .error e) ∧ failure = .reported (error e) ∧
        v.cwd = w.cwd ∧ v.env = w.env := by
  rcases hstep : step w with ⟨tree, result⟩
  cases v
  cases result with
  | error e => simp [Ends, changing, hstep, and_comm, and_assoc, eq_comm]
  | ok b => simp [Ends, changing, hstep]

/-! Runs that go on alike. -/

theorem world_bind (f : World → Run β) : (world >>= f) w = f w w := by
  have hworld : world w = (w, ⟨[], .ok w⟩) := rfl
  rw [bind_ok hworld, List.nil_append]

theorem modify_bind (g : World → World) (f : Unit → Run β) : (modify g >>= f) w = f () (g w) := by
  have hmodify : modify g w = (g w, ⟨[], .ok ()⟩) := rfl
  rw [bind_ok hmodify, List.nil_append]

/-- A step that leaves the surroundings alone goes on in the same ones. -/
theorem ofChecked_bind_congr (x : Checked Failure α) {f g : α → Run β} (h : ∀ a, f a w = g a w) :
    (ofChecked x >>= f) w = (ofChecked x >>= g) w := by
  rcases x with ⟨warnings, e | a⟩
  · rfl
  · have hstep : ofChecked (⟨warnings, .ok a⟩ : Checked Failure α) w = (w, ⟨warnings, .ok a⟩) := rfl
    rw [bind_ok hstep, bind_ok hstep, h]

theorem bind_of_eq {x y : Run α} (h : x w = y v) (f : α → Run β) : (x >>= f) w = (y >>= f) v := by
  simp only [bind, Run.bind, h]

theorem map_bind (x : Run α) (f : α → β) (g : β → Run γ) :
    (do return f (← x) : Run β) >>= g = x >>= fun a => g (f a) := by
  funext w
  rcases hx : x w with ⟨u, warnings, e | a⟩
  · rw [bind_error hx, bind_error (bind_error hx _)]
  · simp [bind, Run.bind, pure, Run.pure, Checked.ok, hx]

/-! Errors that are reported. -/

theorem result_mapError_reported_eq_ok_iff (x : Checked Error α) (a : α) :
    (x.mapError Failure.reported).result = .ok a ↔ x.result = .ok a := by
  rw [Checked.result_mapError]
  cases x.result <;> simp

theorem result_mapError_reported_eq_error_iff (x : Checked Error α) (failure : Failure) :
    (x.mapError Failure.reported).result = .error failure ↔
      ∃ e, x.result = .error e ∧ failure = .reported e := by
  rw [Checked.result_mapError]
  cases x.result <;> simp [eq_comm]

end EnumForge.Run
