import EnumForge.Error

namespace EnumForge

@[simp] theorem except_throw_eq {ε α : Type} (e : ε) : (throw e : Except ε α) = .error e := rfl

@[simp] theorem except_mapError_ok {ε δ α : Type} (f : δ → ε) (a : α) :
    (Except.ok a).mapError f = .ok a := rfl

@[simp] theorem except_mapError_error {ε δ α : Type} (f : δ → ε) (d : δ) :
    (Except.error d : Except δ α).mapError f = .error (f d) := rfl

theorem except_mapError_eq_ok_iff {ε δ α : Type} (f : δ → ε) (x : Except δ α) (a : α) :
    x.mapError f = .ok a ↔ x = .ok a := by
  cases x with
  | error d => simp
  | ok b => simp

theorem except_bind_eq_ok_iff {ε α β : Type} (x : Except ε α) (f : α → Except ε β) (b : β) :
    x >>= f = .ok b ↔ ∃ a, x = .ok a ∧ f a = .ok b := by
  cases x with
  | error e => simp [bind, Except.bind]
  | ok a => simp [bind, Except.bind]

theorem except_bind_eq_error_iff {ε α β : Type} (x : Except ε α) (f : α → Except ε β) (e : ε) :
    x >>= f = .error e ↔ x = .error e ∨ ∃ a, x = .ok a ∧ f a = .error e := by
  cases x with
  | error e => simp [bind, Except.bind]
  | ok a => simp [bind, Except.bind]

theorem except_map_eq_ok_iff {ε α β : Type} (f : α → β) (x : Except ε α) (b : β) :
    x.map f = .ok b ↔ ∃ a, x = .ok a ∧ f a = b := by
  cases x with
  | error e => simp [Except.map]
  | ok a => simp [Except.map]

theorem except_map_eq_error_iff {ε α β : Type} (f : α → β) (x : Except ε α) (e : ε) :
    x.map f = .error e ↔ x = .error e := by
  cases x with
  | error e => simp [Except.map]
  | ok a => simp [Except.map]

theorem except_mapM_map {ε α β γ : Type} (g : α → β) (f : β → Except ε γ) (as : List α) :
    (as.map g).mapM f = as.mapM fun a => f (g a) := by
  induction as with
  | nil => rfl
  | cons a as ih => rw [List.map_cons, List.mapM_cons, List.mapM_cons, ih]

/-- Steps over a list all succeed when each of them does. -/
theorem except_mapM_isOk_iff {ε α β : Type} (f : α → Except ε β) (as : List α) :
    (∃ bs, as.mapM f = .ok bs) ↔ ∀ a ∈ as, ∃ b, f a = .ok b := by
  induction as with
  | nil => simp [pure, Except.pure]
  | cons a as ih =>
    simp only [List.mapM_cons, except_bind_eq_ok_iff, List.forall_mem_cons, ← ih]
    constructor
    · rintro ⟨_, b, hb, bs, hbs, -⟩
      exact ⟨⟨b, hb⟩, bs, hbs⟩
    · rintro ⟨⟨b, hb⟩, bs, hbs⟩
      exact ⟨_, b, hb, bs, hbs, rfl⟩

/-- Steps over a list that all succeed give what each of them gives. -/
theorem filterMap_of_mapM {ε α β : Type} {f : α → Except ε β} {g : α → Option β}
    (h : ∀ a b, f a = .ok b → g a = some b) {as : List α} {bs : List β}
    (hbs : as.mapM f = .ok bs) : as.filterMap g = bs := by
  induction as generalizing bs with
  | nil => simpa [pure, Except.pure] using hbs
  | cons a as ih =>
    simp only [List.mapM_cons, except_bind_eq_ok_iff] at hbs
    obtain ⟨b, hb, bs, hbs, hcons⟩ := hbs
    obtain rfl := Except.ok.inj hcons
    rw [List.filterMap_cons, h a b hb, ih hbs]

/-- Steps over a list fail with the error of the first step that fails. -/
theorem except_mapM_eq_error_iff {ε α β : Type} (f : α → Except ε β) (as : List α) (e : ε) :
    as.mapM f = .error e ↔
      ∃ pre a post, as = pre ++ a :: post ∧ (∀ x ∈ pre, ∃ b, f x = .ok b) ∧ f a = .error e := by
  induction as with
  | nil => simp [pure, Except.pure]
  | cons a as ih =>
    simp only [List.mapM_cons, except_bind_eq_error_iff, ih]
    constructor
    · rintro (ha | ⟨b, hb, ⟨pre, c, post, rfl, hpre, hc⟩ | ⟨bs, -, hbs⟩⟩)
      · exact ⟨[], a, as, rfl, by simp, ha⟩
      · exact ⟨a :: pre, c, post, rfl, List.forall_mem_cons.2 ⟨⟨b, hb⟩, hpre⟩, hc⟩
      · simp [pure, Except.pure] at hbs
    · rintro ⟨pre, c, post, hsplit, hpre, hc⟩
      cases pre with
      | nil =>
        obtain ⟨rfl, -⟩ := List.cons.inj hsplit
        exact .inl hc
      | cons d pre =>
        obtain ⟨rfl, rfl⟩ := List.cons.inj hsplit
        obtain ⟨⟨b, hb⟩, hpre⟩ := List.forall_mem_cons.1 hpre
        exact .inr ⟨b, hb, .inl ⟨pre, c, post, rfl, hpre, hc⟩⟩

/-! Errors that a step may end with. -/

section FailsOnly

variable {ε δ α β : Type} {P : ε → Prop}

/-- Every error that the step may end with has a property. -/
def FailsOnly (P : ε → Prop) (x : Except ε α) : Prop := ∀ e, x = .error e → P e

theorem failsOnly_ok (a : α) : FailsOnly P (.ok a : Except ε α) := by
  intro e h
  simp at h

theorem failsOnly_error {e : ε} (h : P e) : FailsOnly P (.error e : Except ε α) := by
  intro e' h'
  exact Except.error.inj h' ▸ h

theorem FailsOnly.bind {x : Except ε α} {f : α → Except ε β} (hx : FailsOnly P x)
    (hf : ∀ a, FailsOnly P (f a)) : FailsOnly P (x >>= f) := by
  intro e h
  rcases (except_bind_eq_error_iff x f e).1 h with h | ⟨a, -, h⟩
  · exact hx e h
  · exact hf a e h

theorem FailsOnly.foldlM {f : β → α → Except ε β} (h : ∀ b a, FailsOnly P (f b a)) (as : List α)
    (b : β) : FailsOnly P (as.foldlM f b) := by
  induction as generalizing b with
  | nil => exact failsOnly_ok b
  | cons a as ih => exact (h b a).bind ih

theorem failsOnly_mapError (f : δ → ε) (h : ∀ d, P (f d)) (x : Except δ α) :
    FailsOnly P (x.mapError f) := by
  cases x with
  | ok a => exact failsOnly_ok a
  | error d => exact failsOnly_error (h d)

end FailsOnly

namespace Checked

variable {ε δ α β : Type}

@[simp] theorem result_pure (a : α) : (pure a : Checked ε α).result = .ok a := rfl

@[simp] theorem result_ok (a : α) : (ok a : Checked ε α).result = .ok a := rfl

@[simp] theorem result_error (e : ε) : (error e : Checked ε α).result = .error e := rfl

@[simp] theorem result_ofExcept (r : Except ε α) : (ofExcept r).result = r := rfl

@[simp] theorem result_mapError (f : ε → δ) (x : Checked ε α) :
    (x.mapError f).result = x.result.mapError f := rfl

@[simp] theorem warnings_pure (a : α) : (pure a : Checked ε α).warnings = [] := rfl

@[simp] theorem warnings_ofExcept (r : Except ε α) : (ofExcept r).warnings = [] := rfl

theorem result_bind (x : Checked ε α) (f : α → Checked ε β) :
    (x >>= f).result = x.result >>= fun a => (f a).result := by
  cases h : x.result <;> simp [bind, Checked.bind, Except.bind, h]

theorem result_bind_of_error {x : Checked ε α} {e : ε} (h : x.result = .error e)
    (f : α → Checked ε β) : (x >>= f).result = .error e := by
  simp [bind, Checked.bind, h]

theorem result_bind_of_ok {x : Checked ε α} {a : α} (h : x.result = .ok a)
    (f : α → Checked ε β) : (x >>= f).result = (f a).result := by
  simp [bind, Checked.bind, h]

theorem warnings_bind_of_ok {x : Checked ε α} {a : α} (h : x.result = .ok a)
    (f : α → Checked ε β) : (x >>= f).warnings = x.warnings ++ (f a).warnings := by
  simp [bind, Checked.bind, h]

theorem warnings_bind_of_error {x : Checked ε α} {e : ε} (h : x.result = .error e)
    (f : α → Checked ε β) : (x >>= f).warnings = x.warnings := by
  simp [bind, Checked.bind, h]

theorem warnings_bind_pure (x : Checked ε α) (f : α → β) :
    (x >>= fun a => pure (f a)).warnings = x.warnings := by
  cases h : x.result with
  | error e => rw [warnings_bind_of_error h]
  | ok a => rw [warnings_bind_of_ok h, warnings_pure, List.append_nil]

/-- Two steps succeed together exactly when the first does and the second does after it. -/
theorem result_bind_eq_ok_iff (x : Checked ε α) (f : α → Checked ε β) (b : β) :
    (x >>= f).result = .ok b ↔ ∃ a, x.result = .ok a ∧ (f a).result = .ok b := by
  cases h : x.result with
  | error e => simp [result_bind_of_error h]
  | ok a => simp [result_bind_of_ok h]

/-- Two steps fail together when the first does, or the second after it. -/
theorem result_bind_eq_error_iff (x : Checked ε α) (f : α → Checked ε β) (e : ε) :
    (x >>= f).result = .error e ↔
      x.result = .error e ∨ ∃ a, x.result = .ok a ∧ (f a).result = .error e := by
  cases h : x.result with
  | error e => simp [result_bind_of_error h]
  | ok a => simp [result_bind_of_ok h]

theorem failsOnly_bind {P : ε → Prop} {x : Checked ε α} {f : α → Checked ε β}
    (hx : FailsOnly P x.result) (hf : ∀ a, FailsOnly P (f a).result) :
    FailsOnly P (x >>= f).result := by
  intro e h
  rcases (result_bind_eq_error_iff x f e).1 h with h | ⟨a, -, h⟩
  · exact hx e h
  · exact hf a e h

end Checked

end EnumForge
