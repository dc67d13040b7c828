import EnumForge.Proofs.Validation

namespace EnumForge

open Emit

def Library.text (width : Width) (library : Library) : String :=
  header ++ render (library.tokens width) ++ "\n"

/-- The first name of a library's code that is no identifier. -/
def Library.unwritable? (width : Width) (library : Library) : Option String :=
  (library.identifiers width).find? (!Source.isIdentifier ·)

theorem Library.unwritable?_eq_none_iff (width : Width) (library : Library) :
    library.unwritable? width = none ↔
      ∀ name ∈ library.identifiers width, Source.isIdentifier name = true := by
  simp [unwritable?]

theorem emit_eq (library : Library) (width : Width) :
    emit library width =
      match library.unwritable? width with
      | some name => .error (.unemittable name)
      | none => .ok (library.tokens width) := rfl

/-- Generation ends in one of three ways, and the checks come first. -/
theorem generate_result (library : Library) (options : Options) :
    (generate library options).result =
      match (validate library options).result with
      | .error e => .error (.reported e)
      | .ok () =>
        match library.unwritable? options.width with
        | some name => .error (.unemittable name)
        | none => .ok (library.text options.width) := by
  have hmap := Checked.result_mapError Failure.reported (validate library options)
  cases hv : (validate library options).result with
  | error e =>
    rw [hv] at hmap
    exact Checked.result_bind_of_error hmap _
  | ok u =>
    rw [hv] at hmap
    rw [generate, Checked.result_bind_of_ok hmap, emit_eq]
    dsimp only
    cases library.unwritable? options.width with
    | some name => exact Checked.result_bind_of_error (Checked.result_ofExcept _) _
    | none => exact Checked.result_bind_of_ok (Checked.result_ofExcept _) _

theorem generate_eq_ok_iff (library : Library) (options : Options) (text : String) :
    (generate library options).result = .ok text ↔
      library.Accepted options ∧
        (∀ name ∈ library.identifiers options.width, Source.isIdentifier name = true) ∧
        text = library.text options.width := by
  rw [generate_result, ← validate_eq_ok_iff, ← Library.unwritable?_eq_none_iff]
  cases (validate library options).result with
  | error e => simp
  | ok u =>
    cases library.unwritable? options.width with
    | some name => simp
    | none => simp [eq_comm]

/-- A library that passes the checks and whose names can all be written has a text. -/
theorem generate_of_validate {library : Library} {options : Options}
    (hv : (validate library options).result = .ok ())
    (hw : library.unwritable? options.width = none) :
    (generate library options).result = .ok (library.text options.width) := by
  rw [generate_eq_ok_iff]
  have ha := (validate_eq_ok_iff library options).1 hv
  exact ⟨ha, (library.unwritable?_eq_none_iff options.width).1 hw, rfl⟩

/-- A library with one family, in which two labels share a value. -/
def Library.preferences : Library where
  families := [⟨"Preference", [⟨"Neutral", 0⟩, ⟨"Liked", 2⟩, ⟨"Loved", 2⟩], by decide⟩]
  sorted := by decide

theorem generate_preferences :
    (generate Library.preferences .default).result = .ok (Library.preferences.text .u32) :=
  generate_of_validate (by decide +kernel) (by decide +kernel)

/-- What generation gives text for has passed the checks. -/
theorem accepted_of_generate {library : Library} {options : Options} {text : String}
    (h : (generate library options).result = .ok text) : library.Accepted options :=
  ((generate_eq_ok_iff library options text).1 h).1

end EnumForge
