namespace EnumForge.Text

/-- Where a padded text stands in its field. -/
inductive Align
  | left
  | center
  | right
deriving DecidableEq, Repr

/-- A field: the least width, the side the text stands on, the character that fills the rest, and
the most characters of the text that are shown. -/
structure Field where
  width : Option Nat
  align : Option Align
  fill : Char
  precision : Option Nat
deriving DecidableEq, Repr

def Field.shown (field : Field) (s : List Char) : List Char :=
  match field.precision with
  | none => s
  | some p => s.take p

/-- How many filling characters go before and after a text of the given length; without a side the
text stands on the left, and an odd filler goes after a centred text. -/
def Field.gaps (field : Field) (length : Nat) : Nat × Nat :=
  let gap := field.width.getD 0 - length
  match field.align with
  | some .right => (gap, 0)
  | some .center => (gap / 2, gap - gap / 2)
  | _ => (0, gap)

/-- The text cut to the field's precision and filled up to its width. -/
def Field.pad (field : Field) (s : List Char) : List Char :=
  let shown := field.shown s
  let gaps := field.gaps shown.length
  List.replicate gaps.1 field.fill ++ shown ++ List.replicate gaps.2 field.fill

theorem Field.gaps_sum (field : Field) (length : Nat) :
    (field.gaps length).1 + (field.gaps length).2 = field.width.getD 0 - length := by
  unfold Field.gaps
  split
  · simp
  · simp
    omega
  · simp

theorem Field.pad_length (field : Field) (s : List Char) :
    (field.pad s).length = max (field.shown s).length (field.width.getD 0) := by
  have h := field.gaps_sum (field.shown s).length
  simp only [Field.pad, List.length_append, List.length_replicate]
  omega

end EnumForge.Text
