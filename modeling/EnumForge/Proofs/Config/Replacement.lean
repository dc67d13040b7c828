import EnumForge.Config.Reference
import Mathlib.Algebra.Order.BigOperators.Group.List
import Mathlib.Algebra.Order.Group.Nat
import Mathlib.Data.List.Infix

namespace EnumForge.Reference

/-- A pattern that ends with a character that it holds once. -/
def Closed (t : List Char) : Prop := ∃ w z, t = w ++ [z] ∧ z ∉ w

variable {t : List Char} (v : List Char)

theorem Closed.ne_nil (ht : Closed t) : t ≠ [] := by
  obtain ⟨w, z, rfl, -⟩ := ht
  simp

/-- No end of a closed pattern is the beginning of it. -/
theorem Closed.tail_begins_none (ht : Closed t) {u x : List Char} (htu : t = u ++ x) (hu : u ≠ [])
    (hx : x ≠ []) : ¬ x <+: t := by
  obtain ⟨w, z, rfl, hz⟩ := ht
  intro hpre
  have hlast : z ∈ x := by
    have hsuffix : x <:+ w ++ [z] := ⟨u, htu.symm⟩
    have hone : [z] <:+ x := by
      apply List.suffix_of_suffix_length_le (List.suffix_append w [z]) hsuffix
      exact List.length_pos_iff.2 hx
    exact hone.mem (List.mem_singleton.2 rfl)
  have hlength : x.length < (w ++ [z]).length := by
    have hpos := List.length_pos_iff.2 hu
    rw [htu, List.length_append]
    omega
  have hxw : x <+: w := by
    apply List.prefix_of_prefix_length_le hpre (List.prefix_append w [z])
    rw [List.length_append, List.length_singleton] at hlength
    omega
  exact hz (hxw.mem hlast)

theorem replaceFrom_skip (e s : List Char) :
    replaceFrom t v e.length (e ++ s) = replaceFrom t v 0 s := by
  induction e with
  | nil => rfl
  | cons c e ih => exact ih

theorem replaceFrom_hit (ht : t ≠ []) (s : List Char) :
    replaceFrom t v 0 (t ++ s) = v ++ replaceFrom t v 0 s := by
  cases t with
  | nil => exact absurd rfl ht
  | cons c e =>
    have hpre : (c :: e).isPrefixOf (c :: (e ++ s)) = true :=
      List.isPrefixOf_iff_prefix.2 (List.prefix_append (c :: e) s)
    rw [List.cons_append, replaceFrom, if_pos hpre, List.length_cons, Nat.add_sub_cancel,
      replaceFrom_skip]

theorem replaceFrom_miss {c : Char} {s : List Char} (h : ¬ t <+: c :: s) :
    replaceFrom t v 0 (c :: s) = c :: replaceFrom t v 0 s := by
  have hpre : ¬ t.isPrefixOf (c :: s) = true := by
    rwa [List.isPrefixOf_iff_prefix]
  rw [replaceFrom, if_neg hpre]

/-- Where the pattern stands, the text before it and the text after it are replaced apart. -/
theorem replaceFrom_append (ht : Closed t) (u s : List Char) :
    replaceFrom t v 0 (u ++ (t ++ s)) = replaceFrom t v 0 u ++ (v ++ replaceFrom t v 0 s) := by
  induction hn : u.length using Nat.strongRecOn generalizing u with
  | ind n ih =>
    cases u with
    | nil => exact replaceFrom_hit v ht.ne_nil s
    | cons c u =>
      by_cases hpre : t <+: c :: u
      · obtain ⟨x, hx⟩ := hpre
        have hlt : x.length < n := by
          have hpos := List.length_pos_iff.2 ht.ne_nil
          have hlength := congrArg List.length hx
          rw [List.length_append] at hlength
          omega
        rw [← hx, List.append_assoc, replaceFrom_hit v ht.ne_nil, replaceFrom_hit v ht.ne_nil,
          ih x.length hlt x rfl, List.append_assoc]
      · have hmiss : ¬ t <+: c :: (u ++ (t ++ s)) := by
          intro hlong
          -- an occurrence that begins in `c :: u` and ends beyond it overlaps the one after it
          have hshort : c :: u <+: t := by
            rcases List.prefix_or_prefix_of_prefix hlong (List.prefix_append (c :: u) (t ++ s))
              with h | h
            · exact absurd h hpre
            · exact h
          obtain ⟨x, hx⟩ := hshort
          have hxne : x ≠ [] := by
            rintro rfl
            rw [List.append_nil] at hx
            exact hpre (hx ▸ List.prefix_rfl)
          have hxt : x <+: t ++ s := by
            have hlong' : (c :: u) ++ x <+: (c :: u) ++ (t ++ s) := by
              rw [hx]
              exact hlong
            exact (List.prefix_append_right_inj (c :: u)).1 hlong'
          have hxpre : x <+: t := by
            apply List.prefix_of_prefix_length_le hxt (List.prefix_append t s)
            rw [← hx, List.length_append]
            omega
          exact ht.tail_begins_none hx.symm (List.cons_ne_nil c u) hxne hxpre
        have hlt : u.length < n := by
          rw [← hn, List.length_cons]
          omega
        rw [List.cons_append, replaceFrom_miss v hmiss, replaceFrom_miss v hpre,
          ih u.length hlt u rfl, List.cons_append]

theorem replaceFrom_of_absent {u : List Char} (h : ¬ t <:+: u) : replaceFrom t v 0 u = u := by
  induction u with
  | nil => rfl
  | cons c u ih =>
    rw [List.infix_cons_iff, not_or] at h
    rw [replaceFrom_miss v h.1, ih h.2]

/-- Texts grow together, or shrink together, according to the lengths of pattern and replacement. -/
theorem length_replaceFrom (ht : Closed t) (u : List Char) :
    (v.length ≤ t.length → (replaceFrom t v 0 u).length ≤ u.length) ∧
      (t.length ≤ v.length → u.length ≤ (replaceFrom t v 0 u).length) := by
  induction hn : u.length using Nat.strongRecOn generalizing u with
  | ind n ih =>
    by_cases h : t <:+: u
    · obtain ⟨a, b, rfl⟩ := h
      have hpos := List.length_pos_iff.2 ht.ne_nil
      simp only [List.append_assoc, List.length_append] at hn
      have ha := ih a.length (by omega) a rfl
      have hb := ih b.length (by omega) b rfl
      rw [List.append_assoc, replaceFrom_append v ht, List.length_append, List.length_append]
      omega
    · rw [replaceFrom_of_absent v h]
      omega

/-- Replacing changes a text wherever the pattern occurs, unless it puts the pattern back. -/
theorem replaceFrom_eq_self_iff (ht : Closed t) (u : List Char) :
    replaceFrom t v 0 u = u ↔ v = t ∨ ¬ t <:+: u := by
  constructor
  · intro h
    by_cases hin : t <:+: u
    · obtain ⟨a, b, rfl⟩ := hin
      rw [List.append_assoc, replaceFrom_append v ht] at h
      have hlength := congrArg List.length h
      simp only [List.length_append] at hlength
      have ha := length_replaceFrom v ht a
      have hb := length_replaceFrom v ht b
      have hfront : (replaceFrom t v 0 a).length = a.length := by omega
      have hmid : v.length = t.length := by omega
      have htail := (List.append_inj h hfront).2
      exact .inl (List.append_inj htail hmid).1
    · exact .inr hin
  · rintro (rfl | hno)
    · induction hn : u.length using Nat.strongRecOn generalizing u with
      | ind n ih =>
        by_cases hin : v <:+: u
        · obtain ⟨a, b, rfl⟩ := hin
          have hpos := List.length_pos_iff.2 ht.ne_nil
          simp only [List.append_assoc, List.length_append] at hn
          rw [List.append_assoc, replaceFrom_append v ht, ih a.length (by omega) a rfl,
            ih b.length (by omega) b rfl]
        · exact replaceFrom_of_absent v hin
    · exact replaceFrom_of_absent v hno

/-- A text cut at places where the pattern stands is replaced part by part. -/
theorem replaceFrom_flatMap (ht : Closed t) (u : List Char) (us : List (List Char)) :
    replaceFrom t v 0 (u ++ us.flatMap (t ++ ·)) =
      replaceFrom t v 0 u ++ us.flatMap (fun w => v ++ replaceFrom t v 0 w) := by
  induction us generalizing u with
  | nil => simp
  | cons w us ih =>
    rw [List.flatMap_cons, List.flatMap_cons, List.append_assoc, replaceFrom_append v ht, ih w,
      List.append_assoc]

/-- Parts that all grow, or all shrink, are together what they were only if each of them is. -/
theorem append_flatMap_eq_iff {f : List Char → List Char}
    (hf : (∀ u, (f u).length ≤ u.length) ∨ ∀ u, u.length ≤ (f u).length) (u : List Char)
    (us : List (List Char)) :
    f u ++ us.flatMap (fun w => v ++ f w) = u ++ us.flatMap (v ++ ·) ↔ ∀ w ∈ u :: us, f w = w := by
  have hsame (w : List Char) (ws : List (List Char))
      (h : f w ++ ws.flatMap (fun w => v ++ f w) = w ++ ws.flatMap (v ++ ·)) :
      (f w).length = w.length := by
    have hsum := congrArg List.length h
    simp only [List.length_append, List.length_flatMap] at hsum
    rcases hf with hf | hf
    · have hrest : (ws.map fun w => v.length + (f w).length).sum ≤
          (ws.map fun w => v.length + w.length).sum :=
        List.sum_le_sum fun w _ => Nat.add_le_add_left (hf w) v.length
      have hw := hf w
      omega
    · have hrest : (ws.map fun w => v.length + w.length).sum ≤
          (ws.map fun w => v.length + (f w).length).sum :=
        List.sum_le_sum fun w _ => Nat.add_le_add_left (hf w) v.length
      have hw := hf w
      omega
  induction us generalizing u with
  | nil => simp
  | cons w us ih =>
    rw [List.forall_mem_cons]
    constructor
    · intro h
      obtain ⟨hhead, htail⟩ := List.append_inj h (hsame u (w :: us) h)
      rw [List.flatMap_cons, List.flatMap_cons, List.append_assoc, List.append_assoc] at htail
      exact ⟨hhead, (ih w).1 (List.append_cancel_left htail)⟩
    · rintro ⟨hhead, hrest⟩
      have htail := (ih w).2 hrest
      rw [List.flatMap_cons, List.flatMap_cons, List.append_assoc, List.append_assoc, hhead, htail]

/-- Replacing touches no more than the places where the text was cut exactly when no part holds the
pattern, or the pattern is put back. -/
theorem replaceFrom_flatMap_eq_iff (ht : Closed t) (u : List Char) (us : List (List Char)) :
    replaceFrom t v 0 (u ++ us.flatMap (t ++ ·)) = u ++ us.flatMap (v ++ ·) ↔
      v = t ∨ ∀ w ∈ u :: us, ¬ t <:+: w := by
  have hmono : (∀ w, (replaceFrom t v 0 w).length ≤ w.length) ∨
      ∀ w, w.length ≤ (replaceFrom t v 0 w).length := by
    rcases Nat.le_total v.length t.length with hle | hle
    · exact .inl fun w => (length_replaceFrom v ht w).1 hle
    · exact .inr fun w => (length_replaceFrom v ht w).2 hle
  rw [replaceFrom_flatMap v ht, append_flatMap_eq_iff v hmono]
  simp only [replaceFrom_eq_self_iff v ht]
  constructor
  · intro h
    by_cases hv : v = t
    · exact .inl hv
    · exact .inr fun w hw => (h w hw).resolve_left hv
  · rintro (hv | hno) w hw
    · exact .inl hv
    · exact .inr (hno w hw)

end EnumForge.Reference
