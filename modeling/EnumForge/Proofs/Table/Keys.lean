import EnumForge.Proofs.Checked
import EnumForge.Table.Keys
import Mathlib.Data.List.Nodup
import Mathlib.Data.List.Sort
import Mathlib.Data.String.Basic

namespace EnumForge

variable {α β ε : Type}

/-- A look-up under keys of which each occurs once finds what is listed. -/
theorem lookup_eq_some_iff_mem {κ : Type} [BEq κ] [LawfulBEq κ] {es : List (κ × β)}
    (h : (es.map (·.1)).Nodup) (k : κ) (b : β) : es.lookup k = some b ↔ (k, b) ∈ es := by
  induction es with
  | nil => simp
  | cons e es ih =>
    obtain ⟨a, c⟩ := e
    rw [List.map_cons, List.nodup_cons] at h
    rw [List.lookup_cons]
    by_cases hk : k = a
    · subst hk
      have hn : (k, b) ∉ es := fun hb => h.1 (List.mem_map.2 ⟨_, hb, rfl⟩)
      simp [hn, eq_comm]
    · have hb : (k == a) = false := by simpa using hk
      simp [hb, hk, ih h.2]

/-- Entries in strictly ascending order of key. -/
def Ascending (es : List (String × α)) : Prop := es.Pairwise fun a b => a.1 < b.1

namespace Ascending

variable {es fs : List (String × α)}

theorem nodup_keys (h : Ascending es) : (es.map (·.1)).Nodup := by
  apply List.pairwise_map.2
  exact List.Pairwise.imp (fun hlt => ne_of_lt hlt) h

theorem lookup_iff (h : Ascending es) (k : String) (a : α) :
    es.lookup k = some a ↔ (k, a) ∈ es :=
  lookup_eq_some_iff_mem h.nodup_keys k a

/-- Entries in ascending order are known by their look-ups. -/
theorem ext (he : Ascending es) (hf : Ascending fs) (h : ∀ k, es.lookup k = fs.lookup k) :
    es = fs := by
  have hmem : ∀ e, e ∈ es ↔ e ∈ fs := by
    intro e
    rw [← he.lookup_iff e.1 e.2, ← hf.lookup_iff e.1 e.2, h]
  have hperm : es.Perm fs := by
    apply (List.perm_ext_iff_of_nodup _ _).2 hmem
    · exact List.Nodup.of_map _ he.nodup_keys
    · exact List.Nodup.of_map _ hf.nodup_keys
  apply List.Perm.eq_of_pairwise _ he hf hperm
  intro a b _ _ hab hba
  exact absurd hab (String.lt_asymm hba)

theorem map_snd (h : Ascending es) (f : String × α → β) :
    Ascending (es.map fun e => (e.1, f e)) :=
  List.pairwise_map.2 h

/-- Steps over entries fail with the error of the entry whose key is least among those that
fail. -/
theorem mapM_eq_error_iff (h : Ascending es) (f : String × α → Except ε β) (e : ε) :
    es.mapM f = .error e ↔
      ∃ x ∈ es, f x = .error e ∧ ∀ y ∈ es, y.1 < x.1 → ∃ b, f y = .ok b := by
  have first {e : ε} (hfail : es.mapM f = .error e) :
      ∃ x ∈ es, f x = .error e ∧ ∀ y ∈ es, y.1 < x.1 → ∃ b, f y = .ok b := by
    obtain ⟨pre, x, post, rfl, hpre, hx⟩ := (except_mapM_eq_error_iff f es e).1 hfail
    refine ⟨x, by simp, hx, ?_⟩
    intro y hy hlt
    rcases List.mem_append.1 hy with hy | hy
    · exact hpre y hy
    · rcases List.mem_cons.1 hy with rfl | hy
      · exact absurd hlt (String.lt_irrefl _)
      · have hxy := (List.pairwise_cons.1 (List.pairwise_append.1 h).2.1).1 y hy
        exact absurd hlt (String.lt_asymm hxy)
  constructor
  · exact first
  · rintro ⟨x, hx, hfail, hbefore⟩
    cases hes : es.mapM f with
    | ok bs =>
      obtain ⟨b, hb⟩ := (except_mapM_isOk_iff f es).1 ⟨bs, hes⟩ x hx
      simp [hfail] at hb
    | error e' =>
      obtain ⟨y, hy, hfail', hbefore'⟩ := first hes
      have hkey : x.1 = y.1 := by
        rcases lt_trichotomy x.1 y.1 with hlt | heq | hlt
        · obtain ⟨b, hb⟩ := hbefore' x hx hlt
          simp [hfail] at hb
        · exact heq
        · obtain ⟨b, hb⟩ := hbefore y hy hlt
          simp [hfail'] at hb
      have hxy : x = y := List.inj_on_of_nodup_map h.nodup_keys hx hy hkey
      rw [← hxy, hfail] at hfail'
      rw [Except.error.inj hfail']

end Ascending

theorem mem_placeKey {key : String} {value : α} {es : List (String × α)} {e : String × α}
    (h : e ∈ placeKey key value es) : e = (key, value) ∨ e ∈ es := by
  induction es with
  | nil => simpa [placeKey] using h
  | cons d es ih =>
    unfold placeKey at h
    split at h
    · simpa using h
    · split at h
      · rcases List.mem_cons.1 h with h | h
        · exact .inl h
        · exact .inr (List.mem_cons_of_mem _ h)
      · rcases List.mem_cons.1 h with h | h
        · exact .inr (by simp [h])
        · exact (ih h).imp_right (List.mem_cons_of_mem _)

theorem Ascending.placeKey {es : List (String × α)} (h : Ascending es) (key : String) (value : α) :
    Ascending (placeKey key value es) := by
  induction es with
  | nil => exact List.pairwise_singleton _ _
  | cons d es ih =>
    obtain ⟨hd, hes⟩ := List.pairwise_cons.1 h
    unfold EnumForge.placeKey
    split
    · next hlt =>
      refine List.pairwise_cons.2 ⟨?_, h⟩
      intro e he
      rcases List.mem_cons.1 he with rfl | he
      · exact hlt
      · exact String.lt_trans hlt (hd e he)
    · split
      · next heq =>
        refine List.pairwise_cons.2 ⟨?_, hes⟩
        intro e he
        exact heq ▸ hd e he
      · next hlt hne =>
        refine List.pairwise_cons.2 ⟨?_, ih hes⟩
        intro e he
        rcases mem_placeKey he with rfl | he
        · exact lt_of_le_of_ne (String.not_lt.1 hlt) (Ne.symm hne)
        · exact hd e he

theorem lookup_cons_eq (e : String × α) (es : List (String × α)) (k : String) :
    (e :: es).lookup k = if k = e.1 then some e.2 else es.lookup k := by
  obtain ⟨a, b⟩ := e
  by_cases hk : k = a
  · simp [hk]
  · have hb : (k == a) = false := beq_eq_false_iff_ne.2 hk
    rw [List.lookup_cons, hb, if_neg hk]

theorem lookup_map_snd (es : List (String × α)) (f : String × α → β) (k : String) :
    (es.map fun e => (e.1, f e)).lookup k = (es.lookup k).map fun a => f (k, a) := by
  induction es with
  | nil => rfl
  | cons e es ih =>
    rw [List.map_cons, lookup_cons_eq, lookup_cons_eq, ih]
    by_cases hk : k = e.1
    · rw [if_pos hk, if_pos hk, Option.map_some, hk]
    · rw [if_neg hk, if_neg hk]

theorem lookup_placeKey (key : String) (value : α) (es : List (String × α)) (k : String) :
    (placeKey key value es).lookup k = if k = key then some value else es.lookup k := by
  induction es with
  | nil => rw [placeKey, lookup_cons_eq]
  | cons e es ih =>
    unfold placeKey
    split
    · rw [lookup_cons_eq]
    · split
      · next heq =>
        rw [lookup_cons_eq, lookup_cons_eq, heq]
        by_cases hk : k = e.1
        · rw [if_pos hk, if_pos hk]
        · rw [if_neg hk, if_neg hk, if_neg hk]
      · next hne =>
        rw [lookup_cons_eq, lookup_cons_eq, ih]
        by_cases hk : k = e.1
        · have hkey : k ≠ key := by
            rintro rfl
            exact hne hk
          rw [if_pos hk, if_neg hkey, if_pos hk]
        · rw [if_neg hk, if_neg hk]

theorem ascending_resolveKeys (entries : List (String × α)) : Ascending (resolveKeys entries) := by
  have hfold (es : List (String × α)) (h : Ascending es) :
      Ascending (entries.foldl (fun es e => placeKey e.1 e.2 es) es) := by
    induction entries generalizing es with
    | nil => exact h
    | cons e entries ih => exact ih _ (h.placeKey e.1 e.2)
  exact hfold [] .nil

/-- The last entry of a key counts. -/
theorem lookup_resolveKeys (entries : List (String × α)) (k : String) :
    (resolveKeys entries).lookup k = entries.reverse.lookup k := by
  have hfold (es : List (String × α)) :
      (entries.foldl (fun es e => placeKey e.1 e.2 es) es).lookup k =
        (entries.reverse.lookup k).or (es.lookup k) := by
    induction entries generalizing es with
    | nil => simp
    | cons e entries ih =>
      rw [List.foldl_cons, ih, lookup_placeKey, List.reverse_cons, List.lookup_append,
        lookup_cons_eq, List.lookup_nil, Option.or_assoc]
      by_cases hk : k = e.1
      · rw [if_pos hk, if_pos hk, Option.some_or]
      · rw [if_neg hk, if_neg hk, Option.none_or]
  simpa [resolveKeys] using hfold []

theorem resolveKeys_congr {es fs : List (String × α)}
    (h : ∀ k, es.reverse.lookup k = fs.reverse.lookup k) : resolveKeys es = resolveKeys fs := by
  apply (ascending_resolveKeys es).ext (ascending_resolveKeys fs)
  intro k
  rw [lookup_resolveKeys, lookup_resolveKeys, h]

theorem lookup_reverse {es : List (String × α)} (h : (es.map (·.1)).Nodup) (k : String) :
    es.reverse.lookup k = es.lookup k := by
  have hreverse : (es.reverse.map (·.1)).Nodup := by
    rw [List.map_reverse]
    exact List.nodup_reverse.2 h
  apply Option.ext
  intro a
  rw [lookup_eq_some_iff_mem hreverse, lookup_eq_some_iff_mem h, List.mem_reverse]

theorem mem_resolveKeys_iff (entries : List (String × α)) (k : String) (a : α) :
    (k, a) ∈ resolveKeys entries ↔ entries.reverse.lookup k = some a := by
  rw [← (ascending_resolveKeys entries).lookup_iff, lookup_resolveKeys]

end EnumForge
