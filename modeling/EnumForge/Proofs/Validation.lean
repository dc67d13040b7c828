import EnumForge.Generation
import EnumForge.Proofs.Checked
import Mathlib.Data.List.Nodup

namespace EnumForge

open Naming

/-- Names that have been claimed, the latest first. -/
def Claims.idents (claims : Claims) : List String := claims.map (·.1)

@[simp] theorem Claims.idents_nil : Claims.idents [] = [] := rfl

@[simp] theorem Claims.idents_append (a b : Claims) :
    Claims.idents (a ++ b) = a.idents ++ b.idents := List.map_append

@[simp] theorem Claims.idents_reverse (claims : Claims) :
    Claims.idents claims.reverse = claims.idents.reverse := List.map_reverse

theorem claim_eq_ok_iff (claims : Claims) (ident origin : String) (after : Claims) :
    claim claims ident origin = .ok after ↔
      ident ∉ claims.idents ∧ after = (ident, origin) :: claims := by
  have h : claims.lookup ident = none ↔ ident ∉ claims.idents := by
    simp only [List.lookup_eq_none_iff, Claims.idents, List.mem_map, not_exists, not_and,
      bne_iff_ne]
    exact ⟨fun h e he hi => h e he hi.symm, fun h e he hi => h e he hi.symm⟩
  unfold claim
  cases hl : claims.lookup ident with
  | some first => simp [← h, hl]
  | none => simp [h.1 hl, eq_comm]

theorem constantName_eq_ok_iff (family : String) (m : Member) (ident : String) :
    constantName family m.label = .ok ident ↔
      sanitize m.label.toList ≠ [] ∧ ident = m.constant family := by
  unfold constantName Member.constant
  cases h : sanitize m.label.toList with
  | nil => simp
  | cons c cs => simp [eq_comm]

/-- A member that the code of its family can hold: its value fits, and something is left of its
label for the name of its constant. -/
structure Member.Emittable (width : Width) (m : Member) : Prop where
  fits : width.fits m.value = true
  named : sanitize m.label.toList ≠ []

def Member.claim (family : String) (m : Member) : String × String :=
  (m.constant family, s!"{family}.{Text.quoted m.label}")

theorem checkMember_eq_ok_iff (options : Options) (family : String) (claims : Claims) (m : Member)
    (after : Claims) :
    checkMember options family claims m = .ok after ↔
      m.Emittable options.width ∧ m.constant family ∉ claims.idents ∧
        after = m.claim family :: claims := by
  unfold checkMember
  by_cases hf : options.width.fits m.value = true
  · simp only [hf, Bool.not_true, Bool.false_eq_true, if_false, except_bind_eq_ok_iff,
      constantName_eq_ok_iff, claim_eq_ok_iff]
    constructor
    · rintro ⟨_, ⟨hn, rfl⟩, hc, rfl⟩
      exact ⟨⟨hf, hn⟩, hc, rfl⟩
    · rintro ⟨⟨-, hn⟩, hc, rfl⟩
      exact ⟨_, ⟨hn, rfl⟩, hc, rfl⟩
  · constructor
    · intro h
      simp [hf, bind, Except.bind, throw, throwThe, MonadExceptOf.throw] at h
    · exact fun h => absurd h.1.fits hf

/-- The members of a family are claimed in order, each under a name of its own. -/
theorem checkMembers_eq_ok_iff (options : Options) (family : String) (ms : List Member)
    (claims after : Claims) (hc : claims.idents.Nodup) :
    ms.foldlM (checkMember options family) claims = .ok after ↔
      (∀ m ∈ ms, m.Emittable options.width) ∧
        ((ms.map (Member.constant family)).reverse ++ claims.idents).Nodup ∧
        after = (ms.map (Member.claim family)).reverse ++ claims := by
  induction ms generalizing claims with
  | nil => simp [hc, pure, Except.pure, eq_comm]
  | cons m ms ih =>
    simp only [List.foldlM_cons, except_bind_eq_ok_iff, checkMember_eq_ok_iff, List.map_cons,
      List.reverse_cons, List.append_assoc, List.singleton_append, List.forall_mem_cons]
    constructor
    · rintro ⟨_, ⟨hm, hn, rfl⟩, h⟩
      have hc' : (Claims.idents (m.claim family :: claims)).Nodup := List.nodup_cons.2 ⟨hn, hc⟩
      obtain ⟨hms, hd, rfl⟩ := (ih _ hc').1 h
      exact ⟨⟨hm, hms⟩, hd, rfl⟩
    · rintro ⟨⟨hm, hms⟩, hd, rfl⟩
      have hc' := (List.nodup_append.1 hd).2.1
      refine ⟨_, ⟨hm, (List.nodup_cons.1 hc').1, rfl⟩, ?_⟩
      exact (ih (m.claim family :: claims) hc').2 ⟨hms, hd, rfl⟩

theorem checkAlias_eq_ok_iff (options : Options) (family : String) (pair : Member × Member)
    (u : Unit) :
    (checkAlias options family pair).result = .ok u ↔ options.allowSharedValues = true := by
  unfold checkAlias
  split <;> rename_i h
  · simp [h, Checked.warn]
  · simp [h]

theorem checkAliases_eq_ok_iff (options : Options) (family : String)
    (pairs : List (Member × Member)) (u : Unit) :
    (checkAliases options family pairs).result = .ok u ↔
      (options.allowSharedValues = false → pairs = []) := by
  induction pairs with
  | nil => simp [checkAliases, Checked.ok]
  | cons pair pairs ih =>
    simp only [checkAliases, Checked.result_bind_eq_ok_iff, checkAlias_eq_ok_iff, ih]
    cases options.allowSharedValues <;> simp

@[simp] theorem FamilyCode.identifiers_code (width : Width) (f : Family) :
    (f.code width).identifiers = f.name :: f.members.map (Member.constant f.name) := by
  simp [identifiers, Family.code]

/-- A family that the checks let pass by itself. -/
structure Family.Sound (options : Options) (f : Family) : Prop where
  name : checkFamilyName f.name = .ok ()
  members : ∀ m ∈ f.members, m.Emittable options.width
  unshared : options.allowSharedValues = false → f.aliases = []

/-- The claims of a family: its type, then its constants. -/
def Family.claims (f : Family) : Claims :=
  (f.name, s!"family {f.name}") :: f.members.map (Member.claim f.name)

theorem Family.idents_claims (width : Width) (f : Family) :
    f.claims.idents = (f.code width).identifiers := by
  simp [Claims.idents, claims, Function.comp_def, Member.claim]

theorem checkFamily_eq_ok_iff (options : Options) (claims : Claims) (f : Family) (after : Claims)
    (hc : claims.idents.Nodup) :
    (checkFamily options claims f).result = .ok after ↔
      f.Sound options ∧ ((f.code options.width).identifiers.reverse ++ claims.idents).Nodup ∧
        after = f.claims.reverse ++ claims := by
  simp only [checkFamily, Checked.result_bind_eq_ok_iff, Checked.result_ofExcept,
    except_bind_eq_ok_iff, claim_eq_ok_iff, checkAliases_eq_ok_iff, Checked.result_pure,
    FamilyCode.identifiers_code, List.reverse_cons, List.append_assoc, List.singleton_append,
    Family.claims, Except.ok.injEq]
  constructor
  · rintro ⟨_, ⟨_, hname, _, ⟨hn, rfl⟩, h⟩, _, hshared, rfl⟩
    have hc' : (Claims.idents ((f.name, s!"family {f.name}") :: claims)).Nodup :=
      List.nodup_cons.2 ⟨hn, hc⟩
    obtain ⟨hms, hd, rfl⟩ := (checkMembers_eq_ok_iff options f.name _ _ _ hc').1 h
    exact ⟨⟨hname, hms, hshared⟩, hd, rfl⟩
  · rintro ⟨hf, hd, rfl⟩
    have hc' := (List.nodup_append.1 hd).2.1
    refine ⟨_, ⟨(), hf.name, _, ⟨(List.nodup_cons.1 hc').1, rfl⟩, ?_⟩, (), hf.unshared, rfl⟩
    exact (checkMembers_eq_ok_iff options f.name f.members
      ((f.name, s!"family {f.name}") :: claims) _ hc').2 ⟨hf.members, hd, rfl⟩

theorem checkFamilies_eq_ok_iff (options : Options) (fs : List Family) (claims after : Claims)
    (hc : claims.idents.Nodup) :
    (checkFamilies options claims fs).result = .ok after ↔
      (∀ f ∈ fs, f.Sound options) ∧
        ((fs.flatMap fun f => (f.code options.width).identifiers).reverse ++ claims.idents).Nodup ∧
        after = (fs.flatMap Family.claims).reverse ++ claims := by
  induction fs generalizing claims with
  | nil => simp [checkFamilies, Checked.ok, hc, eq_comm]
  | cons f fs ih =>
    simp only [checkFamilies, Checked.result_bind_eq_ok_iff, checkFamily_eq_ok_iff _ _ _ _ hc,
      List.flatMap_cons, List.reverse_append, List.append_assoc, List.forall_mem_cons]
    have hidents : Claims.idents (f.claims.reverse ++ claims) =
        (f.code options.width).identifiers.reverse ++ claims.idents := by
      rw [Claims.idents_append, Claims.idents_reverse, f.idents_claims]
    constructor
    · rintro ⟨_, ⟨hf, hd, rfl⟩, h⟩
      rw [← hidents] at hd
      obtain ⟨hfs, hd', rfl⟩ := (ih _ hd).1 h
      exact ⟨⟨hf, hfs⟩, by rwa [hidents] at hd', rfl⟩
    · rintro ⟨⟨hf, hfs⟩, hd, rfl⟩
      have hd' := (List.nodup_append.1 hd).2.1
      refine ⟨_, ⟨hf, hd', rfl⟩, ?_⟩
      rw [← hidents] at hd hd'
      exact (ih _ hd').2 ⟨hfs, hd, rfl⟩

/-- A library whose families each pass the checks and whose code gives each name once. -/
structure Library.Accepted (library : Library) (options : Options) : Prop where
  sound : ∀ f ∈ library.families, f.Sound options
  distinct : (library.identifiers options.width).Nodup

theorem validate_eq_ok_iff (library : Library) (options : Options) :
    (validate library options).result = .ok () ↔ library.Accepted options := by
  simp only [validate, Checked.result_bind_eq_ok_iff, Checked.result_pure, and_true]
  constructor
  · rintro ⟨after, h⟩
    obtain ⟨hfs, hd, -⟩ := (checkFamilies_eq_ok_iff options library.families [] after .nil).1 h
    rw [Claims.idents_nil, List.append_nil, List.nodup_reverse] at hd
    exact ⟨hfs, hd⟩
  · rintro ⟨hfs, hd⟩
    refine ⟨_, (checkFamilies_eq_ok_iff options library.families [] _ .nil).2 ⟨hfs, ?_, rfl⟩⟩
    rw [Claims.idents_nil, List.append_nil, List.nodup_reverse]
    exact hd

namespace Library.Accepted

variable {library : Library} {options : Options} {f : Family}

theorem nodup_constants (h : library.Accepted options) (hf : f ∈ library.families) :
    (f.members.map (Member.constant f.name)).Nodup := by
  have hid := (List.nodup_flatMap.1 h.distinct).1 f hf
  rw [FamilyCode.identifiers_code] at hid
  exact (List.nodup_cons.1 hid).2

theorem nodup_labels (h : library.Accepted options) (hf : f ∈ library.families) :
    (f.members.map Member.label).Nodup := by
  refine List.Nodup.of_map (fun l => f.name ++ "_" ++ String.ofList (Naming.sanitize l.toList)) ?_
  rw [List.map_map]
  exact h.nodup_constants hf

end Library.Accepted

end EnumForge
