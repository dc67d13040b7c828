import EnumForge.Proofs.Table.Aliases
import EnumForge.Proofs.Table.Keys
import EnumForge.Proofs.Validation

namespace EnumForge

open Naming

/-- What defines a name: a family, or a member of a family. -/
inductive Declaration
  | family (f : Family)
  | member (f : Family) (m : Member)

namespace Declaration

def ident : Declaration → String
  | family f => f.name
  | member f m => m.constant f.name

/-- What an error calls a declaration. -/
def origin : Declaration → String
  | family f => s!"family {f.name}"
  | member f m => s!"{f.name}.{Text.quoted m.label}"

end Declaration

/-- A check: of a family's name, of a name that a declaration defines, of the value or the label of
a member, or of two neighbours among the members. -/
inductive Check
  | name (f : Family)
  | claim (d : Declaration)
  | range (f : Family) (m : Member)
  | label (f : Family) (m : Member)
  | values (f : Family) (m n : Member)

/-- The checks of one member. -/
def Member.checks (f : Family) (m : Member) : List Check :=
  [.range f m, .label f m, .claim (.member f m)]

def Family.checks (f : Family) : List Check :=
  .name f :: .claim (.family f) ::
    (f.members.flatMap (Member.checks f) ++
      (f.members.zip f.members.tail).map fun pair => .values f pair.1 pair.2)

def Library.checks (library : Library) : List Check := library.families.flatMap Family.checks

/-- The declarations of a library, in their order. -/
def Library.declarations (library : Library) : List Declaration :=
  library.families.flatMap fun f => .family f :: f.members.map (.member f)

namespace Check

/-- The declaration that a check is about to admit. -/
def declaration? : Check → Option Declaration
  | claim d => some d
  | _ => none

/-- The declarations that some checks have admitted. -/
def declared (cs : List Check) : List Declaration := cs.filterMap declaration?

/-- A check fails with an error after the declarations `before`. -/
inductive Fails (options : Options) (before : List Declaration) : Check → Error → Prop
  | name {f : Family} {e : Error} (h : checkFamilyName f.name = .error e) :
    Fails options before (.name f) e
  | claim {c d : Declaration} (hc : c ∈ before) (h : c.ident = d.ident) :
    Fails options before (.claim d) (.duplicateIdentifier d.ident c.origin d.origin)
  | range {f : Family} {m : Member} (h : options.width.fits m.value = false) :
    Fails options before (.range f m)
      (.outOfRange f.name m.label (toString m.value.toNat) options.width)
  | label {f : Family} {m : Member} (h : sanitize m.label.toList = []) :
    Fails options before (.label f m) (.emptyIdentifier f.name m.label)
  | values {f : Family} {m n : Member} (hpolicy : options.allowSharedValues = false)
    (h : m.value = n.value) :
    Fails options before (.values f m n) (.duplicateValue f.name m.value m.label n.label)

/-- No check of a list fails after what stands before it. -/
def Pass (options : Options) (before : List Declaration) (cs : List Check) : Prop :=
  ∀ as c bs, cs = as ++ c :: bs → ∀ e, ¬ c.Fails options (before ++ declared as) e

end Check

/-- The first check of a library that fails, and its error. -/
structure Library.FirstViolation (library : Library) (options : Options) (before : List Check)
    (c : Check) (e : Error) : Prop where
  stands : ∃ after, library.checks = before ++ c :: after
  fails : c.Fails options (Check.declared before) e
  passed : Check.Pass options [] before

namespace Check

@[simp] theorem declared_nil : declared [] = [] := rfl

@[simp] theorem declared_cons (c : Check) (cs : List Check) :
    declared (c :: cs) = c.declaration?.toList ++ declared cs := by
  cases h : c.declaration? <;> simp [declared, h]

variable {options : Options} {before : List Declaration}

def claims (before : List Declaration) : Claims := (before.map fun d => (d.ident, d.origin)).reverse

theorem idents_claims (before : List Declaration) :
    (claims before).idents = (before.map Declaration.ident).reverse := by
  simp [claims, Claims.idents, Function.comp_def]

/-- A name leads to the one declaration that defines it. -/
theorem lookup_claims_eq_some_iff (hnodup : (before.map Declaration.ident).Nodup)
    (ident origin : String) :
    (claims before).lookup ident = some origin ↔
      ∃ d ∈ before, d.ident = ident ∧ d.origin = origin := by
  have hkeys : ((claims before).map (·.1)).Nodup := by
    change (claims before).idents.Nodup
    rw [idents_claims]
    exact List.nodup_reverse.2 hnodup
  rw [lookup_eq_some_iff_mem hkeys]
  simp [claims]

/-- A check carried out on claims. -/
def step (options : Options) (claims : Claims) : Check → Except Error Claims
  | .name f => do
    checkFamilyName f.name
    return claims
  | .claim d => EnumForge.claim claims d.ident d.origin
  | .range f m =>
    if options.width.fits m.value then .ok claims
    else .error (.outOfRange f.name m.label (toString m.value.toNat) options.width)
  | .label f m =>
    if sanitize m.label.toList = [] then .error (.emptyIdentifier f.name m.label) else .ok claims
  | .values f m n =>
    if options.allowSharedValues = false ∧ m.value = n.value then
      .error (.duplicateValue f.name m.value m.label n.label)
    else .ok claims

theorem step_of_fails (hnodup : (before.map Declaration.ident).Nodup) {c : Check} {e : Error}
    (h : c.Fails options before e) : c.step options (claims before) = .error e := by
  cases h with
  | name h =>
    rw [step, h]
    rfl
  | claim hc h =>
    rw [step, EnumForge.claim, (lookup_claims_eq_some_iff hnodup _ _).2 ⟨_, hc, h, rfl⟩]
  | range h => simp [step, h]
  | label h => simp [step, h]
  | values hpolicy h => simp [step, hpolicy, h]

/-- A check that does not fail admits its declaration, if it has one. -/
theorem step_of_passes (hnodup : (before.map Declaration.ident).Nodup) {c : Check}
    (h : ∀ e, ¬ c.Fails options before e) :
    c.step options (claims before) = .ok (claims (before ++ c.declaration?.toList)) := by
  cases c with
  | name f =>
    cases hname : checkFamilyName f.name with
    | error e => exact absurd (.name hname) (h e)
    | ok u => simp [step, hname, declaration?, bind, Except.bind, pure, Except.pure]
  | claim d =>
    cases hlookup : (claims before).lookup d.ident with
    | some first =>
      obtain ⟨c, hc, hident, -⟩ := (lookup_claims_eq_some_iff hnodup _ _).1 hlookup
      exact absurd (.claim hc hident) (h _)
    | none =>
      rw [step, EnumForge.claim, hlookup]
      simp [declaration?, claims]
  | range f m =>
    cases hfits : options.width.fits m.value with
    | false => exact absurd (.range hfits) (h _)
    | true => simp [step, hfits, declaration?]
  | label f m =>
    have hlabel : sanitize m.label.toList ≠ [] := fun hlabel => h _ (.label hlabel)
    simp [step, hlabel, declaration?]
  | values f m n =>
    have hvalues : ¬ (options.allowSharedValues = false ∧ m.value = n.value) :=
      fun hvalues => h _ (.values hvalues.1 hvalues.2)
    rw [step, if_neg hvalues]
    simp [declaration?]

theorem nodup_of_passes (hnodup : (before.map Declaration.ident).Nodup) {c : Check}
    (h : ∀ e, ¬ c.Fails options before e) :
    ((before ++ c.declaration?.toList).map Declaration.ident).Nodup := by
  cases c with
  | claim d =>
    have hfree : ∀ c ∈ before, c.ident ≠ d.ident := fun c hc hident => h _ (.claim hc hident)
    simpa [declaration?, List.nodup_append, hnodup] using hfree
  | _ => simpa [declaration?] using hnodup

theorem pass_nil : Pass options before [] := by
  intro as c bs hsplit
  simp at hsplit

theorem pass_cons_iff (c : Check) (cs : List Check) :
    Pass options before (c :: cs) ↔
      (∀ e, ¬ c.Fails options before e) ∧ Pass options (before ++ c.declaration?.toList) cs := by
  constructor
  · intro h
    refine ⟨by simpa using h [] c cs rfl, ?_⟩
    intro as b bs hsplit
    simpa using h (c :: as) b bs (by rw [hsplit, List.cons_append])
  · rintro ⟨hc, hcs⟩ as b bs hsplit
    cases as with
    | nil =>
      obtain ⟨rfl, -⟩ := List.cons.inj hsplit
      simpa using hc
    | cons a as =>
      obtain ⟨rfl, rfl⟩ := List.cons.inj hsplit
      simpa using hcs as b bs rfl

/-- Checks one after the other fail with the error of the first that fails. -/
theorem foldlM_step_eq_error_iff (hnodup : (before.map Declaration.ident).Nodup) (cs : List Check)
    (e : Error) :
    cs.foldlM (step options) (claims before) = .error e ↔
      ∃ as c bs, cs = as ++ c :: bs ∧ c.Fails options (before ++ declared as) e ∧
        Pass options before as := by
  -- the claims are those of what has been declared so far, and no two of them are of one name
  induction cs generalizing before with
  | nil => simp [pure, Except.pure]
  | cons c cs ih =>
    rw [List.foldlM_cons]
    by_cases hc : ∃ e', c.Fails options before e'
    · obtain ⟨e', hfails⟩ := hc
      rw [step_of_fails hnodup hfails]
      constructor
      · intro h
        obtain rfl := Except.error.inj h
        exact ⟨[], c, cs, rfl, by simpa using hfails, pass_nil⟩
      · rintro ⟨as, b, bs, hsplit, hb, hpass⟩
        cases as with
        | nil =>
          obtain ⟨rfl, -⟩ := List.cons.inj hsplit
          have hb := step_of_fails hnodup (by simpa using hb)
          rw [step_of_fails hnodup hfails] at hb
          exact hb
        | cons a as =>
          obtain ⟨rfl, -⟩ := List.cons.inj hsplit
          exact absurd hfails (((pass_cons_iff c as).1 hpass).1 e')
    · have hpasses : ∀ e, ¬ c.Fails options before e := not_exists.1 hc
      rw [step_of_passes hnodup hpasses]
      refine (ih (nodup_of_passes hnodup hpasses)).trans ?_
      constructor
      · rintro ⟨as, b, bs, rfl, hb, has⟩
        exact ⟨c :: as, b, bs, rfl, by simpa using hb, (pass_cons_iff c as).2 ⟨hpasses, has⟩⟩
      · rintro ⟨as, b, bs, hsplit, hb, has⟩
        cases as with
        | nil =>
          obtain ⟨rfl, -⟩ := List.cons.inj hsplit
          exact absurd (by simpa using hb) (hpasses e)
        | cons a as =>
          obtain ⟨rfl, rfl⟩ := List.cons.inj hsplit
          exact ⟨as, b, bs, rfl, by simpa using hb, ((pass_cons_iff c as).1 has).2⟩

end Check

/-! Validation carries out the checks. -/

theorem checkMember_eq_foldlM (options : Options) (f : Family) (claims : Claims) (m : Member) :
    checkMember options f.name claims m = (m.checks f).foldlM (Check.step options) claims := by
  simp only [Member.checks, List.foldlM_cons, List.foldlM_nil, bind_pure, Check.step]
  unfold checkMember constantName
  cases hfits : options.width.fits m.value with
  | false => rfl
  | true =>
    cases hlabel : sanitize m.label.toList with
    | nil => rfl
    | cons c cs =>
      have hconstant : f.name ++ "_" ++ String.ofList (c :: cs) = m.constant f.name := by
        rw [Member.constant, hlabel]
      simp only [hconstant]
      rfl

theorem checkMembers_eq_foldlM (options : Options) (f : Family) (ms : List Member)
    (claims : Claims) :
    ms.foldlM (checkMember options f.name) claims =
      (ms.flatMap (Member.checks f)).foldlM (Check.step options) claims := by
  induction ms generalizing claims with
  | nil => rfl
  | cons m ms ih =>
    rw [List.foldlM_cons, List.flatMap_cons, List.foldlM_append, checkMember_eq_foldlM]
    simp only [ih]

/-- Neighbours that share a value are refused or passed over; the claims stay. -/
theorem checkAliases_eq_foldlM (options : Options) (f : Family) (ms : List Member)
    (claims : Claims) :
    ((checkAliases options f.name (Family.sharedNeighbours ms)).result >>= fun _ => .ok claims) =
      ((ms.zip ms.tail).map fun pair => Check.values f pair.1 pair.2).foldlM (Check.step options)
        claims := by
  fun_induction Family.sharedNeighbours ms with
  | case1 a b rest hab ih =>
    rw [List.tail_cons, List.zip_cons_cons, List.map_cons, List.foldlM_cons, Check.step,
      checkAliases, checkAlias, Checked.result_bind]
    cases hpolicy : options.allowSharedValues with
    | false =>
      rw [if_neg (by simp), if_pos ⟨rfl, hab⟩]
      rfl
    | true =>
      rw [if_pos rfl, if_neg (by simp)]
      exact ih
  | case2 a b rest hab ih =>
    rw [List.tail_cons, List.zip_cons_cons, List.map_cons, List.foldlM_cons, Check.step,
      if_neg fun h => hab h.2]
    exact ih
  | case3 ms hne =>
    obtain rfl | ⟨a, rfl⟩ := Member.eq_nil_or_singleton hne
    · rfl
    · rfl

theorem checkFamily_eq_foldlM (options : Options) (claims : Claims) (f : Family) :
    (checkFamily options claims f).result = f.checks.foldlM (Check.step options) claims := by
  simp only [Family.checks, List.foldlM_cons, List.foldlM_append, ← checkMembers_eq_foldlM,
    ← checkAliases_eq_foldlM, Check.step, checkFamily, Checked.result_bind,
    Checked.result_ofExcept, bind_assoc, pure_bind]
  rfl

theorem checkFamilies_eq_foldlM (options : Options) (fs : List Family) (claims : Claims) :
    (checkFamilies options claims fs).result =
      (fs.flatMap Family.checks).foldlM (Check.step options) claims := by
  induction fs generalizing claims with
  | nil => rfl
  | cons f fs ih =>
    rw [checkFamilies, List.flatMap_cons, List.foldlM_append, ← checkFamily_eq_foldlM,
      Checked.result_bind]
    simp only [ih]

/-- Validation fails with the error of the first violation, and only with that. -/
theorem validate_eq_error_iff (library : Library) (options : Options) (e : Error) :
    (validate library options).result = .error e ↔
      ∃ before c, library.FirstViolation options before c e := by
  have hnodup : (([] : List Declaration).map Declaration.ident).Nodup := .nil
  simp only [validate, Checked.result_bind, checkFamilies_eq_foldlM, except_bind_eq_error_iff,
    Checked.result_pure, reduceCtorEq, and_false, exists_false, or_false]
  refine (Check.foldlM_step_eq_error_iff hnodup library.checks e).trans ?_
  constructor
  · rintro ⟨before, c, after, hsplit, hfails, hpass⟩
    exact ⟨before, c, ⟨after, hsplit⟩, by simpa using hfails, hpass⟩
  · rintro ⟨before, c, ⟨after, hsplit⟩, hfails, hpass⟩
    exact ⟨before, c, after, hsplit, by simpa using hfails, hpass⟩

/-! The two places of a name that is defined twice. -/

namespace Check

@[simp] theorem declared_append (as bs : List Check) :
    declared (as ++ bs) = declared as ++ declared bs := List.filterMap_append

theorem declared_memberChecks (f : Family) (ms : List Member) :
    declared (ms.flatMap (Member.checks f)) = ms.map (.member f) := by
  induction ms with
  | nil => rfl
  | cons m ms ih =>
    rw [List.flatMap_cons, declared_append, ih, List.map_cons]
    rfl

theorem declared_values (f : Family) (pairs : List (Member × Member)) :
    declared (pairs.map fun pair => values f pair.1 pair.2) = [] := by
  simp [declared, declaration?]

theorem declared_familyChecks (f : Family) :
    declared f.checks = .family f :: f.members.map (.member f) := by
  simp [Family.checks, declared_memberChecks, declared_values, declaration?]

end Check

theorem Library.declared_checks (library : Library) :
    Check.declared library.checks = library.declarations := by
  simp only [Check.declared, checks, declarations, List.filterMap_flatMap]
  exact List.flatMap_congr fun f _ => Check.declared_familyChecks f

theorem Library.idents_declarations (library : Library) (width : Width) :
    library.declarations.map Declaration.ident = library.identifiers width := by
  simp [declarations, identifiers, List.map_flatMap, Function.comp_def, Declaration.ident]

theorem checkFamilyName_eq_error {name : String} {e : Error}
    (h : checkFamilyName name = .error e) :
    e = .reservedName name ∨ e = .invalidFamilyName name := by
  unfold checkFamilyName at h
  split at h
  · exact .inl (Except.error.inj h).symm
  · split at h
    · exact .inr (Except.error.inj h).symm
    · simp at h

/-- A name is reported as defined twice when an earlier and a later declaration define it. -/
theorem Library.FirstViolation.declared_twice {library : Library} {options : Options}
    {before : List Check} {c : Check} {ident first second : String}
    (h : library.FirstViolation options before c (.duplicateIdentifier ident first second)) :
    ∃ as a bs b cs, library.declarations = as ++ a :: bs ++ b :: cs ∧ a.ident = ident ∧
      b.ident = ident ∧ a.origin = first ∧ b.origin = second := by
  obtain ⟨⟨after, hsplit⟩, hfails, -⟩ := h
  rw [← declared_checks, hsplit]
  generalize he : Error.duplicateIdentifier ident first second = e at hfails
  cases hfails with
  | @claim a b ha hident =>
    obtain ⟨rfl, rfl, rfl⟩ := Error.duplicateIdentifier.inj he
    obtain ⟨as, bs, hbefore⟩ := List.mem_iff_append.1 ha
    refine ⟨as, a, bs, b, Check.declared after, ?_, hident, rfl, rfl, rfl⟩
    simp [hbefore, Check.declaration?]
  | name h =>
    subst he
    rcases checkFamilyName_eq_error h with h | h <;> simp at h
  | _ => simp at he

/-- A library is accepted when each family name, value and label passes by itself, no name is
defined twice, and no two members of a family share a value unless they may. -/
theorem Library.accepted_iff (library : Library) (options : Options) :
    library.Accepted options ↔
      (∀ f ∈ library.families, checkFamilyName f.name = .ok ()) ∧
      (∀ f ∈ library.families, ∀ m ∈ f.members, options.width.fits m.value = true) ∧
      (∀ f ∈ library.families, ∀ m ∈ f.members, sanitize m.label.toList ≠ []) ∧
      (library.declarations.map Declaration.ident).Nodup ∧
      (options.allowSharedValues = false →
        ∀ f ∈ library.families, (f.members.map Member.value).Nodup) := by
  rw [library.idents_declarations options.width]
  constructor
  · rintro ⟨hsound, hdistinct⟩
    refine ⟨fun f hf => (hsound f hf).name, fun f hf m hm => ((hsound f hf).members m hm).fits,
      fun f hf m hm => ((hsound f hf).members m hm).named, hdistinct, fun hpolicy f hf => ?_⟩
    exact (Family.sharedNeighbours_eq_nil_iff f.sorted).1 ((hsound f hf).unshared hpolicy)
  · rintro ⟨hname, hfits, hnamed, hdistinct, hvalues⟩
    refine ⟨fun f hf => ⟨hname f hf, fun m hm => ⟨hfits f hf m hm, hnamed f hf m hm⟩, ?_⟩,
      hdistinct⟩
    exact fun hpolicy => (Family.sharedNeighbours_eq_nil_iff f.sorted).2 (hvalues hpolicy f hf)

/-- Validation accepts the libraries without a fault. Of any other library it reports the first
violation; a name that is defined twice is reported with its earlier and its later declaration. -/
theorem validate_reports_first_violation (library : Library) (options : Options) :
    ((validate library options).result = .ok () ↔
      (∀ f ∈ library.families, checkFamilyName f.name = .ok ()) ∧
      (∀ f ∈ library.families, ∀ m ∈ f.members, options.width.fits m.value = true) ∧
      (∀ f ∈ library.families, ∀ m ∈ f.members, sanitize m.label.toList ≠ []) ∧
      (library.declarations.map Declaration.ident).Nodup ∧
      (options.allowSharedValues = false →
        ∀ f ∈ library.families, (f.members.map Member.value).Nodup)) ∧
    (∀ e, (validate library options).result = .error e ↔
      ∃ before c, library.FirstViolation options before c e) ∧
    ∀ ident first second,
      (validate library options).result = .error (.duplicateIdentifier ident first second) →
      ∃ as a bs b cs, library.declarations = as ++ a :: bs ++ b :: cs ∧ a.ident = ident ∧
        b.ident = ident ∧ a.origin = first ∧ b.origin = second := by
  refine ⟨(validate_eq_ok_iff library options).trans (library.accepted_iff options),
    validate_eq_error_iff library options, fun ident first second h => ?_⟩
  obtain ⟨before, c, hviolation⟩ := (validate_eq_error_iff library options _).1 h
  exact hviolation.declared_twice

/-- Two families with the name of one constant between them. -/
def Library.playLists : Library where
  families :=
    [⟨"Play", [⟨"list song", 1⟩, ⟨"List_Song", 2⟩], by decide⟩,
      ⟨"Play_LIST", [⟨"Song", 1⟩], by decide⟩]
  sorted := by decide

theorem playLists_declared_twice :
    (validate .playLists .default).result = .error (.duplicateIdentifier "Play_LIST_SONG"
        "Play.\"List_Song\"" "Play_LIST.\"Song\"") ∧
      ∃ as a bs b cs, Library.playLists.declarations = as ++ a :: bs ++ b :: cs ∧
        a.ident = "Play_LIST_SONG" ∧ b.ident = "Play_LIST_SONG" ∧
        a.origin = "Play.\"List_Song\"" ∧ b.origin = "Play_LIST.\"Song\"" := by
  have h : (validate .playLists .default).result = .error (.duplicateIdentifier "Play_LIST_SONG"
      "Play.\"List_Song\"" "Play_LIST.\"Song\"") := by decide +kernel
  exact ⟨h, (validate_reports_first_violation .playLists .default).2.2 _ _ _ h⟩

end EnumForge
