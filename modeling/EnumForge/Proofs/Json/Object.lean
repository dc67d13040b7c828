import EnumForge.Proofs.Json.Grammar
import EnumForge.Proofs.Json.Number

namespace EnumForge.Json

variable {α β γ : Type}

/-- The texts of values of a kind, each with the value that it stands for. -/
abbrev ValueGrammar (α : Type) := List Char → α → Prop

def Blanks (s : List Char) : Prop := s.all isBlank = true

/-- A key in quotes, a colon and a value. -/
def MemberText (V : ValueGrammar α) (t : List Char) (e : String × α) : Prop :=
  ∃ gap body between v, t = gap ++ '"' :: (body ++ '"' :: (between ++ ':' :: v)) ∧
    Blanks gap ∧ Denotes body e.1.toList ∧ Blanks between ∧ V v e.2

/-- Members up to the closing brace, with commas between them; `first` tells whether none stands
before them. -/
inductive MembersText (V : ValueGrammar α) : Bool → List Char → List (String × α) → Prop
  | close {first : Bool} {gap : List Char} : Blanks gap → MembersText V first (gap ++ ['\x7d']) []
  | first {t r : List Char} {e : String × α} {es : List (String × α)} : MemberText V t e →
      MembersText V false r es → MembersText V true (t ++ r) (e :: es)
  | next {gap t r : List Char} {e : String × α} {es : List (String × α)} : Blanks gap →
      MemberText V t e → MembersText V false r es →
      MembersText V false (gap ++ ',' :: (t ++ r)) (e :: es)

def ObjectText (V : ValueGrammar α) : ValueGrammar (List (String × α)) := fun t es =>
  ∃ gap r, t = gap ++ '\x7b' :: r ∧ Blanks gap ∧ MembersText V true r es

def LiteralText : ValueGrammar Literal := fun t l =>
  ∃ gap r, t = gap ++ r ∧ Blanks gap ∧ NumberText r l

/-- A reader of values takes the texts of a grammar, where a delimiter ends them, and no others. -/
structure Reads (value : ValueReader α) (V : ValueGrammar α) : Prop where
  sound {s rest : List Char} {a : α} (h : value s = .ok (a, rest)) : ∃ t, s = t ++ rest ∧ V t a
  complete {t rest : List Char} {a : α} (ht : V t a) (hrest : Delimited rest) :
    value (t ++ rest) = .ok (a, rest)

theorem membersText_map_iff {V : ValueGrammar α} (f : β → α) {first : Bool} {t : List Char}
    {es : List (String × β)} :
    MembersText V first t (es.map fun e => (e.1, f e.2)) ↔
      MembersText (fun t b => V t (f b)) first t es := by
  constructor
  · generalize hes : (es.map fun e => (e.1, f e.2)) = fs
    intro h
    induction h generalizing es with
    | close hgap =>
      obtain rfl := List.map_eq_nil_iff.1 hes
      exact .close hgap
    | first ht _ ih =>
      obtain ⟨e, es, rfl, rfl, rfl⟩ := List.map_eq_cons_iff.1 hes
      exact .first ht (ih rfl)
    | next hgap ht _ ih =>
      obtain ⟨e, es, rfl, rfl, rfl⟩ := List.map_eq_cons_iff.1 hes
      exact .next hgap ht (ih rfl)
  · intro h
    induction h with
    | close hgap => exact .close hgap
    | first ht _ ih => exact .first ht ih
    | next hgap ht _ ih => exact .next hgap ht ih

theorem objectText_map_iff {V : ValueGrammar α} (f : β → α) {t : List Char}
    {es : List (String × β)} :
    ObjectText V t (es.map fun e => (e.1, f e.2)) ↔ ObjectText (fun t b => V t (f b)) t es := by
  simp only [ObjectText, membersText_map_iff]

theorem MembersText.exists_value {V : ValueGrammar α} {first : Bool} {t : List Char}
    {es : List (String × α)} (h : MembersText V first t es) : ∀ e ∈ es, ∃ v, V v e.2 := by
  induction h with
  | close => simp
  | first ht _ ih =>
    obtain ⟨_, _, _, v, _, _, _, _, hv⟩ := ht
    exact List.forall_mem_cons.2 ⟨⟨v, hv⟩, ih⟩
  | next _ ht _ ih =>
    obtain ⟨_, _, _, v, _, _, _, _, hv⟩ := ht
    exact List.forall_mem_cons.2 ⟨⟨v, hv⟩, ih⟩

/-! Reading the parts of an object. -/

theorem skipBlank_eq_cons_iff {c : Char} (hc : isBlank c = false) (s r : List Char) :
    skipBlank s = c :: r ↔ ∃ gap, Blanks gap ∧ s = gap ++ c :: r :=
  skipBlank_eq_iff s (c :: r) (by simpa using hc)

theorem skipBlank_append {gap : List Char} (hgap : Blanks gap) {c : Char}
    (hc : isBlank c = false) (r : List Char) : skipBlank (gap ++ c :: r) = c :: r :=
  (skipBlank_eq_cons_iff hc _ r).2 ⟨gap, hgap, rfl⟩

theorem readColon_eq_ok_iff (s r : List Char) : readColon s = .ok r ↔ skipBlank s = ':' :: r := by
  unfold readColon
  split
  · next h => simp [h]
  · next k h => simp [h]
  · next hcolon => simpa using hcolon r

theorem closeObject_eq_ok_iff (s r : List Char) :
    closeObject s = .ok r ↔ skipBlank s = '\x7d' :: r := by
  unfold closeObject
  split
  · next h => simp [h]
  · next h => simp [h]
  · next h => simp [h]
  · next hbrace _ _ => simpa using hbrace r

theorem nextKey_eq_none_iff (first : Bool) (s : List Char) :
    nextKey first s = .ok none ↔ ∃ r, skipBlank s = '\x7d' :: r := by
  unfold nextKey
  split
  · next h => simp [h]
  · next r h => simp [h]
  · next c r hbrace h =>
    have hc : c ≠ '\x7d' := hbrace
    simp only [h, List.cons.injEq, hc, false_and, exists_false, iff_false]
    split
    · split <;> simp
    · split
      · split <;> simp
      · simp

theorem nextKey_true_eq_some_iff (s r : List Char) :
    nextKey true s = .ok (some r) ↔ skipBlank s = '"' :: r := by
  unfold nextKey
  split
  · next h => simp [h]
  · next h => simp [h]
  · next c k _ h => by_cases hc : c = '"' <;> simp [h, hc]

theorem nextKey_false_eq_some_iff (s r : List Char) :
    nextKey false s = .ok (some r) ↔ ∃ k, skipBlank s = ',' :: k ∧ skipBlank k = '"' :: r := by
  unfold nextKey
  split
  · next h => simp [h]
  · next h => simp [h]
  · next c k _ h =>
    by_cases hc : c = ','
    · rw [if_neg Bool.false_ne_true, if_pos hc, h, hc]
      simp only [List.cons.injEq, true_and, exists_eq_left']
      split
      · next hk => simp [hk]
      · next hk => simp [hk]
      · next hk => simp [hk]
      · next hquote _ => simpa using hquote r
    · simp [h, hc]

/-- Reads the value of a member and puts it after those that have been read. -/
def collect (value : ValueReader α) : MemberReader (List (String × α)) := fun acc key s => do
  let (a, rest) ← value (← readColon s)
  .ok (acc ++ [(String.ofList key, a)], rest)

theorem readMapValue_eq_ok_iff (member : MemberReader α) (init a : α) (s rest : List Char) :
    readMapValue member init s = .ok (a, rest) ↔
      ∃ r k, skipBlank s = '\x7b' :: r ∧
        readMembers member (r.length + 1) true init r = .ok (a, k) ∧
        skipBlank k = '\x7d' :: rest := by
  have hobject (r : List Char) : readObject member init .ok r = .ok (a, rest) ↔
      ∃ k, readMembers member (r.length + 1) true init r = .ok (a, k) ∧
        skipBlank k = '\x7d' :: rest := by
    unfold readObject
    cases hmembers : readMembers member (r.length + 1) true init r with
    | error fault => simp [bind, Except.bind]
    | ok p =>
      simp only [bind, Except.bind, except_map_eq_ok_iff, closeObject_eq_ok_iff, Except.ok.injEq,
        Prod.ext_iff]
      constructor
      · rintro ⟨r, hclose, rfl, rfl⟩
        exact ⟨p.2, ⟨rfl, rfl⟩, hclose⟩
      · rintro ⟨k, ⟨rfl, rfl⟩, hclose⟩
        exact ⟨rest, hclose, rfl, rfl⟩
  unfold readMapValue
  split
  · next h => simp [h]
  · next r h => simp [h, hobject]
  · next hbrace =>
    simp only [reduceCtorEq, false_iff, not_exists, not_and]
    intro r _ hr
    exact absurd hr (hbrace r)

/-- How the reading of an object goes on where a value decides: after it, or with its cause as a fault
that keeps the text `left`. -/
def decided (x : Except Cause γ) (rest left : List Char) : Except Fault (γ × List Char) :=
  match x with
  | .ok a => .ok (a, rest)
  | .error cause => .error (.loose cause left)

/-- A reader of members takes a member as `put` takes its key and value. -/
def Takes (V : ValueGrammar α) (member : MemberReader γ) (put : γ → String × α → Except Cause γ)
    (e : String × α) : Prop :=
  ∀ {v rest s : List Char}, V v e.2 → Delimited rest → skipBlank s = ':' :: (v ++ rest) →
    ∀ acc, ∃ left, member acc e.1.toList s = decided (put acc e) rest left

section Reading

variable {value : ValueReader α} {V : ValueGrammar α}

theorem memberText_of_collect (hvalue : Reads value V) {acc fs : List (String × α)}
    {s k key rest : List Char} (hkey : readString s = .ok (key, k))
    (h : collect value acc key k = .ok (fs, rest)) {gap : List Char} (hgap : Blanks gap) :
    ∃ t e, gap ++ '"' :: s = t ++ rest ∧ fs = acc ++ [e] ∧ MemberText V t e := by
  obtain ⟨body, rfl, hbody⟩ := (readString_eq_ok_iff _ _ _).1 hkey
  obtain ⟨r, hcolon, h⟩ := (except_bind_eq_ok_iff _ _ _).1 h
  obtain ⟨⟨a, r'⟩, ha, h⟩ := (except_bind_eq_ok_iff _ _ _).1 h
  obtain ⟨rfl, rfl⟩ := Prod.mk.inj (Except.ok.inj h)
  obtain ⟨between, hbetween, rfl⟩ :=
    (skipBlank_eq_cons_iff (by decide) _ _).1 ((readColon_eq_ok_iff _ _).1 hcolon)
  obtain ⟨v, rfl, hv⟩ := hvalue.sound ha
  refine ⟨_, (String.ofList key, a), ?_, rfl, gap, body, between, v, rfl, hgap, ?_, hbetween, hv⟩
  · simp
  · simpa using hbody

theorem membersText_of_readMembers (hvalue : Reads value V) {fuel : Nat} {first : Bool}
    {acc fs : List (String × α)} {s k rest : List Char}
    (h : readMembers (collect value) fuel first acc s = .ok (fs, k))
    (hclose : skipBlank k = '\x7d' :: rest) :
    ∃ t es, s = t ++ rest ∧ fs = acc ++ es ∧ MembersText V first t es := by
  induction fuel generalizing first acc s with
  | zero => simp [readMembers] at h
  | succ fuel ih =>
    rw [readMembers] at h
    obtain ⟨next, hnext, h⟩ := (except_bind_eq_ok_iff _ _ _).1 h
    cases next with
    | none =>
      obtain ⟨rfl, rfl⟩ := Prod.mk.inj (Except.ok.inj h)
      obtain ⟨r, hr⟩ := (nextKey_eq_none_iff _ _).1 hnext
      obtain rfl : r = rest := by
        rw [hr] at hclose
        exact (List.cons.inj hclose).2
      obtain ⟨gap, hgap, rfl⟩ := (skipBlank_eq_cons_iff (by decide) _ _).1 hr
      exact ⟨gap ++ ['\x7d'], [], by simp, by simp, .close hgap⟩
    | some r =>
      obtain ⟨⟨key, k'⟩, hkey, h⟩ := (except_bind_eq_ok_iff _ _ _).1 h
      obtain ⟨⟨acc', k''⟩, hmember, h⟩ := (except_bind_eq_ok_iff _ _ _).1 h
      obtain ⟨u, es, rfl, rfl, hes⟩ := ih h
      cases first with
      | true =>
        obtain ⟨gap, hgap, rfl⟩ := (skipBlank_eq_cons_iff (by decide) _ _).1
          ((nextKey_true_eq_some_iff _ _).1 hnext)
        obtain ⟨t, e, ht, rfl, he⟩ := memberText_of_collect hvalue hkey hmember hgap
        exact ⟨t ++ u, e :: es, by simp [ht], by simp, .first he hes⟩
      | false =>
        obtain ⟨k, hcomma, hquote⟩ := (nextKey_false_eq_some_iff _ _).1 hnext
        obtain ⟨before, hbefore, rfl⟩ := (skipBlank_eq_cons_iff (by decide) _ _).1 hcomma
        obtain ⟨gap, hgap, rfl⟩ := (skipBlank_eq_cons_iff (by decide) _ _).1 hquote
        obtain ⟨t, e, ht, rfl, he⟩ := memberText_of_collect hvalue hkey hmember hgap
        exact ⟨before ++ ',' :: (t ++ u), e :: es, by simp [ht], by simp, .next hbefore he hes⟩

/-- Blanks, a comma and a closing brace end a number. -/
theorem delimited_of_head {rest : List Char}
    (h : ∀ c ∈ rest.head?, isBlank c = true ∨ c = ',' ∨ c = '\x7d') : Delimited rest := by
  intro c hc
  have hends := h c hc
  simp only [isBlank, Bool.or_eq_true, decide_eq_true_eq] at hends
  rcases hends with (((rfl | rfl) | rfl) | rfl) | rfl | rfl <;> decide

theorem Blanks.delimited {rest : List Char} (h : Blanks rest) : Delimited rest :=
  delimited_of_head fun c hc => .inl (List.all_eq_true.1 h c (List.mem_of_mem_head? hc))

theorem delimited_append {gap : List Char} (hgap : Blanks gap) {c : Char}
    (hc : c = ',' ∨ c = '\x7d') (rest : List Char) : Delimited (gap ++ c :: rest) := by
  cases gap with
  | nil =>
    refine delimited_of_head fun d hd => .inr ?_
    rwa [← Option.some.inj hd]
  | cons b gap =>
    refine delimited_of_head fun d hd => .inl ?_
    rw [← Option.some.inj hd]
    exact List.all_eq_true.1 hgap b (by simp)

theorem MembersText.delimited {t : List Char} {es : List (String × α)}
    (h : MembersText V false t es) (rest : List Char) : Delimited (t ++ rest) := by
  cases h with
  | close hgap =>
    rw [List.append_assoc]
    exact delimited_append hgap (.inr rfl) rest
  | next hgap =>
    rw [List.append_assoc]
    exact delimited_append hgap (.inl rfl) _

/-- The parts of a member as the reader of the object finds them. -/
theorem MemberText.parts {t : List Char} {e : String × α} (h : MemberText V t e)
    (rest : List Char) :
    ∃ r k v, skipBlank (t ++ rest) = '"' :: r ∧ readString r = .ok (e.1.toList, k) ∧
      skipBlank k = ':' :: (v ++ rest) ∧ V v e.2 := by
  obtain ⟨gap, body, between, v, rfl, hgap, hbody, hbetween, hv⟩ := h
  refine ⟨body ++ '"' :: (between ++ ':' :: (v ++ rest)), between ++ ':' :: (v ++ rest), v,
    ?_, ?_, ?_, hv⟩
  · simp only [List.append_assoc, List.cons_append]
    exact skipBlank_append hgap (by decide) _
  · exact (readString_eq_ok_iff _ _ _).2 ⟨body, rfl, hbody⟩
  · exact skipBlank_append hbetween (by decide) _

/-- The member that is found next is taken, and then the others are. -/
theorem readMembers_of_memberText {member : MemberReader γ} {put : γ → String × α → Except Cause γ}
    {first : Bool} {s t after k : List Char} {e : String × α} {es : List (String × α)} {fuel : Nat}
    (ht : MemberText V t e) (he : Takes V member put e) (hafter : Delimited after)
    (hnext : ∀ r, skipBlank (t ++ after) = '"' :: r → nextKey first s = .ok (some r))
    (hmore : ∀ acc, ∃ left,
      readMembers member fuel false acc after = decided (es.foldlM put acc) k left) (acc : γ) :
    ∃ left, readMembers member (fuel + 1) first acc s =
      decided ((e :: es).foldlM put acc) k left := by
  obtain ⟨r, k', v, hskip, hkey, hcolon, hv⟩ := ht.parts after
  obtain ⟨left, hmember⟩ := he hv hafter hcolon acc
  rw [readMembers, hnext r hskip, List.foldlM_cons]
  simp only [bind, Except.bind, hkey, hmember]
  cases put acc e with
  | error cause => exact ⟨left, rfl⟩
  | ok acc => exact hmore acc

theorem readMembers_of_membersText {member : MemberReader γ}
    {put : γ → String × α → Except Cause γ} {first : Bool} {t : List Char}
    {es : List (String × α)} (h : MembersText V first t es)
    (htakes : ∀ e ∈ es, Takes V member put e) {fuel : Nat} (hfuel : es.length < fuel) (acc : γ)
    (rest : List Char) :
    ∃ left, readMembers member fuel first acc (t ++ rest) =
      decided (es.foldlM put acc) ('\x7d' :: rest) left := by
  induction h generalizing fuel acc with
  | @close first gap hgap =>
    obtain ⟨fuel, rfl⟩ := Nat.exists_eq_succ_of_ne_zero (Nat.ne_zero_of_lt hfuel)
    have hskip : skipBlank (gap ++ ['\x7d'] ++ rest) = '\x7d' :: rest := by
      rw [List.append_assoc]
      exact skipBlank_append hgap (by decide) rest
    refine ⟨[], ?_⟩
    rw [readMembers, (nextKey_eq_none_iff _ _).2 ⟨rest, hskip⟩]
    simp only [bind, Except.bind, hskip]
    rfl
  | @first t u e es ht hes ih =>
    obtain ⟨fuel, rfl⟩ := Nat.exists_eq_succ_of_ne_zero (Nat.ne_zero_of_lt hfuel)
    obtain ⟨he, hmore⟩ := List.forall_mem_cons.1 htakes
    rw [List.append_assoc]
    refine readMembers_of_memberText ht he (hes.delimited rest) ?_
      (ih hmore (Nat.lt_of_succ_lt_succ hfuel)) acc
    exact fun r hskip => (nextKey_true_eq_some_iff _ _).2 hskip
  | @next gap t u e es hgap ht hes ih =>
    obtain ⟨fuel, rfl⟩ := Nat.exists_eq_succ_of_ne_zero (Nat.ne_zero_of_lt hfuel)
    obtain ⟨he, hmore⟩ := List.forall_mem_cons.1 htakes
    have hcomma : skipBlank (gap ++ ',' :: (t ++ u) ++ rest) = ',' :: (t ++ (u ++ rest)) := by
      rw [List.append_assoc, List.cons_append, List.append_assoc]
      exact skipBlank_append hgap (by decide) _
    refine readMembers_of_memberText ht he (hes.delimited rest) ?_
      (ih hmore (Nat.lt_of_succ_lt_succ hfuel)) acc
    exact fun r hskip => (nextKey_false_eq_some_iff _ _).2 ⟨_, hcomma, hskip⟩

theorem takes_collect (hvalue : Reads value V) (e : String × α) :
    Takes V (collect value) (fun acc e => .ok (acc ++ [e])) e := by
  intro v rest s hv hrest hcolon acc
  refine ⟨[], ?_⟩
  simp only [collect, (readColon_eq_ok_iff _ _).2 hcolon, bind, Except.bind,
    hvalue.complete hv hrest, String.ofList_toList]
  rfl

theorem foldlM_collect (acc es : List (String × α)) :
    es.foldlM (fun acc e => (.ok (acc ++ [e]) : Except Cause _)) acc = .ok (acc ++ es) := by
  induction es generalizing acc with
  | nil =>
    rw [List.append_nil]
    rfl
  | cons e es ih =>
    rw [List.foldlM_cons]
    change es.foldlM _ (acc ++ [e]) = _
    rw [ih, List.append_assoc, List.singleton_append]

theorem MembersText.length_le {first : Bool} {t : List Char} {es : List (String × α)}
    (h : MembersText V first t es) : es.length ≤ t.length := by
  induction h with
  | close => simp
  | first ht _ ih =>
    obtain ⟨gap, body, between, v, rfl, -⟩ := ht
    simp only [List.length_cons, List.length_append]
    omega
  | next _ _ _ ih =>
    simp only [List.length_cons, List.length_append]
    omega

/-- Objects are read as the grammar has them when their values are. -/
theorem Reads.object (hvalue : Reads value V) :
    Reads (readMapValue (collect value) []) (ObjectText V) where
  sound := by
    intro s rest es h
    obtain ⟨r, k, hr, hmembers, hclose⟩ := (readMapValue_eq_ok_iff _ _ _ _ _).1 h
    obtain ⟨gap, hgap, rfl⟩ := (skipBlank_eq_cons_iff (by decide) _ _).1 hr
    obtain ⟨t, fs, rfl, rfl, ht⟩ := membersText_of_readMembers hvalue hmembers hclose
    exact ⟨gap ++ '\x7b' :: t, by simp, gap, t, rfl, hgap, ht⟩
  complete := by
    rintro t rest es ⟨gap, r, rfl, hgap, hr⟩ -
    refine (readMapValue_eq_ok_iff _ _ _ _ _).2 ⟨r ++ rest, '\x7d' :: rest, ?_, ?_, rfl⟩
    · rw [List.append_assoc]
      exact skipBlank_append hgap (by decide) _
    · have hlength : es.length < (r ++ rest).length + 1 := by
        have hle := hr.length_le
        rw [List.length_append]
        omega
      obtain ⟨_, hread⟩ :=
        readMembers_of_membersText hr (fun e _ => takes_collect hvalue e) hlength [] rest
      rw [hread, foldlM_collect]
      rfl

/-- A document is read as the grammar of its value has it, with blanks after it. -/
theorem Reads.readDocument_eq_ok_iff (hvalue : Reads value V) (text : String) (a : α) :
    readDocument value text = .ok a ↔
      ∃ t after, text.toList = t ++ after ∧ V t a ∧ Blanks after := by
  rw [Json.readDocument_eq_ok_iff]
  constructor
  · rintro ⟨after, h, hafter⟩
    obtain ⟨t, ht, ha⟩ := hvalue.sound h
    exact ⟨t, after, ht, ha, hafter⟩
  · rintro ⟨t, after, ht, ha, hafter⟩
    exact ⟨after, ht ▸ hvalue.complete ha (Blanks.delimited hafter), hafter⟩

end Reading

theorem NumberText.exists_cons {t : List Char} {l : Literal} (h : NumberText t l) :
    ∃ c cs, t = c :: cs ∧ (c = '-' ∨ isDigit c = true) := by
  cases h with
  | intro negative hwhole =>
    cases negative with
    | true => exact ⟨'-', _, rfl, .inl rfl⟩
    | false =>
      obtain ⟨c, cs, rfl, hc⟩ := hwhole.toDigits.exists_cons
      exact ⟨c, _, rfl, .inr hc⟩

theorem not_isBlank_of_number {c : Char} (hc : c = '-' ∨ isDigit c = true) : isBlank c = false := by
  rw [Bool.eq_false_iff]
  simp only [isBlank, Ne, Bool.or_eq_true, decide_eq_true_eq]
  rintro (((rfl | rfl) | rfl) | rfl) <;> exact absurd hc (by decide)

/-- Reads the parts of a number and leaves its value alone. -/
def readLiteralValue : ValueReader Literal := fun s => readLiteral .endInValue (skipBlank s)

theorem reads_literal : Reads readLiteralValue LiteralText where
  sound := by
    intro s rest l h
    obtain ⟨t, hskip, ht⟩ := numberText_of_readLiteral h
    refine ⟨s.takeWhile isBlank ++ t, ?_, _, t, rfl, List.all_takeWhile, ht⟩
    rw [List.append_assoc, ← hskip, skipBlank, List.takeWhile_append_dropWhile]
  complete := by
    rintro t rest l ⟨gap, r, rfl, hgap, hr⟩ hrest
    obtain ⟨c, cs, rfl, hc⟩ := hr.exists_cons
    rw [readLiteralValue, List.append_assoc, List.cons_append,
      skipBlank_append hgap (not_isBlank_of_number hc)]
    exact readLiteral_of_numberText hr hrest _

theorem readNumeral_eq_ok_iff (s rest : List Char) (n : Numeral) :
    readNumeral s = .ok (n, rest) ↔ readLiteral .endInValue s = .ok (n.literal, rest) := by
  unfold readNumeral
  rw [except_bind_eq_ok_iff]
  constructor
  · rintro ⟨⟨l, r⟩, hread, h⟩
    dsimp only at h
    split at h
    · obtain ⟨rfl, rfl⟩ := Prod.mk.inj (Except.ok.inj h)
      exact hread
    · simp at h
  · intro h
    obtain ⟨l, x, hx⟩ := n
    refine ⟨(l, rest), h, ?_⟩
    dsimp only
    split
    · next y hy =>
      obtain rfl : y = x := Option.some.inj (hy.symm.trans hx)
      rfl
    · next hnone => simp [hx] at hnone

/-- A number is read by its text, and its value goes with that. -/
theorem readNumberValue_eq_ok_iff (s rest : List Char) (n : Numeral) :
    readNumberValue s = .ok (n, rest) ↔ readLiteralValue s = .ok (n.literal, rest) := by
  rw [readLiteralValue, ← readNumeral_eq_ok_iff]
  constructor
  · intro h
    unfold readNumberValue at h
    split at h
    · simp at h
    · simp at h
    · simp at h
    · next hskip =>
      split at h
      · rwa [hskip]
      · simp at h
  · intro h
    obtain ⟨t, ht, hl⟩ := numberText_of_readLiteral ((readNumeral_eq_ok_iff _ _ _).1 h)
    obtain ⟨c, cs, rfl, hc⟩ := hl.exists_cons
    rw [List.cons_append] at ht
    unfold readNumberValue
    rw [ht] at h ⊢
    split
    · next hnil => simp at hnil
    · next hlist =>
      obtain rfl := (List.cons.inj hlist).1
      exact absurd hc (by decide)
    · next hobject =>
      obtain rfl := (List.cons.inj hobject).1
      exact absurd hc (by decide)
    · next hcons =>
      obtain ⟨rfl, rfl⟩ := List.cons.inj hcons
      rw [if_pos hc, h]

theorem reads_numeral : Reads readNumberValue fun t n => LiteralText t n.literal where
  sound := fun h => reads_literal.sound ((readNumberValue_eq_ok_iff _ _ _).1 h)
  complete := fun ht hrest =>
    (readNumberValue_eq_ok_iff _ _ _).2 (reads_literal.complete ht hrest)

end EnumForge.Json
