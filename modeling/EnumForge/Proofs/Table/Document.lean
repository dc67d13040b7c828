import EnumForge.Generation
import EnumForge.Proofs.Checked
import EnumForge.Proofs.Table.Keys
import EnumForge.Proofs.Text.ByteOrder
import EnumForge.Table.Document

namespace EnumForge

open Json Text

/-- The text of a number determines its value. -/
theorem Json.Numeral.eq_of_literal_eq {m n : Numeral}
    (h : m.literal = n.literal) : m = n := by
  obtain ⟨l, x, hx⟩ := m
  obtain ⟨l', y, hy⟩ := n
  obtain rfl : l = l' := h
  obtain rfl : x = y := Option.some.inj (hx.symm.trans hy)
  rfl

/-- A number that is the value of a member. -/
def Json.Number.IsValue (n : Json.Number) : Prop := ∃ k, n = .natural k

/-- A whole number below zero or beyond 64 bits. -/
def Json.Number.isOutside : Json.Number → Bool
  | .natural _ => false
  | .negative _ => true
  | .real minus x => isWholeOutside minus x

/-- The error of a member whose number is no value. -/
def refusal (family label : String) (n : Json.Number) : Error :=
  if n.isOutside then .outOfRange family label n.text .u64
  else .notAnInteger family label n.text

/-- The member that a label and its number give. -/
def readMember (family : String) (e : String × Numeral) : Except Error Member :=
  (memberValue family e.1 e.2.number).map fun v => ⟨e.1, v⟩

theorem memberValue_isOk_iff (family label : String) (n : Json.Number) :
    (∃ v, memberValue family label n = .ok v) ↔ n.IsValue := by
  cases n with
  | natural k => simp [memberValue, Json.Number.IsValue]
  | negative k => simp [memberValue, Json.Number.IsValue]
  | real minus x =>
    simp only [memberValue, Json.Number.IsValue]
    split <;> simp

theorem memberValue_eq_error_iff (family label : String) (n : Json.Number) (e : Error) :
    memberValue family label n = .error e ↔ ¬ n.IsValue ∧ e = refusal family label n := by
  cases n with
  | natural k => simp [memberValue, Json.Number.IsValue]
  | negative k =>
    simp [memberValue, Json.Number.IsValue, refusal, Json.Number.isOutside, eq_comm]
  | real minus x =>
    cases hx : isWholeOutside minus x <;>
      simp [memberValue, Json.Number.IsValue, refusal, Json.Number.isOutside, hx, eq_comm]

theorem readMember_isOk_iff (family : String) (e : String × Numeral) :
    (∃ m, readMember family e = .ok m) ↔ e.2.number.IsValue := by
  rw [← memberValue_isOk_iff family e.1]
  simp [readMember, except_map_eq_ok_iff]

theorem readMember_eq_error_iff (family : String) (e : String × Numeral) (error : Error) :
    readMember family e = .error error ↔
      ¬ e.2.number.IsValue ∧ error = refusal family e.1 e.2.number := by
  rw [readMember, except_map_eq_error_iff, memberValue_eq_error_iff]

/-! All members of all families. -/

namespace Document

/-- The members that the last family of a name has. -/
def members? (d : Document) (family : String) : Option (List (String × Numeral)) :=
  d.reverse.lookup family

/-- The last number of a label in the last family of a name. -/
def numeral? (d : Document) (family label : String) : Option Numeral :=
  (d.members? family).bind fun members => members.reverse.lookup label

/-- Families and labels in ascending order, each with what it says last. -/
def resolved (d : Document) : Document := (resolveKeys d).map fun e => (e.1, resolveKeys e.2)

/-- The first member, in byte order of family and then of label, whose number is no value. -/
structure FirstOffence (d : Document) (family label : String) (n : Numeral) : Prop where
  stands : d.numeral? family label = some n
  refused : ¬ n.number.IsValue
  families_before : ∀ f l m, d.numeral? f l = some m → utf8 f.toList < utf8 family.toList →
    m.number.IsValue
  labels_before : ∀ l m, d.numeral? family l = some m → utf8 l.toList < utf8 label.toList →
    m.number.IsValue

theorem mem_resolveKeys_iff_members? (d : Document) (name : String)
    (members : List (String × Numeral)) :
    (name, members) ∈ resolveKeys d ↔ d.members? name = some members :=
  mem_resolveKeys_iff d name members

theorem numeral?_eq_some_iff (d : Document) (family label : String) (n : Numeral) :
    d.numeral? family label = some n ↔
      ∃ members, d.members? family = some members ∧ members.reverse.lookup label = some n := by
  rw [numeral?, Option.bind_eq_some_iff]

theorem family_eq (name : String) (members : List (String × Numeral)) :
    Document.family name members =
      ((resolveKeys members).mapM (readMember name)).map (Family.ofMembers name) := by
  rfl

theorem library_eq (d : Document) :
    d.library = ((resolveKeys d).mapM fun e => Document.family e.1 e.2).map Library.ofFamilies := by
  rfl

theorem family_isOk_iff (name : String) (members : List (String × Numeral)) :
    (∃ f, Document.family name members = .ok f) ↔
      ∀ label n, members.reverse.lookup label = some n → n.number.IsValue := by
  have hmembers := except_mapM_isOk_iff (readMember name) (resolveKeys members)
  simp only [readMember_isOk_iff, Prod.forall, mem_resolveKeys_iff] at hmembers
  rw [← hmembers, family_eq]
  simp [except_map_eq_ok_iff]

theorem family_eq_error_iff (name : String) (members : List (String × Numeral)) (e : Error) :
    Document.family name members = .error e ↔
      ∃ label n, members.reverse.lookup label = some n ∧
        (¬ n.number.IsValue ∧ e = refusal name label n.number) ∧
        ∀ l m, members.reverse.lookup l = some m → l < label → m.number.IsValue := by
  rw [family_eq, except_map_eq_error_iff, (ascending_resolveKeys members).mapM_eq_error_iff]
  simp only [readMember_eq_error_iff, readMember_isOk_iff, Prod.exists, Prod.forall,
    mem_resolveKeys_iff]

theorem library_isOk_iff (d : Document) :
    (∃ library, d.library = .ok library) ↔
      ∀ family label n, d.numeral? family label = some n → n.number.IsValue := by
  have hfamilies := except_mapM_isOk_iff (fun e : String × List (String × Numeral) =>
    Document.family e.1 e.2) (resolveKeys d)
  simp only [family_isOk_iff, Prod.forall, mem_resolveKeys_iff_members?] at hfamilies
  rw [library_eq]
  simp only [except_map_eq_ok_iff, numeral?_eq_some_iff]
  constructor
  · rintro ⟨_, fs, hfs, -⟩ family label n ⟨members, hmembers, hn⟩
    exact hfamilies.1 ⟨fs, hfs⟩ family members hmembers label n hn
  · intro hall
    obtain ⟨fs, hfs⟩ := hfamilies.2 fun family members hmembers label n hn =>
      hall family label n ⟨members, hmembers, hn⟩
    exact ⟨_, fs, hfs, rfl⟩

/-- The only error that a document can have is about its first offence. -/
theorem library_eq_error_iff (d : Document) (e : Error) :
    d.library = .error e ↔
      ∃ family label n, d.FirstOffence family label n ∧ e = refusal family label n.number := by
  rw [library_eq, except_map_eq_error_iff, (ascending_resolveKeys d).mapM_eq_error_iff]
  simp only [family_eq_error_iff, family_isOk_iff, Prod.exists, Prod.forall,
    mem_resolveKeys_iff_members?]
  constructor
  · rintro ⟨family, members, hmembers, ⟨label, n, hn, ⟨hrefused, rfl⟩, hlabels⟩, hfamilies⟩
    refine ⟨family, label, n, ⟨?_, hrefused, ?_, ?_⟩, rfl⟩
    · exact (d.numeral?_eq_some_iff family label n).2 ⟨members, hmembers, hn⟩
    · intro f l m hm hlt
      obtain ⟨ms, hms, hm⟩ := (d.numeral?_eq_some_iff f l m).1 hm
      exact hfamilies f ms hms ((utf8_lt_iff f family).1 hlt) l m hm
    · intro l m hm hlt
      obtain ⟨ms, hms, hm⟩ := (d.numeral?_eq_some_iff family l m).1 hm
      obtain rfl := Option.some.inj (hms.symm.trans hmembers)
      exact hlabels l m hm ((utf8_lt_iff l label).1 hlt)
  · rintro ⟨family, label, n, ⟨hstands, hrefused, hfamilies, hlabels⟩, rfl⟩
    obtain ⟨members, hmembers, hn⟩ := (d.numeral?_eq_some_iff family label n).1 hstands
    refine ⟨family, members, hmembers, ⟨label, n, hn, ⟨hrefused, rfl⟩, ?_⟩, ?_⟩
    · intro l m hm hlt
      exact hlabels l m ((d.numeral?_eq_some_iff family l m).2 ⟨members, hmembers, hm⟩)
        ((utf8_lt_iff l label).2 hlt)
    · intro f ms hms hlt l m hm
      exact hfamilies f l m ((d.numeral?_eq_some_iff f l m).2 ⟨ms, hms, hm⟩)
        ((utf8_lt_iff f family).2 hlt)

/-- Documents that say the same: they name the same families, and the last number of each label is
written alike. -/
structure Agrees (d k : Document) : Prop where
  families : ∀ family, (d.members? family).isSome = (k.members? family).isSome
  literals : ∀ family label,
    (d.numeral? family label).map (·.literal) = (k.numeral? family label).map (·.literal)

variable {d k : Document}

theorem Agrees.numeral?_eq (h : d.Agrees k) (family label : String) :
    d.numeral? family label = k.numeral? family label := by
  have hliteral := h.literals family label
  cases hd : d.numeral? family label with
  | none =>
    cases hk : k.numeral? family label with
    | none => rfl
    | some n => simp [hd, hk] at hliteral
  | some m =>
    cases hk : k.numeral? family label with
    | none => simp [hd, hk] at hliteral
    | some n =>
      rw [hd, hk, Option.map_some, Option.map_some] at hliteral
      rw [Numeral.eq_of_literal_eq (Option.some.inj hliteral)]

theorem lookup_resolved (d : Document) (family : String) :
    d.resolved.lookup family = (d.members? family).map resolveKeys := by
  rw [resolved, lookup_map_snd, lookup_resolveKeys]
  rfl

theorem numeral?_eq_lookup_resolved (d : Document) (family label : String) :
    d.numeral? family label =
      (d.resolved.lookup family).bind fun members => members.lookup label := by
  rw [lookup_resolved, numeral?]
  cases d.members? family with
  | none => rfl
  | some members => exact (lookup_resolveKeys members label).symm

theorem Agrees.resolveKeys_members? (h : d.Agrees k) (family : String) :
    (d.members? family).map resolveKeys = (k.members? family).map resolveKeys := by
  have hisSome := h.families family
  have hnumeral := h.numeral?_eq family
  simp only [numeral?] at hnumeral
  cases hd : d.members? family with
  | none =>
    rw [hd] at hisSome
    have hk : k.members? family = none := by simpa using hisSome.symm
    rw [hk]
  | some ms =>
    rw [hd] at hisSome hnumeral
    obtain ⟨ks, hk⟩ := Option.isSome_iff_exists.1 hisSome.symm
    rw [hk] at hnumeral ⊢
    rw [Option.map_some, Option.map_some, resolveKeys_congr hnumeral]

theorem Agrees.resolved_eq (h : d.Agrees k) : d.resolved = k.resolved := by
  apply ((ascending_resolveKeys d).map_snd _).ext ((ascending_resolveKeys k).map_snd _)
  intro family
  have hmembers := h.resolveKeys_members? family
  rw [← lookup_resolved, ← lookup_resolved] at hmembers
  exact hmembers

/-- Documents say the same when they are the same once their keys are resolved. -/
theorem agrees_iff_resolved_eq (d k : Document) : d.Agrees k ↔ d.resolved = k.resolved := by
  constructor
  · exact Agrees.resolved_eq
  · intro h
    constructor
    · intro family
      have hmembers := congrArg (fun r => (r.lookup family).isSome) h
      simpa only [lookup_resolved, Option.isSome_map] using hmembers
    · intro family label
      rw [numeral?_eq_lookup_resolved, numeral?_eq_lookup_resolved, h]

/-- Only what a document says counts for its library. -/
theorem library_eq_of_resolved (d : Document) :
    d.library = (d.resolved.mapM fun e : String × List (String × Numeral) =>
      (e.2.mapM (readMember e.1)).map (Family.ofMembers e.1)).map Library.ofFamilies := by
  rw [library_eq]
  unfold resolved
  rw [except_mapM_map]
  rfl

theorem Agrees.library_eq (h : d.Agrees k) : d.library = k.library := by
  rw [library_eq_of_resolved, library_eq_of_resolved, h.resolved_eq]

theorem Agrees.firstOffence (h : d.Agrees k) {family label : String} {n : Numeral}
    (hd : d.FirstOffence family label n) : k.FirstOffence family label n := by
  obtain ⟨hstands, hrefused, hfamilies, hlabels⟩ := hd
  simp only [h.numeral?_eq] at hstands hfamilies hlabels
  exact ⟨hstands, hrefused, hfamilies, hlabels⟩

end Document

theorem Library.ofText_of_read {text : String} {d : Document} (h : Document.read text = .ok d)
    (path : String) : Library.ofText path text = d.library := by
  rw [Library.ofText, h]
  rfl

/-- A text fails where it is no document, and else at the first offence of its document. -/
theorem Library.ofText_eq_error_iff (path text : String) (e : Error) :
    Library.ofText path text = .error e ↔
      (∃ cause, Document.read text = .error cause ∧ e = .inputParse path cause) ∨
      ∃ d family label n, Document.read text = .ok d ∧ d.FirstOffence family label n ∧
        e = refusal family label n.number := by
  cases hread : Document.read text with
  | error cause =>
    have hfail : Library.ofText path text = .error (.inputParse path cause) := by
      rw [Library.ofText, hread]
      rfl
    simp [hfail, eq_comm]
  | ok d =>
    rw [Library.ofText_of_read hread, d.library_eq_error_iff]
    simp

/-- Documents that say the same lead to the same library and the same code, or to the same error:
that of the first offence, in byte order of family and then of label. -/
theorem ofText_eq_of_agrees {t u : String} {d k : Document} (ht : Document.read t = .ok d)
    (hu : Document.read u = .ok k) (h : d.Agrees k) (path : String) :
    ((∃ library, Library.ofText path t = .ok library ∧ Library.ofText path u = .ok library) ∨
      ∃ family label n, d.FirstOffence family label n ∧ k.FirstOffence family label n ∧
        Library.ofText path t = .error (refusal family label n.number) ∧
        Library.ofText path u = .error (refusal family label n.number)) ∧
    ∀ options, (Library.ofText path t).map (generate · options) =
      (Library.ofText path u).map (generate · options) := by
  rw [Library.ofText_of_read ht, Library.ofText_of_read hu, ← h.library_eq]
  refine ⟨?_, fun options => rfl⟩
  cases hd : d.library with
  | ok library => exact .inl ⟨library, rfl, rfl⟩
  | error e =>
    obtain ⟨family, label, n, hoffence, rfl⟩ := (d.library_eq_error_iff e).1 hd
    exact .inr ⟨family, label, n, hoffence, h.firstOffence hoffence, rfl, rfl⟩

/-- The number that one digit writes. -/
def Json.Numeral.ofDigit (n : Fin 10) : Numeral where
  literal := ⟨false, [Nat.digitChar n], none, none⟩
  number := .natural n
  number_eq := by
    revert n
    decide

namespace Document

/-- A family in the place of an earlier one, a label that stands twice, and an escaped label. -/
def scatteredText : String :=
  "\x7b\"T\":\x7b\"a\":9\x7d,\"C\":\x7b\"r\":7,\"\\u0062\":2,\"r\":1\x7d,\"T\":\x7b\"c\":3\x7d\x7d"

def scattered : Document :=
  [("T", [("a", .ofDigit 9)]), ("C", [("r", .ofDigit 7), ("b", .ofDigit 2), ("r", .ofDigit 1)]),
    ("T", [("c", .ofDigit 3)])]

/-- The same in order. -/
def tidyText : String := "\x7b \"C\": \x7b\"b\": 2, \"r\": 1\x7d,\n \"T\": \x7b\"c\": 3\x7d \x7d"

def tidy : Document :=
  [("C", [("b", .ofDigit 2), ("r", .ofDigit 1)]), ("T", [("c", .ofDigit 3)])]

theorem scattered_agrees_tidy : scattered.Agrees tidy :=
  (scattered.agrees_iff_resolved_eq tidy).2 rfl

end Document

theorem ofText_scattered :
    Document.read Document.scatteredText = .ok .scattered ∧
      Document.read Document.tidyText = .ok .tidy ∧ Document.scattered.Agrees .tidy ∧
      ∀ options, (Library.ofText inlinePath Document.scatteredText).map (generate · options) =
        (Library.ofText inlinePath Document.tidyText).map (generate · options) := by
  have hscattered : Document.read Document.scatteredText = .ok .scattered := rfl
  have htidy : Document.read Document.tidyText = .ok .tidy := rfl
  have hagrees := Document.scattered_agrees_tidy
  exact ⟨hscattered, htidy, hagrees,
    (ofText_eq_of_agrees hscattered htidy hagrees inlinePath).2⟩

end EnumForge
