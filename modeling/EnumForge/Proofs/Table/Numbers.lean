import EnumForge.Proofs.Json.Object
import EnumForge.Proofs.Table.Library
import Mathlib.Data.Set.List

namespace EnumForge

open Json

/-! Texts and their literals. -/

/-- A document as it is written: families with their labels and the parts of their numbers. -/
abbrev Literals := List (String × List (String × Literal))

/-- A text that is an object of objects of numbers, and what is written in it. -/
def DocumentText (text : String) (ls : Literals) : Prop :=
  ∃ t after, text.toList = t ++ after ∧ ObjectText (ObjectText LiteralText) t ls ∧ Blanks after

def Document.literals (d : Document) : Literals :=
  d.map fun e => (e.1, e.2.map fun m => (m.1, m.2.literal))

namespace Literals

/-- The last number of a label in the last family of a name. -/
def literal? (ls : Literals) (family label : String) : Option Literal :=
  (ls.reverse.lookup family).bind fun members => members.reverse.lookup label

/-- No number, whether it counts or not, is too large for a real number. -/
def Decodes (ls : Literals) : Prop := ∀ e ∈ ls, ∀ m ∈ e.2, ∃ n, m.2.number? = some n

end Literals

theorem DocumentText.unique {text : String} {ls ks : Literals} (hl : DocumentText text ls)
    (hk : DocumentText text ks) : ls = ks := by
  have hread := reads_literal.object.object.readDocument_eq_ok_iff text
  exact Except.ok.inj (((hread ls).2 hl).symm.trans ((hread ks).2 hk))

/-- A text is read as a document when the grammar has it, with the literals of the document. -/
theorem Document.read_eq_ok_iff (text : String) (d : Document) :
    Document.read text = .ok d ↔ DocumentText text d.literals := by
  simp only [DocumentText, literals, objectText_map_iff]
  exact reads_numeral.object.object.readDocument_eq_ok_iff text d

theorem exists_map_eq_iff {α β : Type} (f : α → β) (bs : List β) :
    (∃ as : List α, as.map f = bs) ↔ ∀ b ∈ bs, ∃ a, f a = b :=
  Set.ext_iff.1 (Set.range_list_map f) bs

theorem Literals.decodes_iff (ls : Literals) : ls.Decodes ↔ ∃ d : Document, d.literals = ls := by
  have hmember (m : String × Literal) :
      (∃ n, m.2.number? = some n) ↔ ∃ k : String × Numeral, (k.1, k.2.literal) = m := by
    constructor
    · rintro ⟨n, hn⟩
      exact ⟨(m.1, ⟨m.2, n, hn⟩), rfl⟩
    · rintro ⟨k, rfl⟩
      exact ⟨k.2.number, k.2.number_eq⟩
  have hfamily (e : String × List (String × Literal)) :
      (∀ m ∈ e.2, ∃ n, m.2.number? = some n) ↔
        ∃ k : String × List (String × Numeral),
          (k.1, k.2.map fun m => (m.1, m.2.literal)) = e := by
    simp only [hmember, ← exists_map_eq_iff]
    constructor
    · rintro ⟨ms, hms⟩
      exact ⟨(e.1, ms), by rw [hms]⟩
    · rintro ⟨k, rfl⟩
      exact ⟨k.2, rfl⟩
  simp only [Decodes, hfamily, ← exists_map_eq_iff]
  rfl

theorem Document.literal?_literals (d : Document) (family label : String) :
    d.literals.literal? family label = (d.numeral? family label).map (·.literal) := by
  rw [Literals.literal?, literals, ← List.map_reverse, lookup_map_snd, numeral?, Option.map_bind,
    Option.bind_map]
  congr 1
  funext members
  exact (congrArg (List.lookup label) List.map_reverse.symm).trans
    (lookup_map_snd members.reverse (fun m => m.2.literal) label)

/-- A literal that is nothing but digits, which denote a number that 64 bits hold. -/
def Json.Literal.Fits (l : Json.Literal) : Prop := ∃ n < 2 ^ 64, l.DenotesNat n

theorem Json.Numeral.isValue_iff (n : Numeral) : n.number.IsValue ↔ n.literal.Fits := by
  have hnumber (k : Nat) := n.literal.number?_eq_natural_iff k
  simp only [n.number_eq, Option.some.injEq] at hnumber
  simp only [Json.Number.IsValue, Json.Literal.Fits, hnumber, and_comm]

theorem Json.Numeral.value?_eq_some_iff (n : Numeral) (v : UInt64) :
    n.number.value? = some v ↔ n.literal.DenotesNat v.toNat := by
  have hv : v.toNat < 2 ^ 64 := v.toNat_lt
  rw [← and_iff_left (a := n.literal.DenotesNat v.toNat) hv, ← n.literal.number?_eq_natural_iff,
    n.number_eq, Option.some.injEq]
  cases hn : n.number with
  | natural k =>
    have hk : k < 2 ^ 64 := by
      have hnatural := n.number_eq
      rw [hn] at hnatural
      exact ((n.literal.number?_eq_natural_iff k).1 hnatural).2
    rw [Json.Number.value?, Option.some.injEq, Json.Number.natural.injEq]
    constructor
    · rintro rfl
      exact (UInt64.toNat_ofNat_of_lt' hk).symm
    · rintro rfl
      exact UInt64.ofNat_toNat
  | negative k => simp [Json.Number.value?]
  | real minus x => simp [Json.Number.value?]

theorem Document.literal?_eq_some_iff (d : Document) (family label : String) (l : Json.Literal) :
    d.literals.literal? family label = some l ↔
      ∃ n, d.numeral? family label = some n ∧ n.literal = l := by
  rw [literal?_literals, Option.map_eq_some_iff]

theorem Document.library_isOk_iff_fits (d : Document) :
    (∃ library, d.library = .ok library) ↔
      ∀ family label l, d.literals.literal? family label = some l → l.Fits := by
  rw [library_isOk_iff]
  simp only [literal?_eq_some_iff, Numeral.isValue_iff]
  constructor
  · rintro hall family label l ⟨n, hn, rfl⟩
    exact hall family label n hn
  · intro hall family label n hn
    exact hall family label n.literal ⟨n, hn, rfl⟩

theorem Document.mem_library_iff {d : Document} {library : Library}
    (h : d.library = .ok library) (family label : String) (v : UInt64) :
    (∃ f, library.get? family = some f ∧ ⟨label, v⟩ ∈ f.members) ↔
      ∃ l, d.literals.literal? family label = some l ∧ l.DenotesNat v.toNat := by
  have hsupplied : (∃ f, library.get? family = some f ∧ ⟨label, v⟩ ∈ f.members) ↔
      ∃ ms, d.supplied? family = some ms ∧ ⟨label, v⟩ ∈ ms := by
    have hmem (ms : List Member) :=
      (Family.members_ofMembers_perm family ms).mem_iff (a := ⟨label, v⟩)
    simp [get?_library h, hmem]
  rw [hsupplied, mem_supplied?_iff]
  simp only [literal?_eq_some_iff, Numeral.value?_eq_some_iff]
  constructor
  · rintro ⟨n, hn, hv⟩
    exact ⟨n.literal, ⟨n, hn, rfl⟩, hv⟩
  · rintro ⟨l, ⟨n, hn, rfl⟩, hv⟩
    exact ⟨n, hn, hv⟩

theorem Library.exists_read_of_ofText {path text : String} {library : Library}
    (h : Library.ofText path text = .ok library) :
    ∃ d, Document.read text = .ok d ∧ d.library = .ok library := by
  cases hread : Document.read text with
  | error cause =>
    rw [ofText, hread] at h
    simp [bind, Except.bind] at h
  | ok d => exact ⟨d, rfl, ofText_of_read hread path ▸ h⟩

/-- Numbers are loaded exactly: a document has a library when each number that counts is nothing but
digits that 64 bits hold, and its members have the values that the digits denote. -/
theorem numbers_load_exactly (path : String) {text : String} {ls : Literals}
    (h : DocumentText text ls) :
    ((∃ library, Library.ofText path text = .ok library) ↔
      ls.Decodes ∧ ∀ family label l, ls.literal? family label = some l → l.Fits) ∧
    ∀ library, Library.ofText path text = .ok library → ∀ family label (v : UInt64),
      (∃ f, library.get? family = some f ∧ ⟨label, v⟩ ∈ f.members) ↔
        ∃ l, ls.literal? family label = some l ∧ l.DenotesNat v.toNat := by
  have hliterals {d : Document} (hread : Document.read text = .ok d) : d.literals = ls :=
    ((Document.read_eq_ok_iff text d).1 hread).unique h
  refine ⟨⟨?_, ?_⟩, ?_⟩
  · rintro ⟨library, hlibrary⟩
    obtain ⟨d, hread, hd⟩ := Library.exists_read_of_ofText hlibrary
    obtain rfl := hliterals hread
    exact ⟨(Literals.decodes_iff _).2 ⟨d, rfl⟩, d.library_isOk_iff_fits.1 ⟨library, hd⟩⟩
  · rintro ⟨hdecodes, hall⟩
    obtain ⟨d, rfl⟩ := (Literals.decodes_iff ls).1 hdecodes
    rw [Library.ofText_of_read ((Document.read_eq_ok_iff text d).2 h)]
    exact d.library_isOk_iff_fits.2 hall
  · intro library hlibrary
    obtain ⟨d, hread, hd⟩ := Library.exists_read_of_ofText hlibrary
    obtain rfl := hliterals hread
    exact Document.mem_library_iff hd

/-- What a document of one number says. -/
def Literals.single (l : Json.Literal) : Literals := [("A", [("x", l)])]

theorem Literals.literal?_single (l m : Json.Literal) (family label : String) :
    (single l).literal? family label = some m ↔ family = "A" ∧ label = "x" ∧ m = l := by
  by_cases hfamily : family = "A"
  · by_cases hlabel : label = "x"
    · simp [literal?, single, hfamily, hlabel, eq_comm]
    · simp [literal?, single, lookup_cons_eq, hfamily, hlabel]
  · simp [literal?, single, lookup_cons_eq, hfamily]

theorem Literals.decodes_single (l : Json.Literal) :
    (single l).Decodes ↔ l.number?.isSome = true := by
  simp [Decodes, single, Option.isSome_iff_exists]

/-- A document of the greatest number that 64 bits hold. -/
def Document.greatestText : String := "\x7b\"A\":\x7b\"x\":18446744073709551615\x7d\x7d"

def Json.Literal.greatest : Json.Literal := ⟨false, "18446744073709551615".toList, none, none⟩

theorem greatest_loads :
    DocumentText Document.greatestText (.single .greatest) ∧
      ∃ library, Library.ofText inlinePath Document.greatestText = .ok library ∧
        ∃ f, library.get? "A" = some f ∧ ⟨"x", 18446744073709551615⟩ ∈ f.members := by
  have h : DocumentText Document.greatestText (.single .greatest) :=
    (reads_literal.object.object.readDocument_eq_ok_iff _ _).1 rfl
  have hvalue : Json.Literal.greatest.DenotesNat (18446744073709551615 : UInt64).toNat :=
    ⟨rfl, rfl, by decide +kernel⟩
  have hdecodes : (Literals.single .greatest).Decodes :=
    (Literals.decodes_single _).2 (by decide +kernel)
  have hfits : ∀ family label l, (Literals.single .greatest).literal? family label = some l →
      l.Fits := by
    intro family label l hl
    rw [((Literals.literal?_single _ _ _ _).1 hl).2.2]
    exact ⟨_, UInt64.toNat_lt _, hvalue⟩
  obtain ⟨hloads, hvalues⟩ := numbers_load_exactly inlinePath h
  obtain ⟨library, hlibrary⟩ := hloads.2 ⟨hdecodes, hfits⟩
  exact ⟨h, library, hlibrary, (hvalues library hlibrary "A" "x" _).2 ⟨_, rfl, hvalue⟩⟩

end EnumForge
