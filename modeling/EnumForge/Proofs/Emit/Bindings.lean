import EnumForge.Proofs.Emission
import EnumForge.Proofs.Emit.Tables

namespace EnumForge

namespace Emit

/-- Where a token stands: among other code, before the parameters of a function, among them after
some word, after `let`, in a bracket after nothing but names, or after such a bracket. -/
inductive Place
  | code
  | signature
  | parameters (last : Option String)
  | local
  | group (names : List String)
  | closed (names : List String)
deriving DecidableEq, Repr

namespace Place

def isName (w : String) : Bool := w.toList.head?.any fun c => c.isAlpha || c == '_'

/-- Where the token after a word stands, if nothing before the word counts. -/
def after (w : String) : Place :=
  if w = "fn" then .signature
  else if w = "let" then .local
  else if w = "(" ∨ w = "\x7b" then .group []
  else .code

/-- Goes past a token: where the next one stands, and the names that are bound here. A parameter is
bound at its colon, the names of a bracket at the arrow after it; no pattern stands in another. -/
def next (place : Place) : Token → Place × List String
  | .word w =>
    match place with
    | .code => (after w, [])
    | .signature => (if w = "(" then .parameters none else .signature, [])
    | .parameters last =>
      if w = ")" then (.code, [])
      else if w = ":" then (.parameters none, last.toList)
      else (.parameters (some w), [])
    | .local => (.code, [w])
    | .group names =>
      if w = ")" ∨ w = "\x7d" then (.closed names, [])
      else if w = "," ∨ w = ".." ∨ w = "_" then (.group names, [])
      else if isName w ∧ after w = .code then (.group (names ++ [w]), [])
      else (after w, [])
    | .closed names => if w = "=>" then (.code, names) else (after w, [])
  | _ =>
    match place with
    | .signature => (.signature, [])
    | .parameters _ => (.parameters none, [])
    | _ => (.code, [])

end Place

/-- Goes past some tokens: where the next one stands, and the names that are bound by them. -/
def scanBindings (place : Place) : List Token → Place × List String
  | [] => (place, [])
  | t :: ts =>
    let (place, here) := place.next t
    let (place, later) := scanBindings place ts
    (place, here ++ later)

def bindings (ts : List Token) : List String := (scanBindings .code ts).2

theorem scanBindings_append (place : Place) (xs ys : List Token) :
    scanBindings place (xs ++ ys) =
      ((scanBindings (scanBindings place xs).1 ys).1,
        (scanBindings place xs).2 ++ (scanBindings (scanBindings place xs).1 ys).2) := by
  induction xs generalizing place with
  | nil => rfl
  | cons x xs ih => simp only [List.cons_append, scanBindings, ih, List.append_assoc]

/-- A bracket that held nothing is like no bracket. -/
theorem scanBindings_closed_nil (t : Token) (ts : List Token) :
    scanBindings (.closed []) (t :: ts) = scanBindings .code (t :: ts) := by
  have hnext : (Place.closed []).next t = Place.code.next t := by
    cases t with
    | word w =>
      by_cases hw : w = "=>"
      · subst hw
        rfl
      · simp [Place.next, hw]
    | _ => rfl
  rw [scanBindings, scanBindings, hnext]

/-- A bracket holds more than names where the first token in it is none. -/
theorem scanBindings_group_nil {t : Token} (h : ∀ w, t ≠ .word w) (ts : List Token) :
    scanBindings (.group []) (t :: ts) = scanBindings .code (t :: ts) := by
  have hnext : (Place.group []).next t = Place.code.next t := by
    cases t with
    | word w => exact absurd rfl (h w)
    | _ => rfl
  rw [scanBindings, scanBindings, hnext]

/-- Tokens from some place on that bind some names, up to a place among other code. -/
def BindsFrom (place : Place) (ts : List Token) (names : List String) : Prop :=
  ∃ last, (last = .code ∨ last = .closed []) ∧ scanBindings place ts = (last, names)

abbrev Binds := BindsFrom .code

theorem Binds.bindings_eq {ts : List Token} {names : List String} (h : Binds ts names) :
    bindings ts = names := by
  obtain ⟨last, -, hscan⟩ := h
  rw [bindings, hscan]

namespace BindsFrom

variable {p q : Place} {xs ys : List Token} {a b : List String}

theorem of_scan (h : scanBindings p xs = (.code, a)) : BindsFrom p xs a := ⟨.code, .inl rfl, h⟩

theorem nil : Binds [] [] := of_scan rfl

theorem cons {t : Token} (ht : p.next t = (q, a)) (hx : BindsFrom q xs b) :
    BindsFrom p (t :: xs) (a ++ b) := by
  obtain ⟨last, hlast, hx⟩ := hx
  exact ⟨last, hlast, by simp only [scanBindings, ht, hx]⟩

theorem scan_append (hx : scanBindings p xs = (q, a)) (hy : BindsFrom q ys b) :
    BindsFrom p (xs ++ ys) (a ++ b) := by
  obtain ⟨last, hlast, hy⟩ := hy
  exact ⟨last, hlast, by rw [scanBindings_append, hx, hy]⟩

theorem append (hx : BindsFrom p xs a) (hy : Binds ys b) : BindsFrom p (xs ++ ys) (a ++ b) := by
  obtain ⟨q, rfl | rfl, hscan⟩ := hx
  · exact scan_append hscan hy
  · cases ys with
    | nil =>
      obtain ⟨last, -, hy⟩ := hy
      obtain ⟨-, rfl⟩ := Prod.mk.inj hy
      exact ⟨.closed [], .inr rfl, by simpa using hscan⟩
    | cons y ys =>
      obtain ⟨last, hlast, hy⟩ := hy
      rw [← scanBindings_closed_nil] at hy
      exact scan_append hscan ⟨last, hlast, hy⟩

theorem braces (hp : p.next (.word "\x7b") = (.group [], [])) (h : BindsFrom (.group []) xs a) :
    BindsFrom p (Emit.braces xs) a := by
  have hclose : Binds [.word "\x7d"] [] := of_scan rfl
  have hinner := h.append hclose
  rw [List.append_nil] at hinner
  exact cons hp hinner

theorem flatMap {α : Type} {f : α → List Token} {names : α → List String}
    (h : ∀ x, Binds (f x) (names x)) (l : List α) : Binds (l.flatMap f) (l.flatMap names) := by
  induction l with
  | nil => exact nil
  | cons x l ih => exact (h x).append ih

/-- Pieces that bind nothing, one after the other. -/
theorem flatMap_nil {α : Type} {f : α → List Token} (h : ∀ x, Binds (f x) []) (l : List α) :
    Binds (l.flatMap f) [] := by
  have hflat := flatMap h l
  rwa [List.flatMap_eq_nil_iff.2 fun _ _ => rfl] at hflat

theorem separated (es : List (List Token)) (h : ∀ e ∈ es, Binds e []) :
    Binds (FamilyCode.separated es) [] := by
  fun_induction FamilyCode.separated es with
  | case1 => exact nil
  | case2 e => exact h e (List.mem_singleton.2 rfl)
  | case3 e es _ ih =>
    have hcomma : Binds (words ",") [] := of_scan rfl
    have hes := ih fun x hx => h x (List.mem_cons_of_mem _ hx)
    exact ((h e List.mem_cons_self).append hcomma).append hes

/-- A table whose entries bind nothing. -/
theorem table {α : Type} {head : List Token} {entry : α → List Token} (hhead : BindsFrom p head [])
    (hentry : ∀ e, Binds (entry e) []) (entries : List α) :
    BindsFrom p (head ++ FamilyCode.separated (entries.map entry) ++ words "] ;") [] := by
  have hentries := separated (entries.map entry) (by
    intro ts hts
    obtain ⟨e, -, rfl⟩ := List.mem_map.1 hts
    exact hentry e)
  have hend : Binds (words "] ;") [] := of_scan rfl
  exact (hhead.append hentries).append hend

/-- Arms that bind nothing and begin with no name, and the arm for what is left. -/
theorem arms {α : Type} {f : α → List Token}
    (h : ∀ x, ∃ t ts, f x = t :: ts ∧ (∀ w, t ≠ .word w) ∧ Binds (t :: ts) []) (l : List α) :
    BindsFrom (.group []) (l.flatMap f ++ words "_ => :: core :: option :: Option :: None ,")
      [] := by
  cases l with
  | nil =>
    have hrest : scanBindings (.group []) (words "_ => :: core :: option :: Option :: None ,") =
        (.code, []) := rfl
    exact of_scan hrest
  | cons x l =>
    have hrest : Binds (words "_ => :: core :: option :: Option :: None ,") [] :=
      of_scan rfl
    have hl : Binds (l.flatMap f) [] := by
      apply flatMap_nil
      intro x
      obtain ⟨t, ts, hx, -, hbinds⟩ := h x
      exact hx ▸ hbinds
    obtain ⟨t, ts, hx, ht, last, hlast, hscan⟩ := h x
    rw [← scanBindings_group_nil ht] at hscan
    have hfirst : BindsFrom (.group []) (t :: ts) [] := ⟨last, hlast, hscan⟩
    rw [List.flatMap_cons, hx]
    exact (hfirst.append hl).append hrest

end BindsFrom

theorem binds_imports : Binds imports [] := by
  apply BindsFrom.of_scan
  simp only [imports]
  repeat rw [words_ofList]
  rfl

theorem binds_errorType : Binds errorType [] := by
  apply BindsFrom.of_scan
  simp only [errorType, docs]
  repeat rw [words_ofList]
  rfl

set_option maxRecDepth 2000 in
theorem binds_errorMethods : Binds errorMethods ["family", "label"] := by
  apply BindsFrom.of_scan
  simp only [errorMethods, errorFieldArms, docs]
  repeat rw [words_ofList]
  rfl

theorem binds_errorDisplay : Binds errorDisplay ["f", "err", "family", "label"] := by
  apply BindsFrom.of_scan
  simp only [errorDisplay]
  repeat rw [words_ofList]
  rfl

theorem binds_errorSource : Binds errorSource ["err"] := by
  apply BindsFrom.of_scan
  simp only [errorSource]
  repeat rw [words_ofList]
  rfl

/-- Names that the fixed part binds, from left to right. -/
def preambleBindings : List String := ["family", "label", "f", "err", "family", "label", "err"]

theorem binds_preamble : Binds preamble preambleBindings :=
  (((binds_imports.append binds_errorType).append binds_errorMethods).append
    binds_errorDisplay).append binds_errorSource

end Emit

/-! The block of a family. -/

namespace FamilyCode

open Emit

variable (code : FamilyCode)

theorem binds_typeTokens : Binds code.typeTokens [] := by
  apply BindsFrom.of_scan
  simp only [typeTokens]
  repeat rw [words_ofList]
  rfl

theorem binds_namesTokens : BindsFrom (.group []) code.namesTokens [] := by
  have hhead : BindsFrom (.group [])
      (docs " Declared members as `(value, label)`, in ascending value order." ++
        words "pub const NAMES : & 'static [ (" ++
        code.ty :: words ", & 'static str ) ] = & [") [] := by
    apply BindsFrom.of_scan
    simp only [docs]
    repeat rw [words_ofList]
    rfl
  exact hhead.table (fun e => BindsFrom.of_scan rfl) code.names

theorem binds_valuesTokens : Binds code.valuesTokens [] := by
  have hhead : Binds
      (docs " Declared members as `(label, value)`, in ascending value order." ++
        words "pub const VALUES : & 'static [ ( & 'static str ," ++
        code.ty :: words ") ] = & [") [] := by
    apply BindsFrom.of_scan
    simp only [docs]
    repeat rw [words_ofList]
    rfl
  exact hhead.table (fun e => BindsFrom.of_scan rfl) code.values

theorem binds_accessorTokens : Binds code.accessorTokens ["value"] := by
  apply BindsFrom.of_scan
  simp only [accessorTokens]
  repeat rw [words_ofList]
  rfl

theorem binds_nameTokens : Binds code.nameTokens [] := by
  have hhead : Binds
      (docs " Declared label of this value, if any." ++
        words "pub fn name ( self ) -> :: core :: option :: Option < & 'static str >") [] := by
    apply BindsFrom.of_scan
    simp only [docs]
    repeat rw [words_ofList]
    rfl
  have hsubject : scanBindings (.group []) (words "match self . 0") = (.code, []) := rfl
  have harm (e : UInt64 × String) : Binds (.number e.1 ::
      (words "=> :: core :: option :: Option :: Some (" ++ .text e.2 :: words ") ,")) [] := by
    apply BindsFrom.of_scan
    repeat rw [words_ofList]
    rfl
  have harms := BindsFrom.arms (fun e => ⟨.number e.1, _, rfl, by simp, harm e⟩) code.nameArms
  exact hhead.append (.braces rfl (.scan_append hsubject (.braces rfl harms)))

theorem binds_fromNameTokens : Binds code.fromNameTokens ["name"] := by
  have hhead : Binds
      (docs " Value declared for `name`, if any." ++
        words "pub fn from_name ( name : & str ) -> :: core :: option :: Option < Self >")
      ["name"] := by
    apply BindsFrom.of_scan
    simp only [docs]
    repeat rw [words_ofList]
    rfl
  have hsubject : scanBindings (.group []) (words "match name") = (.group ["match", "name"], []) :=
    rfl
  have harm (e : String × String) : Binds (.text e.1 ::
      (words "=> :: core :: option :: Option :: Some (" ++ .constant e.2 :: words ") ,")) [] := by
    apply BindsFrom.of_scan
    repeat rw [words_ofList]
    rfl
  have harms := BindsFrom.arms (fun e => ⟨.text e.1, _, rfl, by simp, harm e⟩) code.fromNameArms
  exact hhead.append (.braces rfl (.scan_append hsubject (.braces rfl harms)))

theorem binds_toJsonTokens : Binds toJsonTokens ["label"] := by
  apply BindsFrom.of_scan
  simp only [toJsonTokens, docs]
  repeat rw [words_ofList]
  rfl

set_option maxRecDepth 2000 in
theorem binds_fromJsonTokens : Binds code.fromJsonTokens ["text", "label", "value"] := by
  apply BindsFrom.of_scan
  simp only [fromJsonTokens, docs, orUnknownLabel]
  repeat rw [words_ofList]
  rfl

theorem binds_inherentTokens :
    Binds code.inherentTokens ["value", "name", "label", "text", "label", "value"] := by
  have hhead : scanBindings .code (words "impl") = (.code, []) := rfl
  have hty : Place.code.next code.ty = (.code, []) := rfl
  have hinner := (((((code.binds_namesTokens.append code.binds_valuesTokens).append
    code.binds_accessorTokens).append code.binds_nameTokens).append code.binds_fromNameTokens).append
    binds_toJsonTokens).append code.binds_fromJsonTokens
  exact .scan_append hhead (.cons hty (.braces rfl hinner))

theorem binds_constantTokens : Binds code.constantTokens [] := by
  apply BindsFrom.flatMap_nil
  intro e
  apply BindsFrom.of_scan
  repeat rw [words_ofList]
  rfl

theorem binds_displayTokens : Binds code.displayTokens ["f", "name"] := by
  apply BindsFrom.of_scan
  simp only [displayTokens]
  repeat rw [words_ofList]
  rfl

set_option maxRecDepth 2000 in
theorem binds_fromStrTokens : Binds code.fromStrTokens ["s", "value"] := by
  apply BindsFrom.of_scan
  simp only [fromStrTokens, orUnknownLabel]
  repeat rw [words_ofList]
  rfl

theorem binds_conversionTokens : Binds code.conversionTokens ["value", "value"] := by
  apply BindsFrom.of_scan
  simp only [conversionTokens]
  repeat rw [words_ofList]
  rfl

theorem binds_serializeTokens : Binds code.serializeTokens ["serializer"] := by
  apply BindsFrom.of_scan
  simp only [serializeTokens]
  repeat rw [words_ofList]
  rfl

set_option maxRecDepth 2000 in
theorem binds_deserializeTokens :
    Binds code.deserializeTokens ["deserializer", "label", "value"] := by
  apply BindsFrom.of_scan
  simp only [deserializeTokens, orUnknownLabel]
  repeat rw [words_ofList]
  rfl

def familyBindings : List String :=
  ["value", "name", "label", "text", "label", "value", "f", "name", "s", "value", "value", "value",
    "serializer", "deserializer", "label", "value"]

theorem binds_tokens : Binds code.tokens familyBindings :=
  ((((((code.binds_typeTokens.append code.binds_inherentTokens).append
    code.binds_constantTokens).append code.binds_displayTokens).append
    code.binds_fromStrTokens).append code.binds_conversionTokens).append
    code.binds_serializeTokens).append code.binds_deserializeTokens

end FamilyCode

open Emit FamilyCode Naming

def bindingNames : List String :=
  ["value", "name", "text", "label", "f", "s", "serializer", "deserializer", "err", "family"]

theorem binds_libraryTokens (width : Width) (library : Library) :
    Binds (library.tokens width)
      (preambleBindings ++ library.families.flatMap fun _ => familyBindings) :=
  binds_preamble.append (BindsFrom.flatMap (fun f => (f.code width).binds_tokens) library.families)

/-- Beside a family, the code binds each of these names and no other. -/
theorem mem_bindings_iff (width : Width) {library : Library} {f : Family}
    (hf : f ∈ library.families) (name : String) :
    name ∈ bindings (library.tokens width) ↔ name ∈ bindingNames := by
  have hsome : ∃ f, f ∈ library.families := ⟨f, hf⟩
  have hsub : preambleBindings ++ familyBindings ⊆ bindingNames := by decide
  have hsup : bindingNames ⊆ preambleBindings ++ familyBindings := by decide
  rw [(binds_libraryTokens width library).bindings_eq]
  simp only [List.mem_append, List.mem_flatMap, exists_and_right, hsome, true_and]
  constructor
  · exact fun h => hsub (List.mem_append.2 h)
  · exact fun h => List.mem_append.1 (hsup h)

/-- A library with one family, which has no members. -/
def Library.ofName (name : String) : Library where
  families := [⟨name, [], .nil⟩]
  sorted := List.pairwise_singleton _ _

theorem generate_ofName {name : String} (hname : checkFamilyName name = .ok ())
    (halone : StandsAlone name) (options : Options) :
    (generate (Library.ofName name) options).result =
      .ok ((Library.ofName name).text options.width) := by
  have hid := (isIdentifier_iff_standsAlone hname).2 halone
  rw [generate_eq_ok_iff]
  refine ⟨⟨?_, ?_⟩, ?_, rfl⟩
  · simp only [Library.ofName, List.forall_mem_singleton]
    exact ⟨hname, by simp, fun _ => rfl⟩
  · exact List.nodup_singleton name
  · simpa [Library.ofName, Library.identifiers] using hid

/-- Code is captured where a family has one of the names that the code binds, and only there. The
checks let a family have each of these names. -/
theorem capture_free_iff (library : Library) (options : Options) :
    (∀ text, (generate library options).result = .ok text →
      text = header ++ render (library.tokens options.width) ++ "\n" ∧
        ((∀ f ∈ library.families, f.name ∉ bindings (library.tokens options.width)) ↔
          ∀ f ∈ library.families, f.name ∉ bindingNames)) ∧
    ∀ name ∈ bindingNames,
      (generate (.ofName name) options).result = .ok ((Library.ofName name).text options.width) := by
  constructor
  · intro text h
    refine ⟨((generate_eq_ok_iff library options text).1 h).2.2, ?_⟩
    exact forall₂_congr fun f hf => not_congr (mem_bindings_iff options.width hf f.name)
  · have hpass : ∀ name ∈ bindingNames, checkFamilyName name = .ok () ∧ StandsAlone name := by
      decide +kernel
    intro name hname
    exact generate_ofName (hpass name hname).1 (hpass name hname).2 options

theorem preferences_capture_free :
    ∀ f ∈ Library.preferences.families,
      f.name ∉ bindings (Library.preferences.tokens Options.default.width) := by
  have hfree : ∀ f ∈ Library.preferences.families, f.name ∉ bindingNames := by decide +kernel
  exact (((capture_free_iff Library.preferences .default).1 _ generate_preferences).2).2 hfree

/-- A family that is named like the parameter of its own constructor. -/
def Library.capturing : Library where
  families := [⟨"value", [⟨"A", 1⟩], by decide⟩]
  sorted := by decide

theorem capturing_captured :
    (generate Library.capturing .default).result = .ok (Library.capturing.text .u32) ∧
      ∃ f ∈ Library.capturing.families, f.name ∈ bindings (Library.capturing.tokens .u32) := by
  have hf : ⟨"value", [⟨"A", 1⟩], by decide⟩ ∈ Library.capturing.families :=
    List.mem_singleton.2 rfl
  refine ⟨generate_of_validate (by decide +kernel) (by decide +kernel), _, hf, ?_⟩
  exact (mem_bindings_iff .u32 hf "value").2 (by decide +kernel)

end EnumForge
