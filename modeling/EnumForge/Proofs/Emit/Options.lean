import EnumForge.Proofs.Generation
import Mathlib.Data.List.Forall2
import Mathlib.Tactic.Simps.Basic

namespace EnumForge

open Emit

/-- Options that ask for no more than others: integers as wide or wider, and shared values allowed if
the others allow them. -/
structure Options.Looser (o p : Options) : Prop where
  wider : o.width.bits ≤ p.width.bits
  shared : o.allowSharedValues = true → p.allowSharedValues = true

section Checks

variable {o p : Options}

theorem Family.Sound.of_looser {f : Family} (h : f.Sound o) (hop : o.Looser p) : f.Sound p where
  name := h.name
  members := by
    intro m hm
    have hemittable := h.members m hm
    exact ⟨Width.fits_of_bits_le hop.wider hemittable.fits, hemittable.named⟩
  unshared := by
    intro hp
    apply h.unshared
    rw [Bool.eq_false_iff]
    intro ho
    rw [hop.shared ho] at hp
    exact absurd hp (by decide)

/-- The names that the code defines are the same for every width. -/
theorem Library.identifiers_eq (v w : Width) (library : Library) :
    library.identifiers v = library.identifiers w := by
  simp only [identifiers, FamilyCode.identifiers_code]

theorem Library.Accepted.of_looser {library : Library} (h : library.Accepted o)
    (hop : o.Looser p) : library.Accepted p where
  sound := fun f hf => (h.sound f hf).of_looser hop
  distinct := by
    rw [library.identifiers_eq p.width o.width]
    exact h.distinct

/-- What has a text has one under looser options. -/
theorem generate_of_looser {library : Library} {text : String}
    (h : (generate library o).result = .ok text) (hop : o.Looser p) :
    (generate library p).result = .ok (library.text p.width) := by
  obtain ⟨ha, hids, -⟩ := (generate_eq_ok_iff library o text).1 h
  rw [generate_eq_ok_iff]
  refine ⟨ha.of_looser hop, ?_, rfl⟩
  rw [library.identifiers_eq p.width o.width]
  exact hids

end Checks

/-! Code of another width. -/

namespace Emit

/-- The token that stands for this one in code of another width. -/
def Token.retype (w : Width) : Token → Token
  | .integer _ => .integer w
  | t => t

variable (w : Width)

@[simp] theorem map_retype_words (text : String) :
    (words text).map (Token.retype w) = words text := by
  rw [words, List.map_map]
  rfl

@[simp] theorem map_retype_braces (ts : List Token) :
    (braces ts).map (Token.retype w) = braces (ts.map (Token.retype w)) := by
  rw [braces, List.map_append]
  rfl

@[simp] theorem map_retype_docs (text : String) :
    (docs text).map (Token.retype w) = docs text := by
  rw [docs, List.map_append, List.map_cons, map_retype_words, map_retype_words]
  rfl

@[simp] theorem retype_number (v : UInt64) : Token.retype w (.number v) = .number v := rfl

@[simp] theorem retype_text (s : String) : Token.retype w (.text s) = .text s := rfl

@[simp] theorem retype_constant (c : String) : Token.retype w (.constant c) = .constant c := rfl

theorem map_retype_separated (es : List (List Token)) :
    (FamilyCode.separated es).map (Token.retype w) =
      FamilyCode.separated (es.map (List.map (Token.retype w))) := by
  cases es with
  | nil => rfl
  | cons e es =>
    rw [List.map_cons, FamilyCode.separated_cons, FamilyCode.separated_cons, List.map_append,
      List.map_flatMap, List.flatMap_map]
    simp only [List.map_append, map_retype_words]

theorem map_retype_errorFieldArms (field found : String) :
    (errorFieldArms field found).map (Token.retype w) = errorFieldArms field found := by
  simp [errorFieldArms]

/-- No width is named in the fixed part. -/
theorem map_retype_preamble : preamble.map (Token.retype w) = preamble := by
  simp [preamble, imports, errorType, errorMethods, errorDisplay, errorSource,
    map_retype_errorFieldArms]

end Emit

namespace FamilyCode

/-- The same code of another width. -/
@[simps] def retype (w : Width) (code : FamilyCode) : FamilyCode := { code with width := w }

variable (w : Width) (code : FamilyCode)

@[simp] theorem retype_ty : Token.retype w code.ty = (code.retype w).ty := rfl

@[simp] theorem retype_int : Token.retype w code.int = (code.retype w).int := rfl

@[simp] theorem map_retype_literal (v : UInt64) :
    (code.literal v).map (Token.retype w) = (code.retype w).literal v := rfl

theorem map_retype_typeTokens :
    code.typeTokens.map (Token.retype w) = (code.retype w).typeTokens := by
  simp [typeTokens]

theorem map_retype_namesTokens :
    code.namesTokens.map (Token.retype w) = (code.retype w).namesTokens := by
  simp [namesTokens, map_retype_separated, Function.comp_def]

theorem map_retype_valuesTokens :
    code.valuesTokens.map (Token.retype w) = (code.retype w).valuesTokens := by
  simp [valuesTokens, map_retype_separated, Function.comp_def]

theorem map_retype_accessorTokens :
    code.accessorTokens.map (Token.retype w) = (code.retype w).accessorTokens := by
  simp [accessorTokens]

theorem map_retype_nameTokens :
    code.nameTokens.map (Token.retype w) = (code.retype w).nameTokens := by
  simp [nameTokens, List.map_flatMap]

theorem map_retype_fromNameTokens :
    code.fromNameTokens.map (Token.retype w) = (code.retype w).fromNameTokens := by
  simp [fromNameTokens, List.map_flatMap]

theorem map_retype_toJsonTokens : toJsonTokens.map (Token.retype w) = toJsonTokens := by
  simp [toJsonTokens]

theorem map_retype_orUnknownLabel (before fields after : List Token) :
    (code.orUnknownLabel before fields after).map (Token.retype w) =
      (code.retype w).orUnknownLabel (before.map (Token.retype w)) (fields.map (Token.retype w))
        (after.map (Token.retype w)) := by
  simp [orUnknownLabel]

theorem map_retype_fromJsonTokens :
    code.fromJsonTokens.map (Token.retype w) = (code.retype w).fromJsonTokens := by
  simp [fromJsonTokens, map_retype_orUnknownLabel]

theorem map_retype_inherentTokens :
    code.inherentTokens.map (Token.retype w) = (code.retype w).inherentTokens := by
  simp [inherentTokens, map_retype_namesTokens, map_retype_valuesTokens,
    map_retype_accessorTokens, map_retype_nameTokens, map_retype_fromNameTokens,
    map_retype_toJsonTokens, map_retype_fromJsonTokens]

theorem map_retype_constantTokens :
    code.constantTokens.map (Token.retype w) = (code.retype w).constantTokens := by
  simp [constantTokens, List.map_flatMap]

theorem map_retype_displayTokens :
    code.displayTokens.map (Token.retype w) = (code.retype w).displayTokens := by
  simp [displayTokens, fallbackPattern]

theorem map_retype_fromStrTokens :
    code.fromStrTokens.map (Token.retype w) = (code.retype w).fromStrTokens := by
  simp [fromStrTokens, map_retype_orUnknownLabel]

theorem map_retype_conversionTokens :
    code.conversionTokens.map (Token.retype w) = (code.retype w).conversionTokens := by
  simp [conversionTokens]

theorem map_retype_serializeTokens :
    code.serializeTokens.map (Token.retype w) = (code.retype w).serializeTokens := by
  simp [serializeTokens]

theorem map_retype_deserializeTokens :
    code.deserializeTokens.map (Token.retype w) = (code.retype w).deserializeTokens := by
  simp [deserializeTokens, map_retype_orUnknownLabel]

/-- Code of another width is written with the same tokens, but for its integer type. -/
theorem map_retype_tokens : code.tokens.map (Token.retype w) = (code.retype w).tokens := by
  simp only [tokens, List.map_append, map_retype_typeTokens, map_retype_inherentTokens,
    map_retype_constantTokens, map_retype_displayTokens, map_retype_fromStrTokens,
    map_retype_conversionTokens, map_retype_serializeTokens, map_retype_deserializeTokens]

end FamilyCode

/-- The code of a family does not depend on the width, but for the width itself. -/
theorem Family.code_retype (v w : Width) (f : Family) : (f.code v).retype w = f.code w := rfl

/-- Two tokens in the same place of code of two widths: the same token, or the integer types. -/
def Emit.Token.SameButType (v w : Width) (s t : Token) : Prop :=
  s = t ∨ (s = .integer v ∧ t = .integer w)

theorem Library.map_retype_tokens (v w : Width) (library : Library) :
    (library.tokens v).map (Token.retype w) = library.tokens w := by
  have hfamily (f : Family) : (f.tokens v).map (Token.retype w) = f.tokens w := by
    rw [Family.tokens, FamilyCode.map_retype_tokens, f.code_retype, ← Family.tokens]
  rw [tokens, List.map_append, map_retype_preamble, List.map_flatMap, tokens]
  simp only [hfamily]

/-- Place by place, the tokens for two widths are the same but for the integer types. -/
theorem Library.tokens_sameButType (v w : Width) (library : Library) :
    List.Forall₂ (Token.SameButType v w) (library.tokens v) (library.tokens w) := by
  have hboth : List.Forall₂ (Token.SameButType v w) ((library.tokens v).map (Token.retype v))
      ((library.tokens v).map (Token.retype w)) := by
    rw [List.forall₂_map_left_iff, List.forall₂_map_right_iff, List.forall₂_same]
    intro t _
    cases t with
    | integer u => exact .inr ⟨rfl, rfl⟩
    | _ => exact .inl rfl
  rwa [library.map_retype_tokens v v, library.map_retype_tokens v w] at hboth

/-- What has a text under some options has one under looser ones. The policy on shared values does
not change the text. The texts of two widths are written with the same tokens but for the names of
the integer types: tables, arms and constants of each family are the same. -/
theorem options_decide_type_only (library : Library) :
    (∀ o p s, (generate library o).result = .ok s → o.Looser p →
      ∃ t, (generate library p).result = .ok t) ∧
    (∀ o p s t, (generate library o).result = .ok s → (generate library p).result = .ok t →
      o.width = p.width → s = t) ∧
    ∀ o p s t, (generate library o).result = .ok s → (generate library p).result = .ok t →
      s = header ++ render (library.tokens o.width) ++ "\n" ∧
        t = header ++ render (library.tokens p.width) ++ "\n" ∧
        List.Forall₂ (Token.SameButType o.width p.width) (library.tokens o.width)
          (library.tokens p.width) ∧
        ∀ f ∈ library.families, f.code p.width = { f.code o.width with width := p.width } := by
  have htext {o : Options} {s : String} (h : (generate library o).result = .ok s) :
      s = library.text o.width := ((generate_eq_ok_iff library o s).1 h).2.2
  refine ⟨?_, ?_, ?_⟩
  · intro o p s hs hop
    exact ⟨_, generate_of_looser hs hop⟩
  · intro o p s t hs ht hwidth
    rw [htext hs, htext ht, hwidth]
  · intro o p s t hs ht
    exact ⟨htext hs, htext ht, library.tokens_sameButType _ _, fun f _ => rfl⟩

/-- A library whose names and labels are made of the names of integer types. -/
def Library.typeNames : Library :=
  ⟨[⟨"u8x16", [⟨"u16", 1⟩, ⟨"u32", 2⟩], by decide⟩, ⟨"u_64", [⟨"u64", 255⟩], by decide⟩], by decide⟩

/-- The strictest options do for it, so all do; its tokens keep those names in every width. -/
theorem typeNames_types :
    (generate Library.typeNames ⟨.u8, false⟩).result = .ok (Library.typeNames.text .u8) ∧
      (∃ t, (generate Library.typeNames ⟨.u64, true⟩).result = .ok t) ∧
      (∀ t, (generate Library.typeNames ⟨.u8, true⟩).result = .ok t →
        t = Library.typeNames.text .u8) ∧
      List.Forall₂ (Token.SameButType .u8 .u64) (Library.typeNames.tokens .u8)
        (Library.typeNames.tokens .u64) := by
  have hstrict : (generate Library.typeNames ⟨.u8, false⟩).result =
      .ok (Library.typeNames.text .u8) :=
    generate_of_validate (by decide +kernel) (by decide +kernel)
  have hlooser : Options.Looser ⟨.u8, false⟩ ⟨.u64, true⟩ := ⟨by decide, by decide⟩
  obtain ⟨hmore, hpolicy, htypes⟩ := options_decide_type_only Library.typeNames
  obtain ⟨t, ht⟩ := hmore _ _ _ hstrict hlooser
  refine ⟨hstrict, ⟨t, ht⟩, ?_, (htypes _ _ _ _ hstrict ht).2.2.1⟩
  intro s hs
  exact hpolicy _ _ _ _ hs hstrict rfl

end EnumForge
