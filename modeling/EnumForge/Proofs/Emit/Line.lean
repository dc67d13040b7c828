import EnumForge.Proofs.Emission
import EnumForge.Proofs.Emit.Recovery
import EnumForge.Proofs.Source.Written

namespace EnumForge

open Unicode

theorem Source.isControl_of_isWord {s : List Char} (h : isWord s = true) {c : Char} (hc : c ∈ s) :
    isControl c = false :=
  isControl_of_isXidContinue (List.all_eq_true.1 (all_isWordChar_of_isWord h) c hc)

theorem Source.isControl_of_isIdentifier {name : String} (h : isIdentifier name = true) {c : Char}
    (hc : c ∈ name.toList) : isControl c = false := by
  unfold isIdentifier at h
  split at h
  · next word hname =>
    rw [Bool.and_eq_true] at h
    rw [hname, List.mem_cons, List.mem_cons] at hc
    rcases hc with rfl | rfl | hc
    · decide
    · decide
    · exact isControl_of_isWord h.1 hc
  · exact isControl_of_isWord h hc

namespace Emit

/-- A token whose text neither ends the line nor steers what shows it. -/
def Token.Inline (t : Token) : Prop := ∀ c ∈ t.render.toList, isControl c = false

/-- Tokens that all stay on their line. -/
def Inline (ts : List Token) : Prop := ∀ t ∈ ts, t.Inline

/-! Tokens that are written the same for every table, and those that a table decides. -/

theorem mem_of_mem_splitWords {cs word w : List Char} (hw : w ∈ splitWords word cs) {c : Char}
    (hc : c ∈ w) : c ∈ word ∨ c ∈ cs := by
  induction cs generalizing word with
  | nil =>
    rw [splitWords] at hw
    split_ifs at hw
    · exact absurd hw List.not_mem_nil
    · obtain rfl := List.mem_singleton.1 hw
      exact .inl (List.mem_reverse.1 hc)
  | cons d cs ih =>
    rw [splitWords] at hw
    split_ifs at hw
    · exact (ih hw).elim (absurd · List.not_mem_nil) (.inr <| .tail _ ·)
    · rcases List.mem_cons.1 hw with rfl | hw
      · exact .inl (List.mem_reverse.1 hc)
      · exact (ih hw).elim (absurd · List.not_mem_nil) (.inr <| .tail _ ·)
    · rcases ih hw with hword | hcs
      · rcases List.mem_cons.1 hword with rfl | hword
        · exact .inr List.mem_cons_self
        · exact .inl hword
      · exact .inr (.tail _ hcs)

theorem Token.inline_word {w : String} (h : w.toList.all (!isControl ·) = true) :
    (Token.word w).Inline := fun _ hc => isControl_of_all h hc

theorem inline_words {text : String} (h : text.toList.all (!isControl ·) = true) :
    Inline (words text) := by
  intro t ht
  obtain ⟨w, hw, rfl⟩ := List.mem_map.1 ht
  intro c hc
  rw [Token.render, String.toList_ofList] at hc
  rcases mem_of_mem_splitWords hw hc with hnone | hc
  · exact absurd hnone List.not_mem_nil
  · exact isControl_of_all h hc

theorem Token.inline_doc {text : String} (h : text.toList.all (!isControl ·) = true) :
    (Token.doc text).Inline := by
  intro c hc
  have hopen : "r\"".toList.all (!isControl ·) = true := by decide
  have hclose : "\"".toList.all (!isControl ·) = true := by decide
  rw [Token.render, String.toList_append, String.toList_append, List.mem_append,
    List.mem_append] at hc
  rcases hc with (hc | hc) | hc
  · exact isControl_of_all hopen hc
  · exact isControl_of_all h hc
  · exact isControl_of_all hclose hc

@[simp] theorem Token.inline_text (s : String) : (Token.text s).Inline :=
  fun _ hc => Source.isControl_of_mem_stringLiteral hc

@[simp] theorem Token.inline_number (v : UInt64) : (Token.number v).Inline :=
  fun _ hc => Source.isControl_of_mem_number hc

@[simp] theorem Token.inline_integer (w : Width) : (Token.integer w).Inline := by
  have hall : w.typeName.toList.all (!isControl ·) = true := by
    cases w with
    | u8 => decide
    | u16 => decide
    | u32 => decide
    | u64 => decide
  exact fun _ hc => isControl_of_all hall hc

theorem Token.inline_constant {name : String} (h : Source.isIdentifier name = true) :
    (Token.constant name).Inline :=
  fun _ hc => Source.isControl_of_isIdentifier h hc

@[simp] theorem inline_nil : Inline [] := fun _ h => absurd h List.not_mem_nil

@[simp] theorem inline_cons {t : Token} {ts : List Token} :
    Inline (t :: ts) ↔ t.Inline ∧ Inline ts :=
  List.forall_mem_cons

@[simp] theorem inline_append {xs ys : List Token} :
    Inline (xs ++ ys) ↔ Inline xs ∧ Inline ys :=
  List.forall_mem_append

@[simp] theorem inline_braces {ts : List Token} : Inline (braces ts) ↔ Inline ts := by
  have hopen : (Token.word "\x7b").Inline := Token.inline_word (by decide)
  have hclose : (Token.word "\x7d").Inline := Token.inline_word (by decide)
  simp [braces, hopen, hclose]

theorem inline_docs {text : String} (h : text.toList.all (!isControl ·) = true) :
    Inline (docs text) := by
  rw [docs, inline_append, inline_cons]
  exact ⟨inline_words (by decide), Token.inline_doc h, inline_words (by decide)⟩

@[simp] theorem inline_flatMap {α : Type} {l : List α} {f : α → List Token} :
    Inline (l.flatMap f) ↔ ∀ a ∈ l, Inline (f a) := by
  simp only [Inline, List.mem_flatMap]
  grind

@[simp] theorem inline_separated_map {α : Type} {l : List α} {f : α → List Token} :
    Inline (FamilyCode.separated (l.map f)) ↔ ∀ a ∈ l, Inline (f a) := by
  have hcomma : Inline (words ",") := inline_words (by decide)
  cases l with
  | nil => simp [FamilyCode.separated]
  | cons a l =>
    rw [List.map_cons, FamilyCode.separated_cons, List.flatMap_map]
    simp [hcomma]

theorem inline_preamble : Inline preamble := by
  -- a text as a list of characters first, as `decide` would go through its bytes
  have harms : Inline (errorFieldArms "family" "* family") ∧
      Inline (errorFieldArms "label" "label . as_str ( )") := by
    simp (disch := (rw [String.toList_ofList]; decide)) [errorFieldArms, inline_words]
  simp (disch := (rw [String.toList_ofList]; decide)) [preamble, imports, errorType,
    errorMethods, errorDisplay, errorSource, inline_words, inline_docs, harms]

/-- Tokens that stay on their line are written without a character that ends it. -/
theorem isControl_of_mem_lettersAfter {ts : List Token} (h : Inline ts) {left : Token} {c : Char}
    (hc : c ∈ lettersAfter left ts) : isControl c = false := by
  induction ts generalizing left with
  | nil => exact absurd hc List.not_mem_nil
  | cons t ts ih =>
    rw [lettersAfter_cons, List.mem_append, List.mem_append] at hc
    rw [inline_cons] at h
    rcases hc with hgap | htoken | hrest
    · have hblank : (gap left t).toList.all (!isControl ·) = true := by
        rw [gap]
        split
        · decide
        · decide
      exact isControl_of_all hblank hgap
    · exact h.1 c htoken
    · exact ih h.2 hrest

end Emit

namespace FamilyCode

open Emit

/-- Code whose names are all identifiers. -/
structure Named (code : FamilyCode) : Prop where
  name : Source.isIdentifier code.name = true
  arms : ∀ e ∈ code.fromNameArms, Source.isIdentifier e.2 = true
  constants : ∀ e ∈ code.constants, Source.isIdentifier e.1 = true

variable {code : FamilyCode}

namespace Named

theorem inline_ty (h : code.Named) : code.ty.Inline :=
  fun _ hc => Source.isControl_of_isIdentifier h.name hc

theorem inline_literal (h : code.Named) (v : UInt64) : Inline (code.literal v) := by
  simp (disch := (rw [String.toList_ofList]; decide)) [literal, inline_words, h.inline_ty]

theorem inline_typeTokens (h : code.Named) : Inline code.typeTokens := by
  simp (disch := (rw [String.toList_ofList]; decide)) [typeTokens, inline_words, h.inline_ty,
    int]

theorem inline_tables (h : code.Named) : Inline code.namesTokens ∧ Inline code.valuesTokens := by
  simp (disch := (rw [String.toList_ofList]; decide)) [namesTokens, valuesTokens,
    inline_words, inline_docs, h.inline_ty, h.inline_literal]

theorem inline_accessorTokens (code : FamilyCode) : Inline code.accessorTokens := by
  simp (disch := (rw [String.toList_ofList]; decide)) [accessorTokens, inline_words, int]

theorem inline_lookups (h : code.Named) : Inline code.nameTokens ∧ Inline code.fromNameTokens := by
  have harms : ∀ a b, (a, b) ∈ code.fromNameArms → (Token.constant b).Inline :=
    fun a b hmem => Token.inline_constant (h.arms (a, b) hmem)
  simp (disch := (rw [String.toList_ofList]; decide)) [nameTokens, fromNameTokens,
    inline_words, inline_docs]
  exact harms

theorem inline_toJsonTokens : Inline toJsonTokens := by
  simp (disch := (rw [String.toList_ofList]; decide)) [toJsonTokens, inline_words,
    inline_docs]

theorem inline_fromJsonTokens (code : FamilyCode) : Inline code.fromJsonTokens := by
  simp (disch := (rw [String.toList_ofList]; decide)) [fromJsonTokens, orUnknownLabel,
    inline_words, inline_docs]

theorem inline_constantTokens (h : code.Named) : Inline code.constantTokens := by
  have hconstants : ∀ a b, (a, b) ∈ code.constants → (Token.constant a).Inline :=
    fun a b hmem => Token.inline_constant (h.constants (a, b) hmem)
  simp (disch := (rw [String.toList_ofList]; decide)) [constantTokens, inline_words,
    h.inline_ty, h.inline_literal]
  exact hconstants

theorem inline_implementations (h : code.Named) :
    Inline code.displayTokens ∧ Inline code.fromStrTokens ∧ Inline code.conversionTokens ∧
      Inline code.serializeTokens ∧ Inline code.deserializeTokens := by
  simp (disch := (rw [String.toList_ofList]; decide)) [displayTokens, fromStrTokens,
    conversionTokens, serializeTokens, deserializeTokens, orUnknownLabel, int, inline_words,
    h.inline_ty]

theorem inline_tokens (h : code.Named) : Inline code.tokens := by
  simp (disch := (rw [String.toList_ofList]; decide)) [tokens, inherentTokens, inline_words,
    h.inline_typeTokens, h.inline_ty, h.inline_tables, inline_accessorTokens, h.inline_lookups,
    inline_toJsonTokens, inline_fromJsonTokens, h.inline_constantTokens, h.inline_implementations]

end Named

end FamilyCode

open Emit Source

/-- The code of a family whose name is an identifier has no other names. -/
theorem Family.named_code {f : Family} (h : isIdentifier f.name = true) (width : Width) :
    (f.code width).Named where
  name := h
  arms := by
    intro e he
    obtain ⟨m, -, rfl⟩ := List.mem_map.1 he
    exact isIdentifier_constant h m
  constants := by
    intro e he
    obtain ⟨m, -, rfl⟩ := List.mem_map.1 he
    exact isIdentifier_constant h m

theorem Library.inline_tokens {library : Library} {width : Width}
    (h : ∀ name ∈ library.identifiers width, isIdentifier name = true) :
    Inline (library.tokens width) := by
  rw [tokens, inline_append, inline_flatMap]
  refine ⟨inline_preamble, ?_⟩
  intro f hf
  have hname : f.name ∈ library.identifiers width :=
    List.mem_flatMap.2 ⟨f, hf, List.mem_cons_self⟩
  exact (f.named_code (h f.name hname) width).inline_tokens

def Emit.comment : String :=
  "// @generated by enumgen. Do not edit by hand: change the enum table and regenerate."

theorem Emit.header_eq : header.toList = comment.toList ++ ['\n', '\n'] := by
  rw [header, comment, String.toList_ofList, String.toList_ofList]
  rfl

theorem Emit.comment_inline : ∀ c ∈ comment.toList, isControl c = false := by
  rw [comment, String.toList_ofList]
  exact fun _ hc => isControl_of_all (by decide) hc

/-- A text of three lines: a comment, nothing, and code. Nothing but a line feed ends them. -/
structure Emit.Lines (text comment code : List Char) : Prop where
  text_eq : text = comment ++ '\n' :: '\n' :: code ++ ['\n']
  comment_inline : ∀ c ∈ comment, isControl c = false
  code_inline : ∀ c ∈ code, isControl c = false

/-- The literal of each text, on its own, is a token that denotes the text; it holds no control
character, and between its quotes every quote is escaped. The literal of each number is a token that
denotes the number. So a generated text is the header and one line of tokens. -/
theorem literals_denote :
    (∀ s : String, ∃ body, (Token.text s).render.toList = '"' :: body ++ ['"'] ∧
      hasBareQuote body = false ∧ (∀ c ∈ body, isControl c = false) ∧
      literalLength (Token.text s).render.toList = some (Token.text s).render.length ∧
      stringValue? (Token.text s).render = some s.toList) ∧
    (∀ v : UInt64,
      literalLength (Token.number v).render.toList = some (Token.number v).render.length ∧
        wholeValue? (Token.number v).render.toList = some v.toNat) ∧
    header.toList = comment.toList ++ ['\n', '\n'] ∧
    ∀ library options text, (generate library options).result = .ok text →
      Lines text.toList comment.toList (render (library.tokens options.width)).toList := by
  refine ⟨?_, ?_, header_eq, ?_⟩
  · intro s
    refine ⟨literalBody s.toList, ?_, hasBareQuote_literalBody s.toList, ?_, ?_⟩
    · rw [Token.render, stringLiteral, String.toList_ofList]
    · exact fun c hc => isControl_of_mem_literalBody hc
    · exact stringLiteral_read s.toList
  · exact fun v => ⟨literalLength_number v, wholeValue?_number v⟩
  · intro library options text h
    obtain ⟨-, hids, rfl⟩ := (generate_eq_ok_iff library options text).1 h
    have hbreak : "\n".toList = ['\n'] := rfl
    refine ⟨?_, comment_inline, ?_⟩
    · rw [Library.text, String.toList_append, String.toList_append, header_eq, hbreak,
        List.append_assoc comment.toList]
      rfl
    · intro c hc
      rw [toList_render] at hc
      exact isControl_of_mem_lettersAfter (Library.inline_tokens hids) hc

/-- Labels that cannot stand in a literal as they are: a quote and a line feed, a zero before a
digit, and a separator of lines. -/
def Library.brokenLines : Library where
  families := [⟨"Sign", [⟨"a\"\nb", 1⟩, ⟨"\x007", 2⟩, ⟨"c\u2028", 3⟩], by decide⟩]
  sorted := by decide

theorem brokenLines_in_one_line :
    Lines (Library.brokenLines.text .u32).toList comment.toList
      (render (Library.brokenLines.tokens .u32)).toList := by
  have hgenerate : (generate Library.brokenLines .default).result =
      .ok (Library.brokenLines.text .u32) :=
    generate_of_validate (by decide +kernel) (by decide +kernel)
  exact literals_denote.2.2.2 Library.brokenLines .default _ hgenerate

end EnumForge
