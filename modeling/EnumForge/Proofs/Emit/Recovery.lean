import EnumForge.Proofs.Emission
import EnumForge.Proofs.Source.Literal

/-!
What can be read back from generated text. The fixed words of the template stand at the same places
for every library; between them a name ends at a blank, a number at its bracket, and a literal at its
closing quote. So from left to right each family's name, its integer type and its table of labels are
told by the text, and with them the family.
-/

namespace EnumForge

namespace Emit

/-- Letters of some tokens after a token. -/
def lettersAfter (left : Token) (ts : List Token) : List Char :=
  (renderAfter left ts).flatMap String.toList

theorem lettersAfter_cons (left t : Token) (ts : List Token) :
    lettersAfter left (t :: ts) =
      (gap left t).toList ++ (t.render.toList ++ lettersAfter t ts) := by
  simp [lettersAfter, renderAfter]

theorem lettersAfter_append (left : Token) (xs ys : List Token) :
    lettersAfter left (xs ++ ys) = lettersAfter left xs ++ lettersAfter (xs.getLastD left) ys := by
  induction xs generalizing left with
  | nil => rfl
  | cons x xs ih =>
    rw [List.cons_append, lettersAfter_cons, lettersAfter_cons, ih, List.getLastD_cons]
    simp only [List.append_assoc]

/-- Tokens on a line of their own are written as after an opening bracket. -/
theorem toList_render (ts : List Token) : (render ts).toList = lettersAfter (.word "(") ts := by
  cases ts with
  | nil => rfl
  | cons t ts =>
    rw [render, String.toList_join, List.flatMap_cons, lettersAfter_cons]
    rfl

variable {left t u : Token} {x y : List Token} {p q : List Char}

/-- The same tokens at the front of two texts tell nothing. -/
theorem lettersAfter_append_inj (ts : List Token) :
    lettersAfter left (ts ++ x) ++ p = lettersAfter left (ts ++ y) ++ q ↔
      lettersAfter (ts.getLastD left) x ++ p = lettersAfter (ts.getLastD left) y ++ q := by
  rw [lettersAfter_append, lettersAfter_append, List.append_assoc, List.append_assoc,
    List.append_cancel_left_eq]

theorem lettersAfter_cons_inj :
    lettersAfter left (t :: x) ++ p = lettersAfter left (t :: y) ++ q ↔
      lettersAfter t x ++ p = lettersAfter t y ++ q :=
  lettersAfter_append_inj [t]

/-- Equal texts begin with the same letter. -/
theorem first_eq {c d : Char} (h : lettersAfter left x ++ p = lettersAfter left y ++ q)
    (hx : ∃ v, lettersAfter left x = c :: v) (hy : ∃ w, lettersAfter left y = d :: w) : c = d := by
  obtain ⟨v, hv⟩ := hx
  obtain ⟨w, hw⟩ := hy
  rw [hv, hw] at h
  exact (List.cons.inj h).1

theorem eq_of_append_cons {c : Char} {a b v w : List Char} (ha : c ∉ a) (hb : c ∉ b)
    (h : a ++ c :: v = b ++ c :: w) : a = b ∧ v = w := by
  induction a generalizing b with
  | nil =>
    cases b with
    | nil => exact ⟨rfl, (List.cons.inj h).2⟩
    | cons d b => exact absurd (List.cons.inj h).1 (List.ne_of_not_mem_cons hb)
  | cons d a ih =>
    cases b with
    | nil => exact absurd (List.cons.inj h).1.symm (List.ne_of_not_mem_cons ha)
    | cons e b =>
      obtain ⟨rfl, htail⟩ := List.cons.inj h
      obtain ⟨rfl, hrest⟩ :=
        ih (List.not_mem_of_not_mem_cons ha) (List.not_mem_of_not_mem_cons hb) htail
      exact ⟨rfl, hrest⟩

/-- Of two tokens before the same one, neither holds the letter that the text goes on with; then
they are told by their letters. -/
theorem token_inj {next : Token} {c : Char} (g : String) (z : List Char)
    (h : lettersAfter left (t :: next :: x) ++ p = lettersAfter left (u :: next :: y) ++ q)
    (hcloses : t.closes = u.closes) (ht : gap t next = g) (hu : gap u next = g)
    (hg : g.toList ++ next.render.toList = c :: z)
    (htc : c ∉ t.render.toList) (huc : c ∉ u.render.toList) :
    t.render = u.render ∧ lettersAfter next x ++ p = lettersAfter next y ++ q := by
  have hgap : gap left t = gap left u := by rw [gap, gap, hcloses]
  have hfirst (v : List Char) : g.toList ++ (next.render.toList ++ v) = c :: (z ++ v) := by
    rw [← List.append_assoc, hg, List.cons_append]
  simp only [lettersAfter_cons, hgap, ht, hu, List.append_assoc, List.append_cancel_left_eq, hfirst,
    List.cons_append] at h
  obtain ⟨hrender, hrest⟩ := eq_of_append_cons htc huc h
  exact ⟨String.toList_inj.1 hrender, List.append_cancel_left hrest⟩

theorem family_inj {a b : String} (ha : ' ' ∉ a.toList) (hb : ' ' ∉ b.toList)
    (h : lettersAfter left (.family a :: .word "(" :: x) ++ p =
      lettersAfter left (.family b :: .word "(" :: y) ++ q) :
    a = b ∧ lettersAfter (.word "(") x ++ p = lettersAfter (.word "(") y ++ q :=
  token_inj " " ['('] h rfl rfl rfl rfl ha hb

theorem integer_inj {v w : Width}
    (h : lettersAfter left (.integer v :: .word ")" :: x) ++ p =
      lettersAfter left (.integer w :: .word ")" :: y) ++ q) :
    v = w ∧ lettersAfter (.word ")") x ++ p = lettersAfter (.word ")") y ++ q := by
  have hfree (w : Width) : ')' ∉ (Token.integer w).render.toList := by
    cases w <;> decide
  obtain ⟨hname, hrest⟩ := token_inj "" [] h rfl rfl rfl rfl (hfree v) (hfree w)
  have hwidth : some v = some w := by
    rw [← Width.ofName?_typeName v, ← Width.ofName?_typeName w]
    exact congrArg Width.ofName? hname
  exact ⟨Option.some.inj hwidth, hrest⟩

theorem number_inj {v w : UInt64}
    (h : lettersAfter left (.number v :: .word ")" :: x) ++ p =
      lettersAfter left (.number w :: .word ")" :: y) ++ q) :
    v = w ∧ lettersAfter (.word ")") x ++ p = lettersAfter (.word ")") y ++ q := by
  have hfree (v : UInt64) : ')' ∉ (Token.number v).render.toList := by
    have hdigit : ')' ∉ Text.hexUpper v.toNat := by
      intro hmem
      obtain ⟨d, hd⟩ := Text.hexDigit?_of_mem (Text.hexValue?_hexUpper v.toNat) hmem
      exact absurd hd (by simp [Text.hexDigit?])
    simp [Token.render, hdigit]
  obtain ⟨hname, hrest⟩ := token_inj "" [] h rfl rfl rfl rfl (hfree v) (hfree w)
  have hvalue := congrArg (fun s => Source.wholeValue? s.toList) hname
  simp only [Source.wholeValue?_number, Option.some.injEq] at hvalue
  exact ⟨UInt64.toNat_inj.1 hvalue, hrest⟩

theorem text_inj {s r : String}
    (h : lettersAfter left (.text s :: x) ++ p = lettersAfter left (.text r :: y) ++ q) :
    s = r ∧ lettersAfter (.text s) x ++ p = lettersAfter (.text s) y ++ q := by
  have hgap : gap left (.text s) = gap left (.text r) := rfl
  have hnext (z : List Token) : lettersAfter (.text r) z = lettersAfter (.text s) z := by
    cases z with
    | nil => rfl
    | cons z zs =>
      rw [lettersAfter_cons, lettersAfter_cons]
      rfl
  simp only [lettersAfter_cons, hgap, List.append_assoc, List.append_cancel_left_eq] at h
  obtain ⟨hs, hrest⟩ := Source.stringLiteral_append_inj h
  refine ⟨String.toList_inj.1 hs, ?_⟩
  rw [hrest, hnext]

end Emit

namespace FamilyCode

open Emit

variable (code : FamilyCode) {left : Token} {x y : List Token} {p q : List Char}

/-- An entry of the table of labels by value. -/
def entryTokens (e : UInt64 × String) : List Token :=
  words "(" ++ code.literal e.1 ++ words "," ++ .text e.2 :: words ")"

theorem entryTokens_eq (e : UInt64 × String) :
    code.entryTokens e =
      [.word "(", code.ty, .word "(", .number e.1, .word ")", .word ",", .text e.2, .word ")"] :=
  rfl

theorem entry_inj {d e : UInt64 × String}
    (h : lettersAfter left (code.entryTokens d ++ x) ++ p =
      lettersAfter left (code.entryTokens e ++ y) ++ q) :
    d = e ∧ lettersAfter (.word ")") x ++ p = lettersAfter (.word ")") y ++ q := by
  simp only [entryTokens_eq, List.cons_append, List.nil_append, lettersAfter_cons_inj] at h
  obtain ⟨hvalue, h⟩ := number_inj h
  rw [lettersAfter_cons_inj] at h
  obtain ⟨hlabel, h⟩ := text_inj h
  rw [lettersAfter_cons_inj] at h
  exact ⟨Prod.ext hvalue hlabel, h⟩

/-- After an entry the table either ends or goes on, and the next letter tells which. -/
theorem entries_inj {ds es : List (UInt64 × String)}
    (h : lettersAfter (.word ")")
        (ds.flatMap (fun e => words "," ++ code.entryTokens e) ++ .word "]" :: x) ++ p =
      lettersAfter (.word ")")
        (es.flatMap (fun e => words "," ++ code.entryTokens e) ++ .word "]" :: y) ++ q) :
    ds = es ∧ lettersAfter (.word "]") x ++ p = lettersAfter (.word "]") y ++ q := by
  have hcomma : words "," = [.word ","] := rfl
  have hmore (z : List Token) : ∃ v, lettersAfter (.word ")") (.word "," :: z) = ' ' :: v := by
    rw [lettersAfter_cons]
    exact ⟨_, rfl⟩
  have hend (z : List Token) : ∃ v, lettersAfter (.word ")") (.word "]" :: z) = ']' :: v := by
    rw [lettersAfter_cons]
    exact ⟨_, rfl⟩
  induction ds generalizing es with
  | nil =>
    cases es with
    | nil => exact ⟨rfl, lettersAfter_cons_inj.1 h⟩
    | cons e es =>
      simp only [List.flatMap_nil, List.nil_append, List.flatMap_cons, hcomma, List.cons_append] at h
      exact absurd (first_eq h (hend x) (hmore _)) (by decide)
  | cons d ds ih =>
    cases es with
    | nil =>
      simp only [List.flatMap_nil, List.nil_append, List.flatMap_cons, hcomma, List.cons_append] at h
      exact absurd (first_eq h (hmore _) (hend y)) (by decide)
    | cons e es =>
      simp only [List.flatMap_cons, List.append_assoc, lettersAfter_append_inj] at h
      obtain ⟨hentry, h⟩ := code.entry_inj h
      obtain ⟨hentries, h⟩ := ih h
      exact ⟨by rw [hentry, hentries], h⟩

/-- The whole table, which an opening bracket comes before. -/
theorem table_inj {ds es : List (UInt64 × String)}
    (h : lettersAfter (.word "[")
        (separated (ds.map code.entryTokens) ++ .word "]" :: x) ++ p =
      lettersAfter (.word "[") (separated (es.map code.entryTokens) ++ .word "]" :: y) ++ q) :
    ds = es := by
  have hentry (e : UInt64 × String) (z : List Token) :
      ∃ v, lettersAfter (.word "[") (code.entryTokens e ++ z) = '(' :: v := by
    rw [entryTokens_eq, List.cons_append, lettersAfter_cons]
    exact ⟨_, rfl⟩
  have hend (z : List Token) : ∃ v, lettersAfter (.word "[") (.word "]" :: z) = ']' :: v := by
    rw [lettersAfter_cons]
    exact ⟨_, rfl⟩
  cases ds with
  | nil =>
    cases es with
    | nil => rfl
    | cons e es =>
      rw [List.map_nil, List.map_cons, separated_cons, separated, List.nil_append,
        List.append_assoc] at h
      exact absurd (first_eq h (hend x) (hentry e _)) (by decide)
  | cons d ds =>
    cases es with
    | nil =>
      rw [List.map_nil, List.map_cons, separated_cons, separated, List.nil_append,
        List.append_assoc] at h
      exact absurd (first_eq h (hentry d _) (hend y)) (by decide)
    | cons e es =>
      rw [List.map_cons, List.map_cons, separated_cons, separated_cons, List.append_assoc,
        List.append_assoc, List.flatMap_map, List.flatMap_map] at h
      obtain ⟨hentry, h⟩ := code.entry_inj h
      obtain ⟨hentries, -⟩ := code.entries_inj h
      rw [hentry, hentries]

/-- The text of a block tells the name of its family, its integer type and its table. -/
theorem tokens_inj (other : FamilyCode) (hcode : ' ' ∉ code.name.toList)
    (hother : ' ' ∉ other.name.toList)
    (h : lettersAfter left (code.tokens ++ x) ++ p = lettersAfter left (other.tokens ++ y) ++ q) :
    code.name = other.name ∧ code.width = other.width ∧ code.names = other.names := by
  have hpub : words "( pub" = [.word "(", .word "pub"] := rfl
  have hsemicolon : words ") ;" = [.word ")", .word ";"] := rfl
  have hclose : words "] ;" = [.word "]", .word ";"] := rfl
  simp only [tokens, typeTokens, List.append_assoc, List.cons_append, lettersAfter_append_inj,
    hpub, hsemicolon, List.nil_append] at h
  obtain ⟨hname, h⟩ := family_inj hcode hother h
  rw [lettersAfter_cons_inj] at h
  obtain ⟨hwidth, h⟩ := integer_inj h
  have hty : code.ty = other.ty := by rw [ty, ty, hname]
  -- the name is known from here on, so all up to the table is the same
  simp only [inherentTokens, namesTokens, braces, List.append_assoc, List.cons_append,
    lettersAfter_append_inj, lettersAfter_cons_inj, hty] at h
  change lettersAfter _ (separated (code.names.map code.entryTokens) ++ _) ++ p =
    lettersAfter _ (separated (other.names.map other.entryTokens) ++ _) ++ q at h
  have hopen : (words ", & 'static str ) ] = & [").getLastD other.ty = .word "[" := rfl
  have hentry : code.entryTokens = other.entryTokens := by
    funext e
    rw [entryTokens_eq, entryTokens_eq, hty]
  rw [hopen, hentry, hclose] at h
  exact ⟨hname, hwidth, other.table_inj h⟩

theorem tokens_eq_cons : ∃ ts, code.tokens = .word "#" :: ts := by
  have hfirst : words "# [ allow ( non_camel_case_types ) ]" =
      .word "#" :: words "[ allow ( non_camel_case_types ) ]" := rfl
  simp only [tokens, typeTokens, hfirst, List.cons_append]
  exact ⟨_, rfl⟩

end FamilyCode

open Emit Naming

theorem blank_not_mem_of_isWord {s : List Char} (h : Source.isWord s = true) : ' ' ∉ s := by
  have hstart : Source.isWordStart ' ' = false := by decide +kernel
  have hchar : Source.isWordChar ' ' = false := by decide +kernel
  cases s with
  | nil => simp
  | cons c cs =>
    rw [Source.isWord, Bool.and_eq_true, List.all_eq_true] at h
    intro hmem
    rcases List.mem_cons.1 hmem with rfl | hmem
    · exact Bool.false_ne_true (hstart.symm.trans h.1)
    · exact Bool.false_ne_true (hchar.symm.trans (h.2 _ hmem))

/-- Names in a text have no blank in them. -/
theorem blank_not_mem_of_generate {library : Library} {options : Options} {text : String}
    (h : (generate library options).result = .ok text) {f : Family} (hf : f ∈ library.families) :
    ' ' ∉ f.name.toList := by
  obtain ⟨ha, hids, -⟩ := (generate_eq_ok_iff library options text).1 h
  have hid : Source.isIdentifier f.name = true :=
    hids _ (List.mem_flatMap.2 ⟨f, hf, by simp⟩)
  exact blank_not_mem_of_isWord
    (Source.isWord_of_isIdentifier hid (not_raw_of_checkFamilyName (ha.sound f hf).name))

theorem Family.eq_of_code {v w : Width} {f g : Family} (hname : f.name = g.name)
    (hnames : (f.code v).names = (g.code w).names) : f = g := by
  have hinj : Function.Injective fun m : Member => (m.value, m.label) := by
    rintro ⟨l, a⟩ ⟨k, b⟩ h
    obtain ⟨rfl, rfl⟩ := Prod.mk.inj h
    rfl
  have hmembers : f.members = g.members := List.map_injective_iff.2 hinj hnames
  cases f
  cases g
  simp only at hname hmembers
  subst hname hmembers
  rfl

/-- Blocks that make up one text are those of the same families. -/
theorem families_inj {v w : Width} {fs gs : List Family} (left : Token)
    (hfs : ∀ f ∈ fs, ' ' ∉ f.name.toList) (hgs : ∀ g ∈ gs, ' ' ∉ g.name.toList)
    (h : lettersAfter left (fs.flatMap (Family.tokens v)) ++ ['\n'] =
      lettersAfter left (gs.flatMap (Family.tokens w)) ++ ['\n']) :
    fs = gs ∧ (fs ≠ [] → v = w) := by
  have hmore (left : Token) (width : Width) (f : Family) (fs : List Family) :
      lettersAfter left ((f :: fs).flatMap (Family.tokens width)) ++ ['\n'] ≠ ['\n'] := by
    obtain ⟨ts, hts⟩ := (f.code width).tokens_eq_cons
    intro heq
    rw [List.flatMap_cons, Family.tokens, hts, List.cons_append, lettersAfter_cons] at heq
    have hlength := congrArg List.length heq
    simp only [List.length_append, List.length_singleton] at hlength
    have hmark : (Token.word "#").render.toList.length = 1 := rfl
    omega
  induction fs generalizing gs left with
  | nil =>
    cases gs with
    | nil => exact ⟨rfl, fun hne => absurd rfl hne⟩
    | cons g gs => exact absurd h.symm (hmore left w g gs)
  | cons f fs ih =>
    cases gs with
    | nil => exact absurd h (hmore left v f fs)
    | cons g gs =>
      obtain ⟨hf, hfrest⟩ := List.forall_mem_cons.1 hfs
      obtain ⟨hg, hgrest⟩ := List.forall_mem_cons.1 hgs
      rw [List.flatMap_cons, List.flatMap_cons] at h
      obtain ⟨hname, hwidth, hnames⟩ := (f.code v).tokens_inj (g.code w) hf hg h
      have hvw : v = w := hwidth
      have hfg : f = g := Family.eq_of_code hname hnames
      subst hvw hfg
      have hrest := (lettersAfter_append_inj (Family.tokens v f)).1 h
      obtain ⟨hfamilies, -⟩ := ih ((Family.tokens v f).getLastD left) hfrest hgrest hrest
      exact ⟨by rw [hfamilies], fun _ => rfl⟩

theorem toList_text (width : Width) (library : Library) :
    (library.text width).toList =
      header.toList ++ (lettersAfter (.word "(") (library.tokens width) ++ ['\n']) := by
  rw [Library.text, String.toList_append, String.toList_append, toList_render, List.append_assoc]
  rfl

/-- Two texts are the same exactly when they are made from the same library, and with the same
integer type if the library has a family. -/
theorem generated_text_eq_iff {a b : Library} {o p : Options} {s t : String}
    (ha : (generate a o).result = .ok s) (hb : (generate b p).result = .ok t) :
    s = t ↔ a = b ∧ (a.families ≠ [] → o.width = p.width) := by
  obtain ⟨-, -, rfl⟩ := (generate_eq_ok_iff a o s).1 ha
  obtain ⟨-, -, rfl⟩ := (generate_eq_ok_iff b p t).1 hb
  constructor
  · intro h
    have hletters := congrArg String.toList h
    rw [toList_text, toList_text, List.append_cancel_left_eq, Library.tokens, Library.tokens,
      lettersAfter_append_inj] at hletters
    obtain ⟨hfamilies, hwidth⟩ := families_inj _ (fun f => blank_not_mem_of_generate ha)
      (fun g => blank_not_mem_of_generate hb) hletters
    cases a
    cases b
    simp only at hfamilies
    subst hfamilies
    exact ⟨rfl, hwidth⟩
  · rintro ⟨rfl, hwidth⟩
    rw [Library.text, Library.text, Library.tokens, Library.tokens]
    by_cases hempty : a.families = []
    · simp only [hempty, List.flatMap_nil]
    · rw [hwidth hempty]

def Library.twoLabels : Library where
  families := [⟨"Color", [⟨"Red", 1⟩, ⟨"Green", 2⟩], by decide⟩]
  sorted := by decide

/-- The same family with one label, which reads like the code of the two. -/
def Library.codeInLabel : Library where
  families := [⟨"Color", [⟨"Red\") , (Color (0x2) , \"Green", 1⟩], by decide⟩]
  sorted := by decide

theorem codeInLabel_text_ne : Library.twoLabels.text .u32 ≠ Library.codeInLabel.text .u32 := by
  have htwo : (generate Library.twoLabels .default).result = .ok (Library.twoLabels.text .u32) :=
    generate_of_validate (by decide +kernel) (by decide +kernel)
  have hone : (generate Library.codeInLabel .default).result =
      .ok (Library.codeInLabel.text .u32) :=
    generate_of_validate (by decide +kernel) (by decide +kernel)
  have hne : Library.twoLabels ≠ Library.codeInLabel := by decide
  intro h
  exact hne ((generated_text_eq_iff htwo hone).1 h).1

end EnumForge
