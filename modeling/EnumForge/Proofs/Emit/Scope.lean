import EnumForge.Proofs.Emission

namespace EnumForge

namespace Emit

/-- Where a token stands: in some number of brackets, between the word that an item begins with and
its name, or in an import after some word. -/
inductive Site
  | brackets (depth : Nat)
  | naming
  | importing (last : Option String)
deriving DecidableEq, Repr

/-- Words that the name of an item comes after. -/
def itemWords : List String :=
  ["const", "enum", "fn", "mod", "static", "struct", "trait", "type", "union"]

def openingWords : List String := ["(", "[", "\x7b"]

def closingWords : List String := [")", "]", "\x7d"]

/-- Goes past a token: where the next one stands, and the name that the file gets here. An import
gives a name at the end of each path, which is its last word. -/
def Site.next : Site → Token → Site × List String
  | .brackets depth, .word w =>
    if openingWords.contains w then (.brackets (depth + 1), [])
    else if closingWords.contains w then (.brackets (depth - 1), [])
    else if depth = 0 ∧ w = "use" then (.importing none, [])
    else if depth = 0 ∧ itemWords.contains w then (.naming, [])
    else (.brackets depth, [])
  | .brackets depth, _ => (.brackets depth, [])
  | .naming, .word w => if itemWords.contains w then (.naming, []) else (.brackets 0, [w])
  | .naming, t => (.brackets 0, [t.render])
  | .importing last, t =>
    if t = .word ";" then (.brackets 0, last.toList)
    else if t = .word "," ∨ t = .word "\x7d" then (.importing none, last.toList)
    else if t = .word "::" ∨ t = .word "\x7b" then (.importing none, [])
    else (.importing (some t.render), [])

/-- Goes past some tokens: where the next one stands, and the names that the file gets. -/
def scanNames (site : Site) : List Token → Site × List String
  | [] => (site, [])
  | t :: ts =>
    let (site, here) := site.next t
    let (site, later) := scanNames site ts
    (site, here ++ later)

/-- Names that a file of some tokens defines or imports, from left to right. -/
def fileNames (ts : List Token) : List String := (scanNames (.brackets 0) ts).2

theorem scanNames_append (site : Site) (xs ys : List Token) :
    scanNames site (xs ++ ys) =
      ((scanNames (scanNames site xs).1 ys).1,
        (scanNames site xs).2 ++ (scanNames (scanNames site xs).1 ys).2) := by
  induction xs generalizing site with
  | nil => rfl
  | cons x xs ih => simp only [List.cons_append, scanNames, ih, List.append_assoc]

/-- Tokens that lead from one place to another and give some names on the way. -/
def Scans (p : Site) (ts : List Token) (q : Site) (names : List String) : Prop :=
  scanNames p ts = (q, names)

namespace Scans

variable {p q r : Site} {xs ys : List Token} {a b : List String}

theorem append (hx : Scans p xs q a) (hy : Scans q ys r b) : Scans p (xs ++ ys) r (a ++ b) := by
  unfold Scans at *
  rw [scanNames_append, hx, hy]

theorem cons {t : Token} (ht : p.next t = (q, a)) (hx : Scans q xs r b) :
    Scans p (t :: xs) r (a ++ b) := by
  unfold Scans at *
  simp only [scanNames, ht, hx]

/-- Pieces each of which ends where it began. -/
theorem flatMap {α : Type} {f : α → List Token} {names : α → List String}
    (h : ∀ x, Scans p (f x) p (names x)) (l : List α) :
    Scans p (l.flatMap f) p (l.flatMap names) := by
  induction l with
  | nil => rfl
  | cons x l ih => exact (h x).append ih

theorem flatMap_nil {α : Type} {f : α → List Token} (h : ∀ x, Scans p (f x) p []) (l : List α) :
    Scans p (l.flatMap f) p [] := by
  have hflat := flatMap h l
  rwa [List.flatMap_eq_nil_iff.2 fun _ _ => rfl] at hflat

/-- Entries with a comma between each two, where a comma does not lead away. -/
theorem separated {α : Type} {entry : α → List Token} (hcomma : Scans p (words ",") p [])
    (hentry : ∀ e, Scans p (entry e) p []) (entries : List α) :
    Scans p (FamilyCode.separated (entries.map entry)) p [] := by
  cases entries with
  | nil => rfl
  | cons e es =>
    rw [List.map_cons, FamilyCode.separated_cons, List.flatMap_map]
    exact (hentry e).append (flatMap_nil (fun d => hcomma.append (hentry d)) es)

end Scans

/-- Tokens inside some brackets, which close the brackets that they open and give the file no
name. -/
abbrev Enclosed (depth : Nat) (ts : List Token) : Prop :=
  Scans (.brackets depth) ts (.brackets depth) []

/-- Tokens that make up whole items. -/
abbrev Declares (ts : List Token) (names : List String) : Prop :=
  Scans (.brackets 0) ts (.brackets 0) names

theorem Declares.fileNames_eq {ts : List Token} {names : List String} (h : Declares ts names) :
    fileNames ts = names :=
  congrArg Prod.snd h

theorem Enclosed.braces {depth : Nat} {ts : List Token} (h : Enclosed (depth + 1) ts) :
    Enclosed depth (braces ts) := by
  have hclose : Scans (.brackets (depth + 1)) [.word "\x7d"] (.brackets depth) [] := rfl
  exact Scans.cons rfl (h.append hclose)

theorem declares_imports :
    Declares imports ["fmt", "de", "Deserialize", "Deserializer", "Serialize", "Serializer"] := by
  unfold Declares Scans
  simp only [imports]
  repeat rw [words_ofList]
  rfl

theorem declares_errorType : Declares errorType ["EnumTextError"] := by
  unfold Declares Scans
  simp only [errorType, docs]
  repeat rw [words_ofList]
  rfl

set_option maxRecDepth 2000 in
theorem declares_errorMethods : Declares errorMethods [] := by
  unfold Declares Scans
  simp only [errorMethods, errorFieldArms, docs]
  repeat rw [words_ofList]
  rfl

theorem declares_errorDisplay : Declares errorDisplay [] := by
  unfold Declares Scans
  simp only [errorDisplay]
  repeat rw [words_ofList]
  rfl

theorem declares_errorSource : Declares errorSource [] := by
  unfold Declares Scans
  simp only [errorSource]
  repeat rw [words_ofList]
  rfl

theorem declares_preamble :
    Declares preamble ["fmt", "de", "Deserialize", "Deserializer", "Serialize", "Serializer",
      "EnumTextError"] :=
  (((declares_imports.append declares_errorType).append declares_errorMethods).append
    declares_errorDisplay).append declares_errorSource

end Emit

/-! The block of a family. -/

namespace FamilyCode

open Emit

variable (code : FamilyCode)

theorem declares_typeTokens : Declares code.typeTokens [code.name] := by
  unfold Declares Scans
  simp only [typeTokens]
  repeat rw [words_ofList]
  rfl

/-- A table of the type, from the word that its documentation begins with to its semicolon. -/
theorem enclosed_table {α : Type} {head : List Token} {entry : α → List Token}
    (hhead : Scans (.brackets 1) head (.brackets 2) []) (hentry : ∀ e, Enclosed 2 (entry e))
    (entries : List α) :
    Enclosed 1 (head ++ separated (entries.map entry) ++ words "] ;") := by
  have hcomma : Enclosed 2 (words ",") := rfl
  have hentries := Scans.separated hcomma hentry entries
  have hend : Scans (.brackets 2) (words "] ;") (.brackets 1) [] := rfl
  exact (hhead.append hentries).append hend

theorem enclosed_namesTokens : Enclosed 1 code.namesTokens := by
  have hhead : Scans (.brackets 1)
      (docs " Declared members as `(value, label)`, in ascending value order." ++
        words "pub const NAMES : & 'static [ (" ++
        code.ty :: words ", & 'static str ) ] = & [") (.brackets 2) [] := by
    unfold Scans
    simp only [docs]
    repeat rw [words_ofList]
    rfl
  refine enclosed_table hhead ?_ code.names
  intro e
  rfl

theorem enclosed_valuesTokens : Enclosed 1 code.valuesTokens := by
  have hhead : Scans (.brackets 1)
      (docs " Declared members as `(label, value)`, in ascending value order." ++
        words "pub const VALUES : & 'static [ ( & 'static str ," ++
        code.ty :: words ") ] = & [") (.brackets 2) [] := by
    unfold Scans
    simp only [docs]
    repeat rw [words_ofList]
    rfl
  refine enclosed_table hhead ?_ code.values
  intro e
  rfl

theorem enclosed_accessorTokens : Enclosed 1 code.accessorTokens := by
  unfold Enclosed Scans
  simp only [accessorTokens]
  repeat rw [words_ofList]
  rfl

/-- Arms of a look-up, with the arm for what is left. -/
theorem enclosed_arms {α : Type} {subject : List Token} {arm : α → List Token}
    (hsubject : Enclosed 2 subject) (harm : ∀ e, Enclosed 3 (arm e)) (arms : List α) :
    Enclosed 1 (braces (subject ++
      braces (arms.flatMap arm ++ words "_ => :: core :: option :: Option :: None ,"))) := by
  have hrest : Enclosed 3 (words "_ => :: core :: option :: Option :: None ,") := rfl
  have harms := Scans.flatMap_nil harm arms
  exact Enclosed.braces (hsubject.append (Enclosed.braces (harms.append hrest)))

theorem enclosed_nameTokens : Enclosed 1 code.nameTokens := by
  have hhead : Enclosed 1
      (docs " Declared label of this value, if any." ++
        words "pub fn name ( self ) -> :: core :: option :: Option < & 'static str >") := by
    unfold Enclosed Scans
    simp only [docs]
    repeat rw [words_ofList]
    rfl
  have harm (e : UInt64 × String) : Enclosed 3 (.number e.1 ::
      (words "=> :: core :: option :: Option :: Some (" ++ .text e.2 :: words ") ,")) := by
    unfold Enclosed Scans
    repeat rw [words_ofList]
    rfl
  have hsubject : Enclosed 2 (words "match self . 0") := rfl
  exact hhead.append (enclosed_arms hsubject harm code.nameArms)

theorem enclosed_fromNameTokens : Enclosed 1 code.fromNameTokens := by
  have hhead : Enclosed 1
      (docs " Value declared for `name`, if any." ++
        words "pub fn from_name ( name : & str ) -> :: core :: option :: Option < Self >") := by
    unfold Enclosed Scans
    simp only [docs]
    repeat rw [words_ofList]
    rfl
  have harm (e : String × String) : Enclosed 3 (.text e.1 ::
      (words "=> :: core :: option :: Option :: Some (" ++ .constant e.2 :: words ") ,")) := by
    unfold Enclosed Scans
    repeat rw [words_ofList]
    rfl
  have hsubject : Enclosed 2 (words "match name") := rfl
  exact hhead.append (enclosed_arms hsubject harm code.fromNameArms)

theorem enclosed_toJsonTokens : Enclosed 1 toJsonTokens := by
  unfold Enclosed Scans
  simp only [toJsonTokens, docs]
  repeat rw [words_ofList]
  rfl

set_option maxRecDepth 2000 in
theorem enclosed_fromJsonTokens : Enclosed 1 code.fromJsonTokens := by
  unfold Enclosed Scans
  simp only [fromJsonTokens, docs, orUnknownLabel]
  repeat rw [words_ofList]
  rfl

theorem declares_inherentTokens : Declares code.inherentTokens [] := by
  have hinner := (((((code.enclosed_namesTokens.append code.enclosed_valuesTokens).append
    code.enclosed_accessorTokens).append code.enclosed_nameTokens).append
    code.enclosed_fromNameTokens).append enclosed_toJsonTokens).append code.enclosed_fromJsonTokens
  have hhead : Declares (words "impl") [] := rfl
  exact hhead.append (Scans.cons rfl (Enclosed.braces hinner))

theorem declares_constantTokens : Declares code.constantTokens (code.constants.map (·.1)) := by
  have hconstant (e : String × UInt64) : Declares
      (words "# [ allow ( non_upper_case_globals ) ] pub const" ++ .constant e.1 :: words ":" ++
        code.ty :: words "=" ++ code.literal e.2 ++ words ";") [e.1] := by
    unfold Declares Scans
    repeat rw [words_ofList]
    rfl
  rw [List.map_eq_flatMap]
  exact Scans.flatMap hconstant code.constants

theorem declares_displayTokens : Declares code.displayTokens [] := by
  unfold Declares Scans
  simp only [displayTokens]
  repeat rw [words_ofList]
  rfl

set_option maxRecDepth 2000 in
theorem declares_fromStrTokens : Declares code.fromStrTokens [] := by
  unfold Declares Scans
  simp only [fromStrTokens, orUnknownLabel]
  repeat rw [words_ofList]
  rfl

theorem declares_conversionTokens : Declares code.conversionTokens [] := by
  unfold Declares Scans
  simp only [conversionTokens]
  repeat rw [words_ofList]
  rfl

theorem declares_serializeTokens : Declares code.serializeTokens [] := by
  unfold Declares Scans
  simp only [serializeTokens]
  repeat rw [words_ofList]
  rfl

set_option maxRecDepth 2000 in
theorem declares_deserializeTokens : Declares code.deserializeTokens [] := by
  unfold Declares Scans
  simp only [deserializeTokens, orUnknownLabel]
  repeat rw [words_ofList]
  rfl

/-- The block of a family gives the file the names that its code defines. -/
theorem declares_tokens : Declares code.tokens code.identifiers := by
  have hitems := (((((((code.declares_typeTokens.append code.declares_inherentTokens).append
    code.declares_constantTokens).append code.declares_displayTokens).append
    code.declares_fromStrTokens).append code.declares_conversionTokens).append
    code.declares_serializeTokens).append code.declares_deserializeTokens)
  simp only [List.append_nil] at hitems
  exact hitems

end FamilyCode

open Emit Naming

theorem declares_libraryTokens (width : Width) (library : Library) :
    Declares (library.tokens width)
      (["fmt", "de", "Deserialize", "Deserializer", "Serialize", "Serializer", "EnumTextError"] ++
        library.identifiers width) := by
  rw [Library.tokens, Library.identifiers]
  refine declares_preamble.append (Scans.flatMap ?_ library.families)
  intro f
  rw [Family.tokens]
  exact (f.code width).declares_tokens

theorem fileNames_perm (width : Width) (library : Library) :
    (fileNames (library.tokens width)).Perm (preambleNames ++ library.identifiers width) := by
  have hpreamble : ["fmt", "de", "Deserialize", "Deserializer", "Serialize", "Serializer",
      "EnumTextError"].Perm preambleNames := by decide
  rw [(declares_libraryTokens width library).fileNames_eq]
  exact hpreamble.append_right _

theorem underscore_mem_constant (family : String) (m : Member) :
    '_' ∈ (m.constant family).toList := by
  simp [Member.constant]

/-- Neither a family nor a constant has a name that is taken. -/
theorem Library.Accepted.not_taken {library : Library} {options : Options}
    (h : library.Accepted options) {name : String}
    (hname : name ∈ library.identifiers options.width) :
    name ∉ preambleNames ∧ name ∉ primitiveTypes := by
  have hplain : ∀ taken ∈ preambleNames ++ primitiveTypes, '_' ∉ taken.toList := by decide
  obtain ⟨f, hf, hname⟩ := List.mem_flatMap.1 hname
  rw [FamilyCode.identifiers_code, List.mem_cons, List.mem_map] at hname
  rcases hname with rfl | ⟨m, -, rfl⟩
  · exact ((checkFamilyName_eq_ok_iff f.name).1 (h.sound f hf).name).1
  · have hmark := underscore_mem_constant f.name m
    exact ⟨fun htaken => hplain _ (List.mem_append_left _ htaken) hmark,
      fun htaken => hplain _ (List.mem_append_right _ htaken) hmark⟩

theorem Width.typeName_mem_primitiveTypes (w : Width) : w.typeName ∈ primitiveTypes := by
  cases w <;> decide

/-- The names at the scope of a file are those of the preamble, of each family and of each member's
constant. No two are the same, and none that comes from the library hides a primitive type. -/
theorem file_scope_unambiguous {library : Library} {options : Options} {text : String}
    (h : (generate library options).result = .ok text) :
    text = header ++ render (library.tokens options.width) ++ "\n" ∧
      (fileNames (library.tokens options.width)).Perm
        (preambleNames ++ library.families.flatMap fun f =>
          f.name :: f.members.map (Member.constant f.name)) ∧
      (fileNames (library.tokens options.width)).Nodup ∧
      ∀ f ∈ library.families, ∀ name ∈ f.name :: f.members.map (Member.constant f.name),
        name ∉ primitiveTypes ∧ ∀ w : Width, name ≠ w.typeName := by
  obtain ⟨ha, -, rfl⟩ := (generate_eq_ok_iff library options text).1 h
  have hidentifiers : library.identifiers options.width =
      library.families.flatMap fun f => f.name :: f.members.map (Member.constant f.name) := by
    simp only [Library.identifiers, FamilyCode.identifiers_code]
  have hperm := fileNames_perm options.width library
  refine ⟨rfl, hidentifiers ▸ hperm, ?_, ?_⟩
  · have hpreamble : preambleNames.Nodup := by decide
    rw [hperm.nodup_iff]
    refine hpreamble.append ha.distinct ?_
    intro name htaken hname
    exact (ha.not_taken hname).1 htaken
  · intro f hf name hname
    have hmem : name ∈ library.identifiers options.width :=
      hidentifiers ▸ List.mem_flatMap.2 ⟨f, hf, hname⟩
    refine ⟨(ha.not_taken hmem).2, ?_⟩
    rintro w rfl
    exact (ha.not_taken hmem).2 w.typeName_mem_primitiveTypes

/-- Two families, one of which is named like the beginning of the other's constant. -/
def Library.nested : Library where
  families := [⟨"Foo", [⟨"BAR_X", 1⟩], by decide⟩, ⟨"Foo_BAR", [⟨"Y", 1⟩], by decide⟩]
  sorted := by decide

theorem nested_file_scope :
    (fileNames (Library.nested.tokens .u32)).Perm
        (preambleNames ++ ["Foo", "Foo_BAR_X", "Foo_BAR", "Foo_BAR_Y"]) ∧
      (fileNames (Library.nested.tokens .u32)).Nodup := by
  have hgenerate : (generate Library.nested .default).result = .ok (Library.nested.text .u32) :=
    generate_of_validate (by decide +kernel) (by decide +kernel)
  have hnames : (Library.nested.families.flatMap fun f =>
      f.name :: f.members.map (Member.constant f.name)) =
        ["Foo", "Foo_BAR_X", "Foo_BAR", "Foo_BAR_Y"] := by
    decide +kernel
  obtain ⟨-, hperm, hnodup, -⟩ := file_scope_unambiguous hgenerate
  rw [hnames] at hperm
  exact ⟨hperm, hnodup⟩

end EnumForge
