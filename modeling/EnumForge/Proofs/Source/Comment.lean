import EnumForge.Proofs.Source.Identifier
import EnumForge.Source.Grammar.Program

namespace EnumForge.Source

/-! Tokens do not depend on the fuel, once there is enough of it. -/

theorem tokensFrom_add {fuel : Nat} {s : List Char} {ts : List Token}
    (h : tokensFrom fuel s = some ts) (k : Nat) : tokensFrom (fuel + k) s = some ts := by
  fun_induction tokensFrom fuel s generalizing ts with
  | case1 => simp at h
  | case2 fuel => rw [Nat.succ_add, tokensFrom, h]
  | case3 fuel c r rest hplain ih =>
    rw [Nat.succ_add, tokensFrom, hplain]
    exact ih h
  | case4 fuel c r hplain hspace ih =>
    rw [Nat.succ_add, tokensFrom, hplain]
    simp only [hspace, if_true]
    exact ih h
  | case5 fuel c r hplain hspace inner text rest hdoc hbare ih =>
    obtain ⟨us, hus, hts⟩ := Option.map_eq_some_iff.1 h
    rw [Nat.succ_add, tokensFrom, hplain, hdoc]
    simp only [hspace, hbare, if_true, ih hus, Option.map_some, hts]
    rfl
  | case6 => simp at h
  | case7 fuel c r hplain hspace hdoc d hd ih =>
    obtain ⟨us, hus, hts⟩ := Option.map_eq_some_iff.1 h
    rw [Nat.succ_add, tokensFrom, hplain, hdoc, hd]
    simp only [hspace, ih hus, Option.map_some, hts]
    rfl
  | case8 fuel c r hplain hspace hdoc d hclosing hopening ih =>
    obtain ⟨us, hus, hts⟩ := Option.map_eq_some_iff.1 h
    have hnone : Delimiter.ofOpening? c = none := by
      cases hd : Delimiter.ofOpening? c with
      | none => rfl
      | some e => exact (hopening e hd).elim
    rw [Nat.succ_add, tokensFrom, hplain, hdoc, hnone, hclosing]
    simp only [hspace, ih hus, Option.map_some, hts]
    rfl
  | case9 fuel c r hplain hspace hdoc hopening hclosing ih =>
    simp only [Option.bind_eq_bind, Option.bind_eq_some_iff] at h
    obtain ⟨⟨t, rest⟩, hleaf, h⟩ := h
    obtain ⟨us, hus, hts⟩ := Option.map_eq_some_iff.1 h
    rw [Nat.succ_add, tokensFrom, hplain, hdoc, hopening, hclosing, hleaf]
    simp only [hspace, Option.bind_eq_bind, Option.bind_some, ih rest hus, Option.map_some, hts]
    rfl

/-- A byte order mark that is not at the head of a text is no token. -/
theorem tokensFrom_byteOrderMark (fuel : Nat) (r : List Char) :
    tokensFrom fuel ('\ufeff' :: r) = none := by
  cases fuel with
  | zero => rfl
  | succ fuel =>
    have hspace : isSpace '\ufeff' = false := by decide
    have hopening : Delimiter.ofOpening? '\ufeff' = none := rfl
    have hclosing : Delimiter.ofClosing? '\ufeff' = none := rfl
    have hleaf : leaf? ('\ufeff' :: r) = none := by
      have hstart : isWordStart '\ufeff' = false := by
        rw [Bool.eq_false_iff]
        intro h
        exact not_mark_of_isWordChar (isWordChar_of_isWordStart h) (by simp)
      have hliteral : literalLength ('\ufeff' :: r) = none := rfl
      have hmark : startsMark ('\ufeff' :: r) = false := rfl
      have hword : identifier? ('\ufeff' :: r) = none := by
        simp [identifier?, takeWord?, hstart]
      simp [leaf?, hliteral, hmark, hword]
    rw [tokensFrom, plainComment?_of_ne (by decide), docComment?_of_ne (by decide), hspace,
      hopening, hclosing, hleaf]
    rfl

/-! One line of comment. -/

/-- A line without the carriage return at its end. -/
def dropReturn : List Char → List Char
  | [] => []
  | ['\r'] => []
  | c :: s => c :: dropReturn s

theorem dropReturn_cons {c : Char} {s : List Char} (h : s ≠ [] ∨ c ≠ '\r') :
    dropReturn (c :: s) = c :: dropReturn s := by
  rw [dropReturn]
  intro heq hnil
  subst heq
  subst hnil
  simp at h

theorem splitLine_append {line : List Char} (h : '\n' ∉ line) (rest : List Char) :
    splitLine (line ++ '\n' :: rest) = (dropReturn line, '\n' :: rest) := by
  fun_induction dropReturn line with
  | case1 => rfl
  | case2 => rfl
  | case3 c s hlast ih =>
    rw [List.mem_cons, not_or] at h
    have hs := ih h.2
    rw [List.cons_append, splitLine, hs]
    · intro heq
      subst heq
      exact absurd rfl h.1
    · intro r heq hr
      subst heq
      cases s with
      | nil => exact hlast rfl rfl
      | cons d s =>
        obtain ⟨rfl, -⟩ := List.cons.inj hr
        simp at h

/-- The line feed after a line is a blank. -/
theorem tokensFrom_lineFeed (fuel : Nat) (rest : List Char) :
    tokensFrom (fuel + 1) ('\n' :: rest) = tokensFrom fuel rest := by
  have hspace : isSpace '\n' = true := by decide
  rw [tokensFrom, plainComment?_of_ne (by decide), hspace]
  rfl

/-- A line that only comments leaves no token. -/
theorem tokensFrom_lineComment {body : List Char} (hslash : body.head? ≠ some '/')
    (hbang : body.head? ≠ some '!') (hline : '\n' ∉ body) (fuel : Nat) (rest : List Char) :
    tokensFrom (fuel + 2) ('/' :: '/' :: (body ++ '\n' :: rest)) = tokensFrom fuel rest := by
  have hdoc : docComment? ('/' :: '/' :: (body ++ '\n' :: rest)) = none := by
    cases body with
    | nil => rfl
    | cons c body =>
      unfold docComment?
      split <;> simp_all
  have hplain : plainComment? ('/' :: '/' :: (body ++ '\n' :: rest)) = some ('\n' :: rest) := by
    rw [plainComment?, hdoc, splitLine_append hline]
    rfl
  rw [tokensFrom, hplain]
  exact tokensFrom_lineFeed fuel rest

/-- A line that documents what contains it leaves the attribute that it stands for. -/
theorem tokensFrom_innerComment {text : List Char} (hline : '\n' ∉ text) (fuel : Nat)
    (rest : List Char) :
    tokensFrom (fuel + 2) ('/' :: '/' :: '!' :: (text ++ '\n' :: rest)) =
      if noBareReturn (dropReturn text) then
        (tokensFrom fuel rest).map (docTokens true (dropReturn text) ++ ·)
      else none := by
  have hdoc : docComment? ('/' :: '/' :: '!' :: (text ++ '\n' :: rest)) =
      some (true, dropReturn text, '\n' :: rest) := by
    rw [docComment?, splitLine_append hline]
  have hplain : plainComment? ('/' :: '/' :: '!' :: (text ++ '\n' :: rest)) = none := by
    rw [plainComment?, hdoc]
    rfl
  have hspace : isSpace '/' = false := by decide
  rw [tokensFrom, hplain, hspace, hdoc]
  simp only [tokensFrom_lineFeed]
  rfl

/-- Open brackets and the trees of the innermost one, with trees put before all that is outside. -/
def OpenGroups.before (earlier : List Tree) : OpenGroups → List Tree → OpenGroups × List Tree
  | [], done => ([], done ++ earlier.reverse)
  | (d, outer) :: stack, done =>
    ((d, (before earlier stack outer).2) :: (before earlier stack outer).1, done)

theorem OpenGroups.before_cons (earlier : List Tree) (stack : OpenGroups) (t : Tree)
    (done : List Tree) :
    before earlier stack (t :: done) =
      ((before earlier stack done).1, t :: (before earlier stack done).2) := by
  cases stack with
  | nil => rfl
  | cons g stack => rfl

theorem nestFrom_before (earlier : List Tree) (stack : OpenGroups) (done : List Tree)
    (ts : List Token) :
    nestFrom (stack.before earlier done).1 (stack.before earlier done).2 ts =
      (nestFrom stack done ts).map (earlier ++ ·) := by
  -- what is put before reaches the outermost trees only, so each step keeps the form of the stack
  fun_induction nestFrom stack done ts with
  | case1 stack done h =>
    obtain rfl := List.isEmpty_iff.1 h
    simp [OpenGroups.before, nestFrom]
  | case2 stack done h =>
    cases stack with
    | nil => simp at h
    | cons g stack => rfl
  | case3 stack done t ts ih =>
    rw [OpenGroups.before_cons] at ih
    exact ih
  | case4 stack done c j ts ih =>
    rw [OpenGroups.before_cons] at ih
    exact ih
  | case5 stack done t ts ih =>
    rw [OpenGroups.before_cons] at ih
    exact ih
  | case6 stack done d ts ih => exact ih
  | case7 done d ts => rfl
  | case8 done ts e outer stack ih =>
    rw [OpenGroups.before_cons] at ih
    rw [← ih, OpenGroups.before, nestFrom, if_pos rfl]
  | case9 done d ts e outer stack h =>
    rw [OpenGroups.before, nestFrom, if_neg h]
    rfl

/-- Trees of the attribute that a documenting line stands for. -/
def innerDocTrees (text : List Char) : List Tree :=
  [.mark '#' false, .mark '!' false,
    .group .bracket [.word "doc", .mark '=' false, .literal (stringLiteral text)]]

theorem nest?_docTokens (text : List Char) (ts : List Token) :
    nest? (docTokens true text ++ ts) = (nest? ts).map (innerDocTrees text ++ ·) :=
  nestFrom_before (innerDocTrees text) [] [] ts

/-- Number of attributes of what contains some trees, at their head. -/
def innerCount : List Tree → Nat
  | .mark '#' _ :: .mark '!' _ :: _ :: ts => innerCount ts + 1
  | _ => 0

theorem innerCount_innerDocTrees (text : List Char) (ts : List Tree) :
    innerCount (innerDocTrees text ++ ts) = innerCount ts + 1 := rfl

namespace Grammar

@[simp] theorem run_failure {α : Type} (ts : List Tree) :
    (failure : Reader α).run ts = none := rfl

theorem eq_of_group {d : Delimiter} {ts inside rest : List Tree}
    (h : (group d).run ts = some (inside, rest)) : ts = .group d inside :: rest := by
  simp only [group, nextGroup?, StateT.run_bind, StateT.run_get, pure_bind] at h
  split at h
  · next e trees tail =>
    by_cases hd : d = e
    · simp [hd] at h
      simp [hd, h]
    · simp [hd] at h
  · simp at h

/-- How many attributes are read at the head of some trees does not depend on what they hold. -/
theorem length_of_innerAttributesFrom {g : Readers} {fuel : Nat} {ts rest : List Tree}
    {attributes : List Node}
    (h : (innerAttributesFrom g fuel).run ts = some (attributes, rest)) :
    attributes.length = innerCount ts := by
  induction fuel generalizing ts attributes with
  | zero => simp [innerAttributesFrom] at h
  | succ fuel ih =>
    rw [innerAttributesFrom, StateT.run_bind, StateT.run_get, pure_bind] at h
    dsimp only at h
    split at h
    · next i j ts =>
      simp only [StateT.run_bind, StateT.run_set, pure_bind, Option.bind_eq_bind,
        Option.bind_eq_some_iff] at h
      obtain ⟨⟨inside, after⟩, hgroup, ⟨a, last⟩, hcontent, ⟨as, left⟩, has, h⟩ := h
      have hlast : last = after := by
        simp only [StateT.run_monadLift, monadLift_self, Option.pure_def, Option.bind_eq_bind,
          Option.bind_eq_some_iff, Option.some.injEq, Prod.mk.injEq] at hcontent
        obtain ⟨b, -, -, hafter⟩ := hcontent
        exact hafter.symm
      have hattributes : a :: as = attributes := congrArg Prod.fst (Option.some.inj h)
      have hleft : left = rest := congrArg Prod.snd (Option.some.inj h)
      rw [hlast, hleft] at has
      rw [eq_of_group hgroup, ← hattributes, List.length_cons, ih has, innerCount]
    · next hother =>
      have hattributes : [] = attributes := congrArg Prod.fst (Option.some.inj h)
      rw [← hattributes, innerCount]
      · rfl
      · intro i j t ts
        exact hother i j (t :: ts)

theorem eq_of_splitShebang {s rest : List Char} (h : splitShebang s = (none, rest)) :
    rest = s := by
  unfold splitShebang at h
  split at h
  · split at h
    · exact (congrArg Prod.snd h).symm
    · simp at h
  · exact (congrArg Prod.snd h).symm

end Grammar

open Grammar

/-- The program that some trees are, without an interpreter. -/
def Program.ofTrees? (ts : List Tree) : Option Program := do
  let g := readersOf ts
  let (inner, ts) ← (innerAttributes g).run ts
  return ⟨none, inner, ← many? (g .item) ts⟩

theorem Program.length_attributes_of_ofTrees? {ts : List Tree} {p : Program}
    (h : Program.ofTrees? ts = some p) : p.attributes.length = innerCount ts := by
  simp only [ofTrees?, Option.bind_eq_bind, Option.bind_eq_some_iff, Option.pure_def,
    Option.some.injEq] at h
  obtain ⟨⟨inner, rest⟩, hinner, items, -, rfl⟩ := h
  exact length_of_innerAttributesFrom hinner

theorem dropByteOrderMark_of_head {s : List Char} (h : s.head? ≠ some '\ufeff') :
    dropByteOrderMark s = s := by
  unfold dropByteOrderMark
  split
  · simp at h
  · rfl

theorem trees?_of_head {s : List Char} (h : s.head? ≠ some '\ufeff') :
    trees? s = (tokensFrom (s.length + 1) s).bind nest? := by
  rw [trees?, tokens?, dropByteOrderMark_of_head h]

/-- A text that cannot begin with a line for an interpreter is all program. -/
theorem Program.parse?_of_head {s : List Char} (hmark : s.head? ≠ some '\ufeff')
    (hnumber : s.head? ≠ some '#') :
    Program.parse? s = (trees? s).bind Program.ofTrees? := by
  have hsplit : splitShebang s = (none, s) := by
    unfold splitShebang
    split
    · simp at hnumber
    · rfl
  rw [parse?, dropByteOrderMark_of_head hmark, hsplit]
  rfl

theorem Program.shebang_of_ofTrees? {ts : List Tree} {p : Program}
    (h : Program.ofTrees? ts = some p) : p.shebang = none := by
  simp only [ofTrees?, Option.bind_eq_bind, Option.bind_eq_some_iff, Option.pure_def,
    Option.some.injEq] at h
  obtain ⟨⟨inner, rest⟩, -, items, -, rfl⟩ := h
  rfl

/-- A text that holds a program without an interpreter is all program. -/
theorem Program.ofTrees?_of_parse? {s : List Char} {p : Program}
    (hmark : s.head? ≠ some '\ufeff') (h : Program.parse? s = some p) (hnone : p.shebang = none) :
    (trees? s).bind Program.ofTrees? = some p := by
  rw [parse?, dropByteOrderMark_of_head hmark] at h
  cases hsplit : splitShebang s with
  | mk shebang rest =>
    rw [hsplit] at h
    cases shebang with
    | none =>
      rw [eq_of_splitShebang hsplit] at h
      exact h
    | some line =>
      simp only [Option.bind_eq_bind, Option.bind_eq_some_iff, Option.pure_def,
        Option.some.injEq] at h
      obtain ⟨ts, -, ⟨inner, rest⟩, -, items, -, rfl⟩ := h
      simp at hnone

/-- Texts of the same tokens hold the same program. -/
theorem Program.parse?_eq_of_tokens? {s t : List Char} (hs : s.head? ∉ [some '\ufeff', some '#'])
    (ht : t.head? ∉ [some '\ufeff', some '#']) (h : tokens? s = tokens? t) :
    Program.parse? s = Program.parse? t := by
  simp only [List.mem_cons, List.not_mem_nil, or_false, not_or] at hs ht
  rw [parse?_of_head hs.1 hs.2, parse?_of_head ht.1 ht.2, trees?, trees?, h]

end EnumForge.Source
