import EnumForge.Format.InProcess
import EnumForge.Proofs.Source.Comment

namespace EnumForge

open Source

theorem sourceLinesFrom_append (line rest acc : List Char) (h : '\n' ∉ line) :
    sourceLinesFrom acc (line ++ '\n' :: rest) =
      (acc.reverse ++ dropReturn line) :: sourceLines rest := by
  -- the cases of `dropReturn` are those in which a carriage return is part of the line end
  fun_induction dropReturn line generalizing acc with
  | case1 => simp [sourceLinesFrom, sourceLines]
  | case2 => simp [sourceLinesFrom, sourceLines]
  | case3 c s hlast ih =>
    rw [List.mem_cons, not_or] at h
    rw [List.cons_append, sourceLinesFrom, ih _ h.2]
    · simp
    · intro r heq hr
      subst heq
      cases s with
      | nil => exact hlast rfl rfl
      | cons d s =>
        obtain ⟨rfl, -⟩ := List.cons.inj hr
        simp at h
    · intro heq
      subst heq
      exact absurd rfl h.1

theorem sourceLines_append {line : List Char} (h : '\n' ∉ line) (rest : List Char) :
    sourceLines (line ++ '\n' :: rest) = dropReturn line :: sourceLines rest :=
  sourceLinesFrom_append line rest [] h

theorem sourceLines_written {lines : List (List Char)} (h : ∀ line ∈ lines, '\n' ∉ line)
    (rest : List Char) :
    sourceLines (lines.flatMap (· ++ ['\n']) ++ rest) =
      lines.map dropReturn ++ sourceLines rest := by
  induction lines with
  | nil => rfl
  | cons line lines ih =>
    obtain ⟨hline, hlines⟩ := List.forall_mem_cons.1 h
    rw [List.flatMap_cons, List.append_assoc, List.append_assoc, List.singleton_append,
      sourceLines_append hline, ih hlines]
    rfl

theorem not_mem_of_mem_sourceLinesFrom {acc s line : List Char} (hacc : '\n' ∉ acc)
    (h : line ∈ sourceLinesFrom acc s) : '\n' ∉ line := by
  fun_induction sourceLinesFrom acc s with
  | case1 acc hempty => simp at h
  | case2 acc hempty =>
    obtain rfl := List.mem_singleton.1 h
    simpa using hacc
  | case3 acc s ih =>
    rcases List.mem_cons.1 h with rfl | h
    · simpa using hacc
    · exact ih (by simp) h
  | case4 acc s ih =>
    rcases List.mem_cons.1 h with rfl | h
    · simpa using hacc
    · exact ih (by simp) h
  | case5 acc c s hreturn hfeed ih =>
    have hc : '\n' ∉ c :: acc := by
      rw [List.mem_cons, not_or]
      exact ⟨fun hc => hfeed hc.symm, hacc⟩
    exact ih hc h

/-- A line is the same without its last carriage return when it has none. -/
theorem dropReturn_eq_self_iff (line : List Char) :
    dropReturn line = line ↔ line.getLast? ≠ some '\r' := by
  fun_induction dropReturn line with
  | case1 => simp
  | case2 => simp
  | case3 c s hlast ih =>
    cases s with
    | nil =>
      have hc : c ≠ '\r' := fun hc => hlast hc rfl
      simpa [dropReturn] using hc
    | cons d s => rw [List.getLast?_cons_cons, ← ih, List.cons_inj_right]

theorem head?_of_head?_dropReturn {line : List Char} {c : Char}
    (h : (dropReturn line).head? = some c) : line.head? = some c := by
  fun_cases dropReturn line with
  | case1 => exact h
  | case2 => simp [dropReturn] at h
  | case3 d s hlast => simpa [dropReturn] using h

theorem eq_dropReturn_append (line : List Char) (h : dropReturn line ≠ line) :
    line = dropReturn line ++ ['\r'] := by
  fun_induction dropReturn line with
  | case1 => simp at h
  | case2 => rfl
  | case3 c s hlast ih =>
    rw [Ne, List.cons_inj_right] at h
    rw [List.cons_append, ← ih h]

/-- Lines that are written without the carriage returns at their ends are written as they are when
they have none. -/
theorem written_dropReturn_eq_iff (lines : List (List Char)) :
    (lines.map dropReturn).flatMap (· ++ ['\n']) = lines.flatMap (· ++ ['\n']) ↔
      ∀ line ∈ lines, line.getLast? ≠ some '\r' := by
  induction lines with
  | nil => simp
  | cons line lines ih =>
    rw [List.map_cons, List.flatMap_cons, List.flatMap_cons, List.forall_mem_cons, ← ih,
      ← dropReturn_eq_self_iff]
    by_cases h : dropReturn line = line
    · simp [h]
    · refine iff_of_false ?_ fun hboth => h hboth.1
      intro heq
      have hline := eq_dropReturn_append line h
      generalize dropReturn line = shorter at heq hline
      subst hline
      simp at heq

def headerLines (s : List Char) : List (List Char) := (sourceLines s).takeWhile isHeaderLine

/-- Whether a line documents what contains it. -/
def isInnerComment (line : List Char) : Bool := ['/', '/', '!'].isPrefixOf line

theorem isHeaderLine_iff (line : List Char) :
    isHeaderLine line = true ↔ ∃ body, line = '/' :: '/' :: body ∧ body.head? ≠ some '/' := by
  rw [isHeaderLine, Bool.and_eq_true, Bool.not_eq_true', Bool.eq_false_iff, Ne,
    List.isPrefixOf_iff_prefix, List.isPrefixOf_iff_prefix]
  constructor
  · intro hboth
    obtain ⟨⟨body, rfl⟩, hthird⟩ := hboth
    refine ⟨body, rfl, fun hbody => hthird ?_⟩
    obtain ⟨rest, rfl⟩ := List.head?_eq_some_iff.1 hbody
    exact ⟨rest, rfl⟩
  · intro hboth
    obtain ⟨body, rfl, hbody⟩ := hboth
    refine ⟨⟨body, rfl⟩, ?_⟩
    intro hboth
    obtain ⟨rest, hrest⟩ := hboth
    obtain rfl : '/' :: rest = body := by simpa using hrest
    exact hbody rfl

theorem headerLines_spec {s line : List Char} (h : line ∈ headerLines s) :
    isHeaderLine line = true ∧ '\n' ∉ line := by
  have hmem : line ∈ sourceLines s := (List.takeWhile_sublist _).subset h
  exact ⟨List.mem_takeWhile_imp h, not_mem_of_mem_sourceLinesFrom (by simp) hmem⟩

theorem isHeaderLine_dropReturn {line : List Char} (h : isHeaderLine line = true) :
    isHeaderLine (dropReturn line) = true := by
  obtain ⟨body, rfl, hbody⟩ := (isHeaderLine_iff line).1 h
  rw [dropReturn_cons (.inl (by simp)), dropReturn_cons (.inr (by decide)), isHeaderLine_iff]
  exact ⟨dropReturn body, rfl, fun hslash => hbody (head?_of_head?_dropReturn hslash)⟩

/-- The header of a text is read again as it was written, up to the empty line after it. -/
theorem headerLines_written {lines : List (List Char)}
    (h : ∀ line ∈ lines, isHeaderLine line = true ∧ '\n' ∉ line) (rest : List Char) :
    headerLines (lines.flatMap (· ++ ['\n']) ++ '\n' :: rest) = lines.map dropReturn := by
  have hempty : sourceLines ('\n' :: rest) = [] :: sourceLines rest :=
    @sourceLines_append [] (by simp) rest
  rw [headerLines, sourceLines_written fun line hline => (h line hline).2, hempty,
    List.takeWhile_append_of_pos]
  · simp [isHeaderLine]
  · intro line hline
    obtain ⟨original, hmem, rfl⟩ := List.mem_map.1 hline
    exact isHeaderLine_dropReturn (h original hmem).1

/-! What lines of comment are read as. -/

/-- Whether the attribute that a line stands for, if it stands for one, can be read. -/
def isReadable (line : List Char) : Bool :=
  !isInnerComment line || noBareReturn ((dropReturn line).drop 3)

/-- Trees of the attribute that a line stands for, if it stands for one. -/
def commentTrees (line : List Char) : List Tree :=
  if isInnerComment line then innerDocTrees ((dropReturn line).drop 3) else []

theorem trees_headerLine {line : List Char} (hline : isHeaderLine line = true)
    (hfeed : '\n' ∉ line) (fuel : Nat) (rest : List Char) :
    (tokensFrom (fuel + 2) (line ++ '\n' :: rest)).bind nest? =
      if isReadable line then ((tokensFrom fuel rest).bind nest?).map (commentTrees line ++ ·)
      else none := by
  obtain ⟨body, rfl, hslash⟩ := (isHeaderLine_iff line).1 hline
  have hbody : '\n' ∉ body := by simpa using hfeed
  by_cases hbang : body.head? = some '!'
  · obtain ⟨text, rfl⟩ := List.head?_eq_some_iff.1 hbang
    have htext : '\n' ∉ text := by simpa using hbody
    have hinner : isInnerComment ('/' :: '/' :: '!' :: text) = true := rfl
    have hdrop : (dropReturn ('/' :: '/' :: '!' :: text)).drop 3 = dropReturn text := by
      rw [dropReturn_cons (.inl (by simp)), dropReturn_cons (.inl (by simp)),
        dropReturn_cons (.inr (by decide))]
      rfl
    rw [isReadable, commentTrees, hinner, hdrop, List.cons_append, List.cons_append,
      List.cons_append, tokensFrom_innerComment htext]
    cases noBareReturn (dropReturn text) with
    | false => rfl
    | true =>
      cases tokensFrom fuel rest with
      | none => rfl
      | some ts => exact nest?_docTokens (dropReturn text) ts
  · have hinner : isInnerComment ('/' :: '/' :: body) = false := by
      cases body with
      | nil => rfl
      | cons c body =>
        have hc : '!' ≠ c := by simpa [eq_comm] using hbang
        simp [isInnerComment, List.isPrefixOf, hc]
    rw [isReadable, commentTrees, hinner, List.cons_append, List.cons_append,
      tokensFrom_lineComment hslash hbang hbody]
    simp

theorem trees_headerLines {lines : List (List Char)}
    (h : ∀ line ∈ lines, isHeaderLine line = true ∧ '\n' ∉ line) (fuel : Nat) (rest : List Char) :
    (tokensFrom (fuel + 2 * lines.length) (lines.flatMap (· ++ ['\n']) ++ rest)).bind nest? =
      if lines.all isReadable then
        ((tokensFrom fuel rest).bind nest?).map (lines.flatMap commentTrees ++ ·)
      else none := by
  induction lines with
  | nil => simp
  | cons line lines ih =>
    obtain ⟨⟨hline, hfeed⟩, hlines⟩ := List.forall_mem_cons.1 h
    have hfuel : fuel + 2 * (line :: lines).length = fuel + 2 * lines.length + 2 := by
      rw [List.length_cons]
      omega
    rw [List.flatMap_cons, List.append_assoc, List.append_assoc, List.singleton_append, hfuel,
      trees_headerLine hline hfeed, ih hlines, List.all_cons, List.flatMap_cons]
    cases isReadable line with
    | false => rfl
    | true =>
      cases lines.all isReadable with
      | false => rfl
      | true =>
        cases (tokensFrom fuel rest).bind nest? with
        | none => rfl
        | some ts => simp

theorem innerCount_commentTrees (lines : List (List Char)) (ts : List Tree) :
    innerCount (lines.flatMap commentTrees ++ ts) =
      lines.countP isInnerComment + innerCount ts := by
  induction lines with
  | nil => simp
  | cons line lines ih =>
    rw [List.flatMap_cons, List.append_assoc, List.countP_cons, commentTrees]
    cases isInnerComment line with
    | false => simpa using ih
    | true =>
      rw [if_pos rfl, if_pos rfl, innerCount_innerDocTrees, ih]
      omega

theorem sourceHeader_eq {s : List Char} (h : headerLines s ≠ []) :
    sourceHeader s = (headerLines s).flatMap (· ++ ['\n']) ++ ['\n'] := by
  have hempty : ((sourceLines s).takeWhile isHeaderLine).isEmpty = false := by
    simpa [headerLines] using h
  rw [sourceHeader, hempty]
  rfl

theorem sourceHeader_of_nil {s : List Char} (h : headerLines s = []) : sourceHeader s = [] := by
  have hempty : ((sourceLines s).takeWhile isHeaderLine).isEmpty = true := by
    simpa [headerLines] using h
  rw [sourceHeader, hempty]
  rfl

/-- A header is written as a text that begins with a comment. -/
theorem exists_written_eq_slash {lines : List (List Char)} (hsome : lines ≠ [])
    (h : ∀ line ∈ lines, isHeaderLine line = true ∧ '\n' ∉ line) (rest : List Char) :
    ∃ s, lines.flatMap (· ++ ['\n']) ++ rest = '/' :: s := by
  cases lines with
  | nil => exact absurd rfl hsome
  | cons line lines =>
    obtain ⟨body, rfl, -⟩ := (isHeaderLine_iff line).1 (h line List.mem_cons_self).1
    exact ⟨_, rfl⟩

theorem two_mul_length_le_written {lines : List (List Char)}
    (h : ∀ line ∈ lines, isHeaderLine line = true ∧ '\n' ∉ line) :
    2 * lines.length ≤ (lines.flatMap (· ++ ['\n'])).length := by
  induction lines with
  | nil => simp
  | cons line lines ih =>
    obtain ⟨⟨hline, -⟩, hlines⟩ := List.forall_mem_cons.1 h
    obtain ⟨body, rfl, -⟩ := (isHeaderLine_iff line).1 hline
    have hle := ih hlines
    rw [List.flatMap_cons, List.length_append, List.length_append, List.length_cons,
      List.length_cons, List.length_cons]
    omega

/-- A header and a text after it are read as the trees of both. -/
theorem trees?_written {lines : List (List Char)} (hsome : lines ≠ [])
    (h : ∀ line ∈ lines, isHeaderLine line = true ∧ '\n' ∉ line) (rest : List Char) :
    ∃ fuel ≥ rest.length + 1, trees? (lines.flatMap (· ++ ['\n']) ++ '\n' :: rest) =
      if lines.all isReadable then
        ((tokensFrom fuel rest).bind nest?).map (lines.flatMap commentTrees ++ ·)
      else none := by
  have hle := two_mul_length_le_written h
  obtain ⟨s, hs⟩ := exists_written_eq_slash hsome h ('\n' :: rest)
  have hhead : (lines.flatMap (· ++ ['\n']) ++ '\n' :: rest).head? ≠ some '\ufeff' := by
    rw [hs]
    simp
  obtain ⟨k, hk⟩ := Nat.exists_eq_add_of_le hle
  have hfuel : (lines.flatMap (· ++ ['\n']) ++ '\n' :: rest).length + 1 =
      rest.length + 1 + k + 1 + 2 * lines.length := by
    rw [List.length_append, List.length_cons, hk]
    omega
  refine ⟨rest.length + 1 + k, by omega, ?_⟩
  rw [trees?_of_head hhead, hfuel, trees_headerLines h, tokensFrom_lineFeed]

/-- A line that has begun goes on with what follows. -/
theorem exists_sourceLinesFrom_eq_cons {acc : List Char} (h : acc ≠ []) (s : List Char) :
    ∃ tail lines, sourceLinesFrom acc s = (acc.reverse ++ tail) :: lines := by
  fun_induction sourceLinesFrom acc s with
  | case1 acc hempty => exact absurd (List.isEmpty_iff.1 hempty) h
  | case2 acc hempty => exact ⟨[], [], by simp⟩
  | case3 acc s ih => exact ⟨[], _, by rw [List.append_nil]⟩
  | case4 acc s ih => exact ⟨[], _, by rw [List.append_nil]⟩
  | case5 acc c s hreturn hfeed ih =>
    obtain ⟨tail, lines, hlines⟩ := ih (by simp)
    exact ⟨c :: tail, lines, by simp [hlines]⟩

theorem exists_eq_slash_of_headerLines {s : List Char} (h : headerLines s ≠ []) :
    ∃ rest, s = '/' :: rest := by
  fun_cases sourceLinesFrom [] s with
  | case1 => exact absurd rfl h
  | case2 => exact absurd rfl h
  | case3 => exact absurd rfl h
  | case4 => exact absurd rfl h
  | case5 c s hreturn hfeed =>
    obtain ⟨tail, lines, hlines⟩ := exists_sourceLinesFrom_eq_cons (List.cons_ne_nil c []) s
    have hs : sourceLines (c :: s) = (c :: tail) :: lines := by
      rw [sourceLines, sourceLinesFrom, hlines]
      · rfl
      · exact hreturn
      · exact hfeed
    have hline : isHeaderLine (c :: tail) = true := by
      by_contra hline
      rw [headerLines, hs, List.takeWhile_cons_of_neg hline] at h
      exact h rfl
    obtain ⟨body, hbody, -⟩ := (isHeaderLine_iff _).1 hline
    obtain ⟨rfl, -⟩ := List.cons.inj hbody
    exact ⟨s, rfl⟩

/-- The result holds the program of the source exactly where no line of the header documents it. -/
theorem parse?_written_iff {lines : List (List Char)} (hsome : lines ≠ [])
    (h : ∀ line ∈ lines, isHeaderLine line = true ∧ '\n' ∉ line) {text : List Char} {p : Program}
    (htext : Program.parse? text = some p) (hnone : p.shebang = none) :
    Program.parse? (lines.flatMap (· ++ ['\n']) ++ '\n' :: text) = some p ↔
      (∀ line ∈ lines, isInnerComment line = false) ∧ text.head? ≠ some '\ufeff' := by
  obtain ⟨s, hs⟩ := exists_written_eq_slash hsome h ('\n' :: text)
  obtain ⟨fuel, hfuel, htrees⟩ := trees?_written hsome h text
  rw [hs] at htrees ⊢
  rw [Program.parse?_of_head (by simp) (by simp), htrees]
  -- a byte order mark is dropped at the head of the text alone, but is no token after the header
  by_cases hmark : text.head? = some '\ufeff'
  · obtain ⟨rest, rfl⟩ := List.head?_eq_some_iff.1 hmark
    rw [tokensFrom_byteOrderMark]
    simp
  · have hprogram := Program.ofTrees?_of_parse? hmark htext hnone
    obtain ⟨ts, hts, hp⟩ := Option.bind_eq_some_iff.1 hprogram
    have htokens : (tokensFrom fuel text).bind nest? = some ts := by
      rw [trees?_of_head hmark, Option.bind_eq_some_iff] at hts
      obtain ⟨tokens, htokens, hnest⟩ := hts
      obtain ⟨k, rfl⟩ := Nat.exists_eq_add_of_le hfuel
      rw [tokensFrom_add htokens k]
      exact hnest
    rw [htokens]
    constructor
    · intro hwritten
      refine ⟨?_, hmark⟩
      have hreadable : lines.all isReadable = true := by
        by_contra hreadable
        simp [hreadable] at hwritten
      rw [if_pos hreadable, Option.map_some, Option.bind_some] at hwritten
      -- only as many attributes as the program has can be read, and the header comes before them
      have htwice := Program.length_attributes_of_ofTrees? hwritten
      rw [innerCount_commentTrees, Program.length_attributes_of_ofTrees? hp] at htwice
      have hcount : lines.countP isInnerComment = 0 := by omega
      intro line hline
      exact Bool.eq_false_iff.2 (List.countP_eq_zero.1 hcount line hline)
    · intro hboth
      obtain ⟨hplain, -⟩ := hboth
      have hreadable : lines.all isReadable = true := by
        rw [List.all_eq_true]
        intro line hline
        rw [isReadable, hplain line hline]
        rfl
      have hnothing : lines.flatMap commentTrees = [] := by
        rw [List.flatMap_eq_nil_iff]
        intro line hline
        rw [commentTrees, hplain line hline]
        rfl
      rw [if_pos hreadable, hnothing]
      exact hp

/-- The result of formatting a source holds the program of the source exactly where no line of its
header documents it. -/
theorem parse?_result_iff {s text : List Char} {p : Program} (hs : Program.parse? s = some p)
    (htext : Program.parse? text = some p) :
    Program.parse? (sourceHeader s ++ text) = some p ↔
      (∀ line ∈ headerLines s, isInnerComment line = false) ∧
        (headerLines s ≠ [] → text.head? ≠ some '\ufeff') := by
  by_cases hsome : headerLines s = []
  · rw [sourceHeader_of_nil hsome, hsome, List.nil_append, htext]
    simp
  · have hnone : p.shebang = none := by
      obtain ⟨rest, rfl⟩ := exists_eq_slash_of_headerLines hsome
      rw [Program.parse?_of_head (by simp) (by simp), Option.bind_eq_some_iff] at hs
      obtain ⟨ts, -, hts⟩ := hs
      exact Program.shebang_of_ofTrees? hts
    have hwritten := parse?_written_iff hsome (fun line => headerLines_spec) htext hnone
    rw [sourceHeader_eq hsome, List.append_assoc, List.singleton_append, hwritten]
    simp [hsome]

/-- The header of the result is the header of the source exactly where the lines of the source are
written as they are, and the program is not written with a header of its own after none. -/
theorem sourceHeader_again_iff (s text : List Char) :
    sourceHeader (sourceHeader s ++ text) = sourceHeader s ↔
      (∀ line ∈ headerLines s, line.getLast? ≠ some '\r') ∧
        (headerLines s = [] → headerLines text = []) := by
  by_cases hsome : headerLines s = []
  · rw [sourceHeader_of_nil hsome, hsome, List.nil_append]
    by_cases htext : headerLines text = []
    · simp [sourceHeader_of_nil htext, htext]
    · simp [sourceHeader_eq htext, htext]
  · have hagain : headerLines (sourceHeader s ++ text) = (headerLines s).map dropReturn := by
      rw [sourceHeader_eq hsome, List.append_assoc, List.singleton_append]
      exact headerLines_written (fun line => headerLines_spec) text
    have hagainSome : headerLines (sourceHeader s ++ text) ≠ [] := by
      rw [hagain]
      simpa using hsome
    rw [sourceHeader_eq hagainSome, hagain, sourceHeader_eq hsome, List.append_cancel_right_eq,
      written_dropReturn_eq_iff]
    simp [hsome]

theorem formatProgram_eq_ok_iff (s : List Char) (text : String) :
    formatProgram s = .ok text ↔ ∃ p, Program.parse? s = some p ∧ p.text? = some text := by
  unfold formatProgram
  cases Program.parse? s with
  | none => simp
  | some p =>
    cases hp : p.text? with
    | none => simp [hp]
    | some t => simp [hp]

theorem inProcess_apply {source text : String} (h : formatProgram source.toList = .ok text) :
    Formatter.inProcess.apply source =
      .ok (String.ofList (sourceHeader source.toList) ++ text) := by
  change (formatProgram source.toList).map _ = _
  rw [h]
  rfl

/-- The head of a source is kept by formatting: none of its lines of comment documents the program
or ends in a carriage return, and the program is not written with a head of its own that would be
read as another. -/
structure HeadKept (source text : List Char) : Prop where
  undocumented : ∀ line ∈ headerLines source, isInnerComment line = false
  whole : ∀ line ∈ headerLines source, line.getLast? ≠ some '\r'
  alone : headerLines source = [] → headerLines text = []
  unmarked : headerLines source ≠ [] → text.head? ≠ some '\ufeff'

/-- Formatting in the same process keeps the program, and does so again without a change, exactly
where it keeps the head of the source; what the program is written as is taken to hold it. -/
theorem inProcess_faithful_iff {source text : String} (h : formatProgram source.toList = .ok text)
    (hback : Program.parse? text.toList = Program.parse? source.toList) :
    ∃ result, Formatter.inProcess.apply source = .ok result ∧
      ((Program.parse? result.toList = Program.parse? source.toList ∧
          Formatter.inProcess.apply result = .ok result) ↔
        HeadKept source.toList text.toList) := by
  obtain ⟨p, hp, hprinted⟩ := (formatProgram_eq_ok_iff _ _).1 h
  have htext : Program.parse? text.toList = some p := hback.trans hp
  refine ⟨_, inProcess_apply h, ?_⟩
  generalize hresult : String.ofList (sourceHeader source.toList) ++ text = result
  have hlist : result.toList = sourceHeader source.toList ++ text.toList := by
    rw [← hresult, String.toList_append, String.toList_ofList]
  have hparse := parse?_result_iff hp htext
  have hhead := sourceHeader_again_iff source.toList text.toList
  rw [← hlist] at hparse hhead
  rw [hp, hparse]
  constructor
  · intro hboth
    obtain ⟨hkept, hagain⟩ := hboth
    have hformat : formatProgram result.toList = .ok text :=
      (formatProgram_eq_ok_iff _ _).2 ⟨p, hparse.2 hkept, hprinted⟩
    rw [inProcess_apply hformat, Except.ok.injEq] at hagain
    have hsame : sourceHeader result.toList = sourceHeader source.toList := by
      have htwice := congrArg String.toList hagain
      rw [String.toList_append, String.toList_ofList] at htwice
      exact List.append_cancel_right (htwice.trans hlist)
    obtain ⟨hwhole, halone⟩ := hhead.1 hsame
    exact ⟨hkept.1, hwhole, halone, hkept.2⟩
  · intro hkept
    have hparsed := hparse.2 ⟨hkept.undocumented, hkept.unmarked⟩
    have hformat : formatProgram result.toList = .ok text :=
      (formatProgram_eq_ok_iff _ _).2 ⟨p, hparsed, hprinted⟩
    refine ⟨⟨hkept.undocumented, hkept.unmarked⟩, ?_⟩
    rw [inProcess_apply hformat, hhead.2 ⟨hkept.whole, hkept.alone⟩, hresult]

theorem preface_faithful :
    ∃ result, Formatter.inProcess.apply "// note\nstruct A ;" = .ok result ∧
      Program.parse? result.toList = Program.parse? "// note\nstruct A ;".toList ∧
        Formatter.inProcess.apply result = .ok result := by
  have hformat : formatProgram "// note\nstruct A ;".toList = .ok "struct A;\n" := by
    decide +kernel
  have hback : Program.parse? "struct A;\n".toList = Program.parse? "// note\nstruct A ;".toList :=
    Program.parse?_eq_of_tokens? (by decide) (by decide) (by decide +kernel)
  have hlines : headerLines "// note\nstruct A ;".toList = ["// note".toList] := by decide +kernel
  have hkept : HeadKept "// note\nstruct A ;".toList "struct A;\n".toList := by
    refine ⟨?_, ?_, ?_, ?_⟩
    · rw [hlines]
      decide
    · rw [hlines]
      decide
    · rw [hlines]
      simp
    · decide
  obtain ⟨result, hresult, hiff⟩ := inProcess_faithful_iff hformat hback
  exact ⟨result, hresult, hiff.2 hkept⟩

/-- A line that documents the program is kept with the comments and is written with the program, so
the result holds its attribute twice. -/
theorem innerComment_repeated :
    Program.parse? "//! inner\nstruct A;\n".toList =
        Program.parse? "//! inner\nstruct A;".toList ∧
      formatProgram "//! inner\nstruct A;".toList = .ok "//! inner\nstruct A;\n" ∧
      Formatter.inProcess.apply "//! inner\nstruct A;" =
        .ok "//! inner\n\n//! inner\nstruct A;\n" ∧
      Program.parse? "//! inner\n\n//! inner\nstruct A;\n".toList ≠
        Program.parse? "//! inner\nstruct A;".toList := by
  have hformat : formatProgram "//! inner\nstruct A;".toList =
      .ok "//! inner\nstruct A;\n" := by decide +kernel
  refine ⟨?_, hformat, ?_, ?_⟩
  · exact Program.parse?_eq_of_tokens? (by decide) (by decide) (by decide +kernel)
  · rw [inProcess_apply hformat]
    decide +kernel
  · intro h
    have hcount := congrArg (Option.map fun p => p.attributes.length) h
    revert hcount
    decide +kernel

end EnumForge
