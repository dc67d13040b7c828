import EnumForge.World.Path
import Mathlib.Data.List.DropRight

namespace EnumForge.Path

theorem segments_append (s t : List Char) :
    segments (s ++ '/' :: t) = segments s ++ segments t := by
  induction s with
  | nil => simp [segments]
  | cons c s ih =>
    rw [List.cons_append, segments, segments, ih]
    split
    · rfl
    · cases h : segments s with
      | nil => exact absurd h (segments_ne_nil s)
      | cons u us => rfl

theorem segments_of_not_mem {s : List Char} (h : '/' ∉ s) : segments s = [s] := by
  induction s with
  | nil => rfl
  | cons c s ih =>
    rw [List.mem_cons, not_or] at h
    rw [segments, if_neg (Ne.symm h.1), ih h.2]

theorem not_mem_of_mem_segments {s segment : List Char} (h : segment ∈ segments s) :
    '/' ∉ segment := by
  induction s generalizing segment with
  | nil =>
    obtain rfl : segment = [] := by simpa [segments] using h
    simp
  | cons c s ih =>
    rw [segments] at h
    split at h
    · rcases List.mem_cons.1 h with rfl | h
      · simp
      · exact ih h
    · next hc =>
      cases hs : segments s with
      | nil => exact absurd hs (segments_ne_nil s)
      | cons u us =>
        rw [hs] at h ih
        rcases List.mem_cons.1 h with rfl | h
        · rw [List.mem_cons, not_or]
          exact ⟨Ne.symm hc, ih List.mem_cons_self⟩
        · exact ih (List.mem_cons_of_mem _ h)

theorem segments_ofSegments {first : List Char} {rest : List (List Char)}
    (h : ∀ segment ∈ first :: rest, '/' ∉ segment) :
    segments (ofSegments (first :: rest)) = first :: rest := by
  induction rest generalizing first with
  | nil => exact segments_of_not_mem (h first List.mem_cons_self)
  | cons next rest ih =>
    obtain ⟨hfirst, hrest⟩ := List.forall_mem_cons.1 h
    rw [ofSegments_cons_cons, segments_append, segments_of_not_mem hfirst, ih hrest]
    rfl

/-- Segments before others are the beginning of the text. -/
theorem ofSegments_append (first : List Char) (rest : List (List Char)) {more : List (List Char)}
    (h : more ≠ []) :
    ofSegments (first :: rest ++ more) = ofSegments (first :: rest) ++ '/' :: ofSegments more := by
  induction rest generalizing first with
  | nil =>
    cases more with
    | nil => exact absurd rfl h
    | cons s ss => rfl
  | cons next rest ih =>
    rw [List.cons_append, List.cons_append, ofSegments_cons_cons, ← List.cons_append, ih,
      ofSegments_cons_cons, List.append_assoc, List.cons_append]

theorem eq_nil_of_ofSegments_eq_nil {ss : List (List Char)} (h : ofSegments ss = []) :
    ∀ s ∈ ss, s = [] := by
  match ss with
  | [] => simp
  | [s] => simpa [ofSegments] using h
  | s :: t :: ss => simp [ofSegments_cons_cons] at h

theorem exists_trimVoid_append (tail : List (List Char)) :
    ∃ voids, tail = trimVoid tail ++ voids ∧ ∀ segment ∈ voids, isVoid segment = true :=
  ⟨tail.rtakeWhile isVoid, List.rdropWhile_append_rtakeWhile.symm,
    fun _ => List.mem_rtakeWhile_imp⟩

/-- What is left without void segments at the end does not end in one. -/
theorem isVoid_of_trimVoid {tail rest : List (List Char)} {last : List Char}
    (h : trimVoid tail = rest ++ [last]) : isVoid last = false := by
  have hne : trimVoid tail ≠ [] := by simp [h]
  have hlast := List.rdropWhile_last_not isVoid tail hne
  have hget : (trimVoid tail).getLast hne = last := by simp [h]
  change ¬isVoid ((trimVoid tail).getLast hne) = true at hlast
  rw [hget] at hlast
  exact Bool.eq_false_iff.2 hlast

def names (path : String) : List String :=
  ((segments path.toList).filter (!·.isEmpty)).map String.ofList

def movesOf (segments : List (List Char)) : List String :=
  (segments.filter (!isVoid ·)).map String.ofList

/-- Names of a path without those that stand for the place itself. -/
def moves (path : String) : List String := movesOf (segments path.toList)

theorem movesOf_append (s t : List (List Char)) : movesOf (s ++ t) = movesOf s ++ movesOf t := by
  rw [movesOf, List.filter_append, List.map_append]
  rfl

theorem movesOf_of_isVoid {s : List (List Char)} (h : ∀ segment ∈ s, isVoid segment = true) :
    movesOf s = [] := by
  have hnone : s.filter (!isVoid ·) = [] := by
    rw [List.filter_eq_nil_iff]
    intro segment hsegment
    simp [h segment hsegment]
  rw [movesOf, hnone, List.map_nil]

theorem movesOf_singleton {s : List Char} (h : isVoid s = false) :
    movesOf [s] = [String.ofList s] := by
  simp [movesOf, h]

theorem movesOf_trimVoid (tail : List (List Char)) : movesOf (trimVoid tail) = movesOf tail := by
  obtain ⟨voids, htail, hvoids⟩ := exists_trimVoid_append tail
  conv_rhs => rw [htail]
  rw [movesOf_append, movesOf_of_isVoid hvoids, List.append_nil]

theorem movesOf_cons (first : List Char) (tail : List (List Char)) :
    movesOf (first :: tail) = movesOf [first] ++ movesOf tail := movesOf_append [first] tail

/-- A path without a parent has no name that leads away. -/
theorem moves_of_parent?_eq_none {path : String} (h : parent? path = none) : moves path = [] := by
  unfold parent? at h
  split at h
  · next hnil => exact absurd hnil (segments_ne_nil _)
  · next first tail hsegments =>
    split at h
    · next htrim =>
      split at h
      · next hfirst =>
        obtain rfl := List.isEmpty_iff.1 hfirst
        rw [moves, hsegments, movesOf_cons, ← movesOf_trimVoid tail, htrim]
        rfl
      · simp at h
    · simp at h

/-- What a parent is to its path: it starts where the path starts, its text and its names are the
beginning of those of the path, and it leaves out one name at most that leads away. -/
structure Parent (parent path : String) : Prop where
  isAbsolute : isAbsolute parent = isAbsolute path
  text : ∃ rest, rest ≠ "" ∧ path = parent ++ rest
  names : names parent <+: names path
  moves : moves path = moves parent ∨ ∃ name, moves path = moves parent ++ [name]

/-- Of the segments after some others, one leads away. -/
theorem movesOf_between (ss : List (List Char)) {before after : List (List Char)} {last : List Char}
    (hbefore : ∀ segment ∈ before, isVoid segment = true) (hlast : isVoid last = false)
    (hafter : ∀ segment ∈ after, isVoid segment = true) :
    movesOf (ss ++ (before ++ last :: after)) = movesOf ss ++ [String.ofList last] := by
  rw [movesOf_append, movesOf_append, movesOf_of_isVoid hbefore, movesOf_cons,
    movesOf_singleton hlast, movesOf_of_isVoid hafter]
  rfl

/-- The parent that is written as the first segments of a path, where one name that leads away comes
after these. -/
theorem parent_ofSegments {path : String} {first last : List Char}
    {rest before after : List (List Char)}
    (hpath : segments path.toList = first :: rest ++ (before ++ last :: after))
    (hbefore : ∀ segment ∈ before, isVoid segment = true) (hlast : isVoid last = false)
    (hafter : ∀ segment ∈ after, isVoid segment = true)
    (hroot : ofSegments (first :: rest) ≠ [] ∨ isAbsolute path = false) :
    Parent (String.ofList (ofSegments (first :: rest))) path := by
  have hslash : ∀ segment ∈ first :: rest, '/' ∉ segment := by
    intro segment hsegment
    apply not_mem_of_mem_segments
    rw [hpath]
    exact List.mem_append_left _ hsegment
  have hparent : segments (String.ofList (ofSegments (first :: rest))).toList = first :: rest := by
    rw [String.toList_ofList, segments_ofSegments hslash]
  have htext : path.toList =
      ofSegments (first :: rest) ++ '/' :: ofSegments (before ++ last :: after) := by
    rw [← ofSegments_segments path.toList, hpath, ofSegments_append _ _ (by simp)]
  refine ⟨?_, ?_, ?_, ?_⟩
  · rw [isAbsolute, isAbsolute, String.toList_ofList, htext]
    cases hhead : ofSegments (first :: rest) with
    | nil =>
      rw [hhead] at htext hroot
      simp [isAbsolute, htext] at hroot
    | cons c s => rfl
  · refine ⟨String.ofList ('/' :: ofSegments (before ++ last :: after)), ?_, ?_⟩
    · intro hempty
      simp [← String.toList_inj] at hempty
    · rw [← String.toList_inj, String.toList_append, String.toList_ofList, String.toList_ofList,
        htext]
  · rw [names, names, hparent, hpath, List.filter_append, List.map_append]
    exact List.prefix_append _ _
  · exact .inr ⟨String.ofList last, by
      rw [moves, moves, hparent, hpath, movesOf_between _ hbefore hlast hafter]⟩

/-- The root is the parent of an absolute path of one name that leads away. -/
theorem parent_root {path : String} {last : List Char} {before after : List (List Char)}
    (hpath : segments path.toList = [[]] ++ (before ++ last :: after))
    (hbefore : ∀ segment ∈ before, isVoid segment = true) (hlast : isVoid last = false)
    (hafter : ∀ segment ∈ after, isVoid segment = true) : Parent "/" path := by
  have htext : path.toList = '/' :: ofSegments (before ++ last :: after) := by
    rw [← ofSegments_segments path.toList, hpath]
    exact ofSegments_append [] [] (by simp)
  refine ⟨?_, ?_, ?_, ?_⟩
  · rw [isAbsolute, isAbsolute, htext]
    rfl
  · refine ⟨String.ofList (ofSegments (before ++ last :: after)), ?_, ?_⟩
    · intro hempty
      have hnil : ofSegments (before ++ last :: after) = [] := by
        simpa [← String.toList_inj] using hempty
      have hlastNil := eq_nil_of_ofSegments_eq_nil hnil last (by simp)
      simp [hlastNil, isVoid] at hlast
    · rw [← String.toList_inj, String.toList_append, String.toList_ofList, String.toList_ofList,
        htext]
      rfl
  · exact List.nil_prefix
  · exact .inr ⟨String.ofList last, by
      rw [moves, hpath, movesOf_between _ hbefore hlast hafter]
      rfl⟩

/-- The empty path is the parent of a relative path of one name. -/
theorem parent_empty {path : String} {first : List Char} {after : List (List Char)}
    (hpath : segments path.toList = first :: after) (hfirst : first ≠ [])
    (hafter : ∀ segment ∈ after, isVoid segment = true) : Parent "" path := by
  have hslash : '/' ∉ first := by
    apply not_mem_of_mem_segments
    rw [hpath]
    exact List.mem_cons_self
  obtain ⟨c, cs, rfl⟩ := List.exists_cons_of_ne_nil hfirst
  obtain ⟨rest, htext⟩ : ∃ rest, path.toList = c :: rest := by
    rw [← ofSegments_segments path.toList, hpath]
    cases after with
    | nil => exact ⟨cs, rfl⟩
    | cons s ss => exact ⟨_, rfl⟩
  have hc : c ≠ '/' := by
    intro heq
    subst heq
    simp at hslash
  refine ⟨?_, ?_, ?_, ?_⟩
  · simp [isAbsolute, htext, hc]
  · refine ⟨path, ?_, by simp⟩
    intro heq
    subst heq
    simp at htext
  · exact List.nil_prefix
  · have hmoves : moves path = movesOf [c :: cs] := by
      rw [moves, hpath, movesOf_cons, movesOf_of_isVoid hafter, List.append_nil]
    rw [hmoves]
    cases hvoid : isVoid (c :: cs) with
    | true => exact .inl (movesOf_of_isVoid (by simpa using hvoid))
    | false => exact .inr ⟨_, movesOf_singleton hvoid⟩

theorem parent_of_parent? {path parent : String} (h : parent? path = some parent) :
    Parent parent path := by
  unfold parent? at h
  split at h
  · simp at h
  · next first tail hsegments =>
    obtain ⟨after, htail, hafter⟩ := exists_trimVoid_append tail
    split at h
    · next htrim =>
      rw [htrim, List.nil_append] at htail
      split at h
      · simp at h
      · next hfirst =>
        obtain rfl := Option.some.inj h
        exact parent_empty hsegments (by simpa using hfirst) (htail ▸ hafter)
    · next htrim =>
      obtain ⟨inner, last, hinner⟩ : ∃ inner last, trimVoid tail = inner ++ [last] :=
        ⟨_, _, (List.dropLast_append_getLast fun hnil => htrim hnil).symm⟩
      have hlast := isVoid_of_trimVoid hinner
      obtain ⟨before, hbefore, hvoid⟩ := exists_trimVoid_append inner
      have hpath : segments path.toList =
          first :: trimVoid inner ++ (before ++ last :: after) := by
        conv_lhs => rw [hsegments, htail, hinner, hbefore]
        simp
      rw [hinner, List.dropLast_concat] at h
      obtain rfl := Option.some.inj h
      split
      · next hroot =>
        rw [Bool.and_eq_true, List.isEmpty_iff] at hroot
        cases hrest : trimVoid inner with
        | nil =>
          rw [hrest] at hroot hpath
          obtain rfl : first = [] := hroot.1
          exact parent_root hpath hvoid hlast hafter
        | cons s ss => simp [hrest, ofSegments_cons_cons] at hroot
      · next hroot =>
        refine parent_ofSegments hpath hvoid hlast hafter ?_
        rw [Bool.and_eq_true, not_and_or, List.isEmpty_iff, Bool.not_eq_true] at hroot
        exact hroot

/-! A name in a directory. -/

section

variable {name : String}

theorem isAbsolute_of_not_mem (hname : '/' ∉ name.toList) : isAbsolute name = false := by
  cases h : name.toList with
  | nil => simp [isAbsolute, h]
  | cons c s =>
    rw [h, List.mem_cons, not_or] at hname
    simp [isAbsolute, h, Ne.symm hname.1]

/-- The name comes after the segments of the directory, of which an empty last one is left out. -/
theorem segments_join (dir : String) (hname : '/' ∉ name.toList) :
    ∃ ss, segments (join dir name).toList = ss ++ [name.toList] ∧
      names dir = (ss.filter (!·.isEmpty)).map String.ofList := by
  have hrelative := isAbsolute_of_not_mem hname
  have hlast := segments_of_not_mem hname
  unfold join
  split
  · next hempty =>
    have hdir : dir = "" := by simpa [hrelative] using hempty
    refine ⟨[], hlast, ?_⟩
    rw [hdir]
    rfl
  · split
    · next hslash =>
      obtain ⟨s, hs⟩ := List.getLast?_eq_some_iff.1 hslash
      refine ⟨segments s, ?_, ?_⟩
      · rw [String.toList_append, hs, List.append_assoc, List.singleton_append, segments_append,
          hlast]
      · rw [names, hs, segments_append, List.filter_append]
        simp [segments]
    · refine ⟨segments dir.toList, ?_, rfl⟩
      have htext : (dir ++ "/" ++ name).toList = dir.toList ++ '/' :: name.toList := by
        simp [String.toList_append]
      rw [htext, segments_append, hlast]

theorem isAbsolute_join (dir : String) (hname : '/' ∉ name.toList) :
    isAbsolute (join dir name) = isAbsolute dir := by
  have hrelative := isAbsolute_of_not_mem hname
  unfold join
  split
  · next hempty =>
    have hdir : dir = "" := by simpa [hrelative] using hempty
    rw [hrelative, hdir]
    rfl
  · next hsome =>
    have hdir : dir ≠ "" := by simpa [hrelative] using hsome
    have hlist : dir.toList ≠ [] := fun hnil => hdir (String.toList_inj.1 hnil)
    obtain ⟨c, cs, hc⟩ := List.exists_cons_of_ne_nil hlist
    split
    · simp [isAbsolute, String.toList_append, hc]
    · simp [isAbsolute, String.toList_append, hc]

theorem names_join (dir : String) (hname : '/' ∉ name.toList) (hne : name.toList ≠ []) :
    names (join dir name) = names dir ++ [name] := by
  obtain ⟨ss, hjoin, hdir⟩ := segments_join dir hname
  rw [names, hjoin, hdir, List.filter_append, List.map_append]
  simp [hne]

theorem mem_join {c : Char} {dir : String} (h : c ∈ (join dir name).toList) :
    c ∈ dir.toList ∨ c = '/' ∨ c ∈ name.toList := by
  unfold join at h
  split at h
  · exact .inr (.inr h)
  · split at h
    · rw [String.toList_append, List.mem_append] at h
      exact h.imp_right .inr
    · simpa [String.toList_append] using h

/-- One slash at most stands between a directory and a name in it. -/
theorem utf8ByteSize_join (dir : String) (hname : '/' ∉ name.toList) :
    dir.utf8ByteSize + name.utf8ByteSize ≤ (join dir name).utf8ByteSize ∧
      (join dir name).utf8ByteSize ≤ dir.utf8ByteSize + 1 + name.utf8ByteSize := by
  have hrelative := isAbsolute_of_not_mem hname
  have hslash : "/".utf8ByteSize = 1 := by decide
  unfold join
  split
  · next hempty =>
    have hdir : dir = "" := by simpa [hrelative] using hempty
    have hzero : "".utf8ByteSize = 0 := by decide
    rw [hdir, hzero]
    omega
  · split
    · rw [String.utf8ByteSize_append]
      omega
    · rw [String.utf8ByteSize_append, String.utf8ByteSize_append]
      omega

/-- The path of a name in a parent is no longer than in the path itself. -/
theorem utf8ByteSize_join_le {path parent : String} (h : Parent parent path)
    (hname : '/' ∉ name.toList) :
    (join parent name).utf8ByteSize ≤ (join path name).utf8ByteSize := by
  obtain ⟨rest, hrest, htext⟩ := h.text
  have hsize : path.utf8ByteSize = parent.utf8ByteSize + rest.utf8ByteSize := by
    rw [htext, String.utf8ByteSize_append]
  have hpos : rest.utf8ByteSize ≠ 0 := by simpa using hrest
  have hparent := (utf8ByteSize_join parent hname).2
  have hpath := (utf8ByteSize_join path hname).1
  omega

theorem Parent.length_lt {parent path : String} (h : Parent parent path) :
    parent.length < path.length := by
  obtain ⟨rest, hrest, rfl⟩ := h.text
  have hpos : rest.length ≠ 0 := by simpa using hrest
  rw [String.length_append]
  omega

end

end EnumForge.Path
