import EnumForge.Proofs.Emit.Recovery
import EnumForge.Proofs.Table.Library

namespace EnumForge

open Emit

section Place

variable {f : Family} {gs : List Family} {name : String}

theorem filter_of_greater (h : ∀ g ∈ gs, name < g.name) :
    gs.filter (·.name < name) = [] ∧ gs.filter (name < ·.name) = gs := by
  constructor
  · rw [List.filter_eq_nil_iff]
    intro g hg
    rw [decide_eq_true_eq]
    exact (h g hg).not_gt
  · rw [List.filter_eq_self]
    intro g hg
    rw [decide_eq_true_eq]
    exact h g hg

theorem filter_cons_of_less {g : Family} (h : g.name < name) (gs : List Family) :
    (g :: gs).filter (·.name < name) = g :: gs.filter (·.name < name) ∧
      (g :: gs).filter (name < ·.name) = gs.filter (name < ·.name) := by
  have hkept : ¬ name < g.name := h.not_gt
  constructor
  · exact List.filter_cons_of_pos (by simpa using h)
  · exact List.filter_cons_of_neg (by simpa using hkept)

/-- Families in order are those before a name and those after it. -/
theorem eq_filter_append_filter (hsorted : gs.Pairwise (fun a b => a.name < b.name))
    (hnew : ∀ g ∈ gs, g.name ≠ name) :
    gs = gs.filter (·.name < name) ++ gs.filter (name < ·.name) := by
  induction gs with
  | nil => rfl
  | cons g gs ih =>
    obtain ⟨hg, hgs⟩ := List.pairwise_cons.1 hsorted
    obtain ⟨hne, hnew⟩ := List.forall_mem_cons.1 hnew
    rcases lt_or_gt_of_ne hne with hlt | hgt
    · obtain ⟨hbefore, hafter⟩ := filter_cons_of_less hlt gs
      rw [hbefore, hafter, List.cons_append, ← ih hgs hnew]
    · have hlater : ∀ k ∈ g :: gs, name < k.name :=
        List.forall_mem_cons.2 ⟨hgt, fun k hk => hgt.trans (hg k hk)⟩
      obtain ⟨hnone, hall⟩ := filter_of_greater hlater
      rw [hnone, hall, List.nil_append]

/-- A family with a new name is put after those before its name and before those after it. -/
theorem placeFamily_eq_filter (hsorted : gs.Pairwise (fun a b => a.name < b.name))
    (hnew : ∀ g ∈ gs, g.name ≠ f.name) :
    placeFamily f gs = gs.filter (·.name < f.name) ++ f :: gs.filter (f.name < ·.name) := by
  induction gs with
  | nil => rfl
  | cons g gs ih =>
    obtain ⟨hg, hgs⟩ := List.pairwise_cons.1 hsorted
    obtain ⟨hne, hnew⟩ := List.forall_mem_cons.1 hnew
    rcases lt_or_gt_of_ne hne with hlt | hgt
    · obtain ⟨hbefore, hafter⟩ := filter_cons_of_less hlt gs
      rw [placeFamily, if_neg hlt.not_gt, if_neg (Ne.symm hne), ih hgs hnew, hbefore, hafter,
        List.cons_append]
    · have hlater : ∀ k ∈ g :: gs, f.name < k.name :=
        List.forall_mem_cons.2 ⟨hgt, fun k hk => hgt.trans (hg k hk)⟩
      obtain ⟨hnone, hall⟩ := filter_of_greater hlater
      rw [placeFamily, if_pos hgt, hnone, hall, List.nil_append]

end Place

/-- The part of a generated text that a family gives. -/
def Family.block (width : Width) (f : Family) : String := " " ++ render (f.tokens width)

def blocks (width : Width) (fs : List Family) : String := String.join (fs.map (Family.block width))

/-- The part of a generated text that no library changes: the header and the fixed items. -/
def fixedPart : String := header ++ render preamble

theorem blocks_append (width : Width) (fs gs : List Family) :
    blocks width (fs ++ gs) = blocks width fs ++ blocks width gs := by
  rw [blocks, List.map_append, String.join_append, blocks, blocks]

theorem blocks_cons (width : Width) (f : Family) (fs : List Family) :
    blocks width (f :: fs) = f.block width ++ blocks width fs := by
  rw [blocks, List.map_cons, String.join_cons, blocks]

/-- The code of a family ends with a brace. -/
theorem FamilyCode.getLastD_tokens (code : FamilyCode) (left : Token) :
    code.tokens.getLastD left = .word "\x7d" := by
  have hend : ∃ ts, code.deserializeTokens = ts ++ [.word "\x7d"] := by
    simp only [deserializeTokens, braces, ← List.cons_append, ← List.append_assoc]
    exact ⟨_, rfl⟩
  obtain ⟨ts, hts⟩ := hend
  rw [tokens, hts, ← List.append_assoc, List.getLastD_concat]

/-- So do the fixed items. -/
theorem getLastD_preamble (left : Token) : preamble.getLastD left = .word "\x7d" := by
  have hend : ∃ ts, errorSource = ts ++ [.word "\x7d"] := by
    simp only [errorSource, braces, ← List.cons_append, ← List.append_assoc]
    exact ⟨_, rfl⟩
  obtain ⟨ts, hts⟩ := hend
  rw [preamble, hts, ← List.append_assoc, List.getLastD_concat]

/-- After a brace a family's tokens are written as on a line of their own, after a blank. -/
theorem lettersAfter_tokens (width : Width) (f : Family) :
    lettersAfter (.word "\x7d") (f.tokens width) = (f.block width).toList := by
  obtain ⟨ts, hts⟩ := (f.code width).tokens_eq_cons
  rw [Family.block, String.toList_append, toList_render, Family.tokens, hts, lettersAfter_cons,
    lettersAfter_cons]
  rfl

theorem lettersAfter_blocks (width : Width) (fs : List Family) :
    lettersAfter (.word "\x7d") (fs.flatMap (Family.tokens width)) =
      (blocks width fs).toList := by
  induction fs with
  | nil => rfl
  | cons f fs ih =>
    have hlast : (Family.tokens width f).getLastD (.word "\x7d") = .word "\x7d" :=
      (f.code width).getLastD_tokens _
    rw [List.flatMap_cons, lettersAfter_append, hlast, ih, lettersAfter_tokens, blocks_cons,
      String.toList_append]

/-- A generated text is the fixed part, the blocks of its families, and the end of the line. -/
theorem Library.text_eq (width : Width) (library : Library) :
    library.text width = fixedPart ++ blocks width library.families ++ "\n" := by
  apply String.toList_inj.1
  rw [toList_text, Library.tokens, lettersAfter_append, getLastD_preamble, lettersAfter_blocks,
    fixedPart, String.toList_append, String.toList_append, String.toList_append, toList_render]
  simp only [List.append_assoc]
  rfl

/-- A library to which a family of a new name is added: its text is the one before with the block of
the family inserted, after the blocks of the families before it by name and before all others. -/
theorem generated_text_insert {library : Library} {f : Family} {options : Options}
    {before after : String} (hnew : library.get? f.name = none)
    (hbefore : (generate library options).result = .ok before)
    (hafter : (generate (library.insert f) options).result = .ok after) :
    before = fixedPart ++ blocks options.width (library.families.filter (·.name < f.name)) ++
        blocks options.width (library.families.filter (f.name < ·.name)) ++ "\n" ∧
      after = fixedPart ++ blocks options.width (library.families.filter (·.name < f.name)) ++
        f.block options.width ++
        blocks options.width (library.families.filter (f.name < ·.name)) ++ "\n" := by
  obtain ⟨-, -, rfl⟩ := (generate_eq_ok_iff library options before).1 hbefore
  obtain ⟨-, -, rfl⟩ := (generate_eq_ok_iff (library.insert f) options after).1 hafter
  have hfree : ∀ g ∈ library.families, g.name ≠ f.name := by
    intro g hg hname
    rw [library.mem_families_iff, hname, hnew] at hg
    simp at hg
  have hfamilies := eq_filter_append_filter library.sorted hfree
  have hinsert := placeFamily_eq_filter library.sorted hfree
  constructor
  · rw [Library.text_eq]
    conv_lhs => rw [hfamilies]
    rw [blocks_append, ← String.append_assoc]
  · rw [Library.text_eq]
    change fixedPart ++ blocks options.width (placeFamily f library.families) ++ "\n" = _
    rw [hinsert, blocks_append, blocks_cons]
    simp only [String.append_assoc]

def Family.apple : Family := ⟨"Apple", [⟨"Red", 1⟩, ⟨"Yellow", 2⟩], by decide⟩

def Family.lemon : Family := ⟨"Lemon", [⟨"Yellow", 1⟩], by decide⟩

def Family.pear : Family := ⟨"Pear", [⟨"Green", 2⟩, ⟨"Ripe", 2⟩], by decide⟩

/-- A library with a gap between its two families. -/
def Library.orchard : Library := ⟨[.apple, .pear], by decide⟩

/-- A block is put into the gap. -/
theorem lemon_between :
    Library.orchard.get? "Lemon" = none ∧
      (generate Library.orchard .default).result =
        .ok (fixedPart ++ blocks .u32 [.apple] ++ blocks .u32 [.pear] ++ "\n") ∧
      (generate (Library.orchard.insert .lemon) .default).result =
        .ok (fixedPart ++ blocks .u32 [.apple] ++ Family.lemon.block .u32 ++
          blocks .u32 [.pear] ++ "\n") := by
  have hnew : Library.orchard.get? Family.lemon.name = none := by decide
  have hbefore : (generate Library.orchard .default).result =
      .ok (Library.orchard.text .u32) :=
    generate_of_validate (by decide +kernel) (by decide +kernel)
  have hafter : (generate (Library.orchard.insert .lemon) .default).result =
      .ok ((Library.orchard.insert .lemon).text .u32) :=
    generate_of_validate (by decide +kernel) (by decide +kernel)
  obtain ⟨htext, hlonger⟩ := generated_text_insert hnew hbefore hafter
  have hfirst : Library.orchard.families.filter (·.name < Family.lemon.name) = [.apple] := by
    decide
  have hlast : Library.orchard.families.filter (Family.lemon.name < ·.name) = [.pear] := by
    decide
  rw [hfirst, hlast] at htext hlonger
  refine ⟨hnew, ?_, ?_⟩
  · rw [hbefore, htext]
    rfl
  · rw [hafter, hlonger]
    rfl

end EnumForge
