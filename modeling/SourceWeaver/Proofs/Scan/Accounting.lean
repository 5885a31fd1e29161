/-
  What becomes of every line of code.

  Outside comments a line of code is left out, or it comes out once and in its place: a blank line
  when the next line with text does, any other at once.  So what has come out and what is still
  held back are together the lines that are not left out (`run_accounted`).

  Which lines these are can be told without the flags of the scan: a closing brace that ends no
  block, and a bare opening brace right behind one (`behindBrace`, `pendingOpener_run_eq`).  The
  code that comes out is then what remains without these lines, up to its last line with text
  (`code_accounted`).
-/

import SourceWeaver.Proofs.Scan.Levels
import SourceWeaver.Proofs.Scan.Nesting
import SourceWeaver.Proofs.Text.Trimming
import Mathlib.Data.List.DropRight

namespace SourceWeaver

open Text

/-! ## Indented lines -/

/-- Trimming takes away the indentation of a line. -/
theorem Settings.trim_indentLine (cfg : Settings) (k : Nat) (raw : String) :
    trim (cfg.indentLine k (trim raw)) = trim raw := by
  by_cases hline : trim raw = ""
  · rw [hline, indentLine_empty]
    decide
  · have hblank : ∀ c ∈ (cfg.indent k).toList, isBlank c = true := by
      intro c hc
      rw [toList_indent] at hc
      rw [List.eq_of_mem_replicate hc]
      decide
    rw [indentLine_of_ne_empty hline, ← String.toList_inj, toList_trim, String.toList_append,
      trimmed_append_of_blank hblank, ← toList_trim, trim_trim]

namespace Scan

variable {cfg : Settings} {s : State} {raw line : String} {lines : List String}

/-! ## Lines with what stands before them -/

/-- The lines of a source, each behind those that stand before it. -/
def withBefore (lines : List String) : List (List String × String) :=
  lines.mapIdx fun i raw => (lines.take i, raw)

theorem withBefore_concat (lines : List String) (raw : String) :
    withBefore (lines ++ [raw]) = withBefore lines ++ [(lines, raw)] := by
  have hinit : (lines.mapIdx fun i r => ((lines ++ [raw]).take i, r)) = withBefore lines := by
    refine List.ext_getElem (by simp [withBefore]) fun i hi _ => ?_
    have hle : i ≤ lines.length := by
      rw [List.length_mapIdx] at hi
      omega
    simp [withBefore, List.take_append_of_le_length hle]
  rw [withBefore, List.mapIdx_concat, hinit, List.take_left]

/-! ## One line -/

/-- Whether a line of code leaves nothing in the document. -/
def Visit.isLeftOut (cfg : Settings) (v : Visit) : Bool :=
  cfg.elides v.line || (elision? v.state v.line).isSome

/-- A line of code at its level. -/
def Visit.shown (cfg : Settings) (v : Visit) : String :=
  cfg.indentLine ((v.state.beforeLine v.line).levelOf v.line) v.line

/-- What the document holds of a line of code. -/
def Visit.kept (cfg : Settings) (v : Visit) : List String :=
  if v.isLeftOut cfg then [] else [v.shown cfg]

/-- A line of code comes out or is held back, behind the blanks that were held before it, unless it
    is left out. -/
theorem codeLine_accounted (cfg : Settings) (s : State) (line : String) :
    (codeLine cfg s line).2 ++ (codeLine cfg s line).1.blanks.lines =
      s.blanks.lines ++
        if (elision? s line).isSome then [] else [(Visit.mk s line).shown cfg] := by
  cases he : elision? s line with
  | some e => cases e <;> simp [codeLine_opener, codeLine_closer, he]
  | none =>
    by_cases hline : line = ""
    · subst hline
      rw [codeLine_blank he, List.nil_append]
      exact s.blanks.lines_push
    · rw [codeLine_text he hline]
      simp [Visit.shown, Settings.indentLine_of_ne_empty hline, Blanks.lines]

theorem elides_of_isCodeLine (h : isCodeLine cfg raw = true) : cfg.elides (trim raw) = false := by
  simp only [isCodeLine, Bool.and_eq_true, Bool.not_eq_true'] at h
  exact h.1.1

/-- A line of code neither begins nor ends a comment. -/
theorem unmarked_of_isCodeLine (h : isCodeLine cfg raw = true) :
    cfg.beginsComment raw = false ∧ cfg.endsComment raw = false := by
  simp only [isCodeLine, Bool.and_eq_true, Bool.not_eq_true'] at h
  obtain ⟨⟨-, hopens⟩, hcloses⟩ := h
  rw [Settings.beginsComment, Settings.endsComment, hopens, hcloses]
  exact ⟨Bool.and_false _, Bool.and_false _⟩

section Step

variable (hs : s.InCode) (hbegins : cfg.beginsComment raw = false)
  (hends : cfg.endsComment raw = false)

include hbegins hends in
theorem isCodeLine_of_kept (he : cfg.elides (trim raw) = false) : isCodeLine cfg raw = true := by
  simp only [Settings.beginsComment, he, Bool.not_false, Bool.true_and] at hbegins
  simp only [Settings.endsComment, he, Bool.not_false, Bool.true_and] at hends
  simp [isCodeLine, he, hbegins, hends]

include hs hbegins hends

/-- Outside comments a line that neither begins nor ends one is code or is left out. -/
theorem step_accounted :
    ∃ out : List String, (step cfg s raw).2 = out.map .text ∧ (step cfg s raw).1.InCode ∧
      out ++ (step cfg s raw).1.blanks.lines =
        s.blanks.lines ++ (Visit.mk s (trim raw)).kept cfg ∧
      ∀ line ∈ out.getLast?, trim line ≠ "" := by
  cases he : cfg.elides (trim raw) with
  | true =>
    rw [step_of_wrapper (role_eq_wrapper_iff.mpr he)]
    refine ⟨[], rfl, ⟨hs.inComment, hs.skipping⟩, ?_, by simp⟩
    simp [Visit.kept, Visit.isLeftOut, he, State.next]
  | false =>
    have hcode := isCodeLine_of_kept hbegins hends he
    refine ⟨(codeLine cfg s.next (trim raw)).2, ?_, hs.step hcode, ?_, ?_⟩
    · rw [step_of_inCode hs hcode]
    · rw [step_of_inCode hs hcode]
      refine (codeLine_accounted cfg s.next (trim raw)).trans ?_
      simp only [Visit.kept, Visit.isLeftOut, he, Bool.false_or]
      rfl
    · intro line hlast
      -- what comes out ends with the line itself, which is not blank
      rcases codeLine_emits cfg s.next (trim raw) with hnil | ⟨hline, hemit⟩
      · rw [hnil] at hlast
        cases hlast
      · rw [hemit, List.getLast?_concat, Option.mem_some_iff] at hlast
        rw [← hlast, ← Settings.indentLine_of_ne_empty hline, cfg.trim_indentLine]
        exact hline

end Step

/-! ## Runs of code -/

/-- Outside comments, what comes out and what is held back at the end are the blanks that were held
    at the start and every line that is not left out, at its level and in order. -/
theorem run_accounted (hs : s.InCode)
    (hlines : ∀ raw ∈ lines, cfg.beginsComment raw = false ∧ cfg.endsComment raw = false) :
    ∃ out : List String, (run cfg s lines).2 = out.map .text ∧ (run cfg s lines).1.InCode ∧
      out ++ (run cfg s lines).1.blanks.lines =
        s.blanks.lines ++ (visits cfg s lines).flatMap (·.kept cfg) ∧
      ∀ line ∈ out.getLast?, trim line ≠ "" := by
  induction lines generalizing s with
  | nil => exact ⟨[], rfl, hs, by simp [run_nil, visits_nil], by simp⟩
  | cons raw rest ih =>
    obtain ⟨hraw, hrest⟩ := List.forall_mem_cons.mp hlines
    obtain ⟨out, hout, hcode, hkept, hlast⟩ := step_accounted hs hraw.1 hraw.2
    obtain ⟨more, hmore, hcode', hkept', hlast'⟩ := ih hcode hrest
    -- what the first line leaves held back is what the rest begins with
    refine ⟨out ++ more, ?_, hcode', ?_, ?_⟩
    · rw [run_cons, hout, hmore, List.map_append]
    · rw [run_cons, visits_cons, List.flatMap_cons, List.append_assoc, hkept', ← List.append_assoc,
        hkept, List.append_assoc]
    -- the last line is one of the rest, or of the first line if the rest emits none
    · intro line h
      rw [List.getLast?_append] at h
      cases hm : more.getLast? with
      | none => exact hlast line (by simpa [hm] using h)
      | some x => exact hlast' line (by simpa [hm] using h)

/-! ## Lines that are left out -/

/-- A closing brace met outside a switch at depth zero: there is no block for it to end. -/
def Visit.endsNoBlock (v : Visit) : Bool :=
  closesBlock v.line && !v.state.inSwitch && v.state.depth == 0

/-- A line that is neither blank nor left out with the entry-point wrapper. -/
def Visit.hasText (cfg : Settings) (v : Visit) : Bool :=
  v.line != "" && !cfg.elides v.line

/-- Whether the last line with text is a closing brace that ends no block.  Before the first line
    with text, it is as the scan began. -/
def behindBrace (cfg : Settings) (s : State) (before : List String) : Bool :=
  ((visits cfg s before).filter (·.hasText cfg)).getLast?.elim s.pendingOpener (·.endsNoBlock)

/-- Whether a line of code, behind some others, is left out: with the entry-point wrapper, as a
    closing brace that ends no block, or as a bare opening brace right behind one. -/
def leftOut (cfg : Settings) (s : State) (before : List String) (raw : String) : Bool :=
  cfg.elides (trim raw) || (Visit.mk (run cfg s before).1 (trim raw)).endsNoBlock ||
    trim raw == "\x7b" && behindBrace cfg s before

/-- The trimmed lines of some code that are not left out. -/
def remaining (cfg : Settings) (s : State) (lines : List String) : List String :=
  ((withBefore lines).filter fun p => !leftOut cfg s p.1 p.2).map fun p => trim p.2

theorem endsNoBlock_iff {v : Visit} :
    v.endsNoBlock = true ↔ elision? v.state v.line = some .closer := by
  rw [elision?_eq_closer_iff, Visit.endsNoBlock]
  simp [and_assoc]

theorem isLeftOut_eq (cfg : Settings) (v : Visit) :
    v.isLeftOut cfg =
      (cfg.elides v.line || v.endsNoBlock || v.line == "\x7b" && v.state.pendingOpener) := by
  unfold Visit.isLeftOut Visit.endsNoBlock elision?
  grind

theorem behindBrace_concat (before : List String) (raw : String) :
    behindBrace cfg s (before ++ [raw]) =
      if (Visit.mk (run cfg s before).1 (trim raw)).hasText cfg then
        (Visit.mk (run cfg s before).1 (trim raw)).endsNoBlock
      else behindBrace cfg s before := by
  rw [behindBrace, visits_concat, List.filter_append]
  by_cases ht : (Visit.mk (run cfg s before).1 (trim raw)).hasText cfg = true
  · rw [if_pos ht, List.filter_cons_of_pos ht, List.filter_nil, List.getLast?_concat,
      Option.elim_some]
  · rw [if_neg ht, List.filter_cons_of_neg ht, List.filter_nil, List.append_nil, behindBrace]

theorem remaining_concat (lines : List String) (raw : String) :
    remaining cfg s (lines ++ [raw]) =
      remaining cfg s lines ++ if leftOut cfg s lines raw then [] else [trim raw] := by
  rw [remaining, withBefore_concat, List.filter_append, List.map_append, ← remaining]
  cases hout : leftOut cfg s lines raw <;> simp [hout]

/-- An opening brace is pending behind a line of code with text if that line is a closing brace that
    ends no block, and behind a blank line if it was before. -/
theorem pendingOpener_codeLine (cfg : Settings) (s : State) (line : String) :
    (codeLine cfg s line).1.pendingOpener =
      if line = "" then s.pendingOpener else (Visit.mk s line).endsNoBlock := by
  cases he : elision? s line with
  | none =>
    have hblock : (Visit.mk s line).endsNoBlock = false := by
      rw [Bool.eq_false_iff, ne_eq, endsNoBlock_iff, he]
      simp
    obtain ⟨-, -, hpending⟩ := codeLine_of_shown cfg he
    rw [hpending, hblock]
    by_cases hline : line = "" <;> simp [hline]
  | some e =>
    cases e with
    | closer =>
      have hblock : (Visit.mk s line).endsNoBlock = true := endsNoBlock_iff.mpr he
      have hempty : (Visit.mk s "").endsNoBlock = false := by
        have hcloses : closesBlock "" = false := by decide
        rw [Visit.endsNoBlock, hcloses, Bool.false_and, Bool.false_and]
      -- the brace is text, so the line is not blank
      have hline : line ≠ "" := by
        rintro rfl
        exact absurd (hblock.symm.trans hempty) (by decide)
      rw [codeLine_closer he, if_neg hline, hblock]
    | opener =>
      -- a bare opening brace ends no block
      obtain ⟨-, rfl⟩ := elision?_eq_opener_iff.mp he
      have hcloses : closesBlock "\x7b" = false := by decide
      rw [codeLine_opener he, if_neg (by decide), Visit.endsNoBlock, hcloses, Bool.false_and,
        Bool.false_and]

/-- A line with text decides whether an opening brace is pending behind it; any other line leaves it
    as it is. -/
theorem pendingOpener_step (hs : s.InCode) (hbegins : cfg.beginsComment raw = false)
    (hends : cfg.endsComment raw = false) :
    (step cfg s raw).1.pendingOpener =
      if (Visit.mk s (trim raw)).hasText cfg then (Visit.mk s (trim raw)).endsNoBlock
      else s.pendingOpener := by
  cases he : cfg.elides (trim raw) with
  -- a line of the entry-point wrapper has no text for the scan
  | true =>
    rw [step_of_wrapper (role_eq_wrapper_iff.mpr he)]
    simp [Visit.hasText, he, State.next]
  | false =>
    rw [step_of_inCode hs (isCodeLine_of_kept hbegins hends he), pendingOpener_codeLine]
    by_cases hline : trim raw = ""
    · simp [Visit.hasText, hline, State.next]
    · simp [Visit.hasText, Visit.endsNoBlock, he, hline, State.next]

section Run

variable (hs : s.InCode)
  (hlines : ∀ raw ∈ lines, cfg.beginsComment raw = false ∧ cfg.endsComment raw = false)

include hs hlines

/-- Whether an opening brace is pending can be told from the lines. -/
theorem pendingOpener_run_eq : (run cfg s lines).1.pendingOpener = behindBrace cfg s lines := by
  induction lines using List.reverseRecOn with
  | nil => rfl
  | append_singleton lines raw ih =>
    obtain ⟨hbefore, hraw⟩ := List.forall_mem_append.mp hlines
    obtain ⟨hbegins, hends⟩ := hraw raw (List.mem_singleton_self raw)
    obtain ⟨-, -, hcode, -, -⟩ := run_accounted hs hbefore
    rw [run_concat, behindBrace_concat, ← ih hbefore]
    exact pendingOpener_step hcode hbegins hends

/-- What the document holds of some code is what remains of it. -/
theorem flatMap_kept_eq_remaining :
    ((visits cfg s lines).flatMap (·.kept cfg)).map trim = remaining cfg s lines := by
  induction lines using List.reverseRecOn with
  | nil => rfl
  | append_singleton lines raw ih =>
    obtain ⟨hbefore, -⟩ := List.forall_mem_append.mp hlines
    -- the flag that a step reads can be told from the lines before
    have hout :
        (Visit.mk (run cfg s lines).1 (trim raw)).isLeftOut cfg = leftOut cfg s lines raw := by
      rw [isLeftOut_eq, leftOut, pendingOpener_run_eq hs hbefore]
    rw [visits_concat, List.flatMap_append, List.map_append, ih hbefore, remaining_concat,
      List.flatMap_singleton, Visit.kept, hout]
    cases leftOut cfg s lines raw with
    | true => rfl
    | false => simp [Visit.shown, cfg.trim_indentLine]

end Run

/-! ## Exact accounting -/

theorem map_trim_blanks (b : Blanks) : b.lines.map trim = b.lines := by
  have hempty : trim "" = "" := by decide
  rw [Blanks.lines, List.map_replicate, hempty]

/-- Blanks behind a line with text are the trailing blanks of a text. -/
theorem rdropWhile_append_blanks {out : List String} (h : ∀ line ∈ out.getLast?, line ≠ "")
    (b : Blanks) :
    (out ++ b.lines).rdropWhile (· == "") = out ∧
      (out ++ b.lines).rtakeWhile (· == "") = b.lines := by
  have hlast : ∀ hne : out ≠ [], ¬(out.getLast hne == "") = true := by
    intro hne
    rw [beq_iff_eq]
    exact h _ (List.getLast?_eq_some_getLast hne)
  -- taken off one by one, the blanks leave a list that ends with text
  obtain ⟨n⟩ := b
  simp only [Blanks.lines]
  induction n with
  | zero =>
    rw [List.replicate_zero, List.append_nil]
    exact ⟨List.rdropWhile_eq_self_iff.mpr hlast, List.rtakeWhile_eq_nil_iff.mpr hlast⟩
  | succ n ih =>
    rw [List.replicate_succ', ← List.append_assoc,
      List.rdropWhile_concat_pos (· == "") _ "" (beq_self_eq_true ""),
      List.rtakeWhile_concat_pos (· == "") _ "" (beq_self_eq_true "")]
    exact ⟨ih.1, by rw [ih.2]⟩

/-- Where code begins with no blanks held back, what has come out, apart from its indentation, and
    what is held back at the end are together what remains of it, and what has come out ends with
    text. -/
theorem run_remaining (hs : s.InCode) (hblanks : s.blanks.held = 0)
    (hlines : ∀ raw ∈ lines, cfg.beginsComment raw = false ∧ cfg.endsComment raw = false) :
    ∃ out : List String, (run cfg s lines).2 = out.map .text ∧
      out.map trim ++ (run cfg s lines).1.blanks.lines = remaining cfg s lines ∧
      ∀ line ∈ (out.map trim).getLast?, line ≠ "" := by
  obtain ⟨out, hout, -, hkept, hlast⟩ := run_accounted hs hlines
  refine ⟨out, hout, ?_, ?_⟩
  · rw [← flatMap_kept_eq_remaining hs hlines, ← map_trim_blanks, ← List.map_append, hkept,
      Blanks.lines_of_none hblanks, List.nil_append]
  · intro line hline
    rw [List.getLast?_map, Option.mem_def, Option.map_eq_some_iff] at hline
    obtain ⟨x, hx, rfl⟩ := hline
    exact hlast x hx

/-- Behind code that begins with no blanks held back, none are held back exactly if what remains of
    the code, if anything does, ends in a line with text. -/
theorem isEmpty_blanks_run_iff (hs : s.InCode) (hblanks : s.blanks.isEmpty = true)
    (hlines : ∀ raw ∈ lines, cfg.beginsComment raw = false ∧ cfg.endsComment raw = false) :
    (run cfg s lines).1.blanks.isEmpty = true ↔
      ∀ line ∈ (remaining cfg s lines).getLast?, line ≠ "" := by
  obtain ⟨out, -, hremaining, htext⟩ := run_remaining hs (Blanks.isEmpty_iff.mp hblanks) hlines
  rw [Blanks.isEmpty_iff, ← hremaining]
  constructor
  · intro hheld
    rw [Blanks.lines_of_none hheld, List.append_nil]
    exact htext
  -- a blank line that is held back would be the last one that remains
  · intro hlast
    by_contra hheld
    have hne : (run cfg s lines).1.blanks.lines ≠ [] := by
      rw [← List.length_pos_iff, Blanks.length_lines]
      omega
    have hmem := List.getLast_mem hne
    refine hlast _ ?_ (Blanks.eq_empty_of_mem_lines hmem)
    rw [List.getLast?_append_of_ne_nil _ hne]
    exact List.getLast?_eq_some_getLast hne

/-- Code that begins with no blanks held back comes out, apart from its indentation, as what remains
    of it up to the last line with text, and the blank lines behind that are held back. -/
theorem code_accounted (hs : s.InCode) (hblanks : s.blanks.held = 0)
    (hlines : ∀ raw ∈ lines, cfg.beginsComment raw = false ∧ cfg.endsComment raw = false) :
    ∃ out : List String, (run cfg s lines).2 = out.map .text ∧
      out.map trim = (remaining cfg s lines).rdropWhile (· == "") ∧
      (run cfg s lines).1.blanks.held =
        ((remaining cfg s lines).rtakeWhile (· == "")).length := by
  obtain ⟨out, hout, hremaining, htext⟩ := run_remaining hs hblanks hlines
  obtain ⟨hdrop, htake⟩ := rdropWhile_append_blanks htext (run cfg s lines).1.blanks
  refine ⟨out, hout, ?_, ?_⟩
  · rw [← hremaining, hdrop]
  · rw [← hremaining, htake, Blanks.length_lines]

/-- A scope that goes on with a bare opening brace, and a second one behind it.  A line of the
    entry-point wrapper stands between the braces. -/
theorem code_accounted_of_scopes :
    State.InCode { index := 7, blockOpen := true, pendingOpener := true } ∧
      (∀ raw ∈ ["", "\x7b", "  a();", "", "\x7d", "  return 0;", "", "\x7b", "  b();", "", " "],
        Settings.beginsComment {} raw = false ∧ Settings.endsComment {} raw = false) ∧
      ∃ out : List String,
        (run {} { index := 7, blockOpen := true, pendingOpener := true }
          ["", "\x7b", "  a();", "", "\x7d", "  return 0;", "", "\x7b", "  b();", "", " "]).2 =
            out.map .text ∧
        out.map trim = ["", "a();", "", "", "b();"] ∧
        (run {} { index := 7, blockOpen := true, pendingOpener := true }
          ["", "\x7b", "  a();", "", "\x7d", "  return 0;", "", "\x7b", "  b();", "",
            " "]).1.blanks.held = 2 := by
  have hs : State.InCode { index := 7, blockOpen := true, pendingOpener := true } := ⟨rfl, rfl⟩
  have hlines : ∀ raw ∈
      ["", "\x7b", "  a();", "", "\x7d", "  return 0;", "", "\x7b", "  b();", "", " "],
      Settings.beginsComment {} raw = false ∧ Settings.endsComment {} raw = false := by
    decide +kernel
  have hremaining : remaining {} { index := 7, blockOpen := true, pendingOpener := true }
      ["", "\x7b", "  a();", "", "\x7d", "  return 0;", "", "\x7b", "  b();", "", " "] =
        ["", "a();", "", "", "b();", "", ""] := by
    decide +kernel
  obtain ⟨out, hout, htrim, hheld⟩ := code_accounted hs rfl hlines
  rw [hremaining] at htrim hheld
  exact ⟨hs, hlines, out, hout, htrim, hheld⟩

end Scan
end SourceWeaver
