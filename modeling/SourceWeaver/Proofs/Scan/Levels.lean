/-
  Code at another level.

  Where no brace is left out, a run of code that begins some levels deeper comes out the same, each
  line with text some levels further to the right, and ends that many levels deeper
  (`codeRun_deeper`).  Behind such a run no blanks are held back unless it ends with one
  (`blanks_codeRun`), and outside a switch nothing is left of the clauses of one
  (`State.Consistent.clauseLevels_eq_zero`).
-/

import SourceWeaver.Proofs.Scan.Passages
import SourceWeaver.Proofs.Scan.Invariant

namespace SourceWeaver

open Text

namespace Settings

theorem indent_add (cfg : Settings) (k n : Nat) :
    cfg.indent (k + n) = cfg.indent k ++ cfg.indent n := by
  rw [← String.toList_inj, String.toList_append, toList_indent, toList_indent, toList_indent,
    Nat.mul_add, List.replicate_append_replicate]

/-- A line some levels further to the right; an empty line stays empty. -/
def indentLine (cfg : Settings) (k : Nat) (line : String) : String :=
  if line = "" then "" else cfg.indent k ++ line

theorem indentLine_empty (cfg : Settings) (k : Nat) : cfg.indentLine k "" = "" := rfl

theorem indentLine_of_ne_empty {cfg : Settings} {line : String} (h : line ≠ "") (k : Nat) :
    cfg.indentLine k line = cfg.indent k ++ line :=
  if_neg h

end Settings

namespace Scan

variable {cfg : Settings} {s : State} {line : String}

/-! ## Runs of code -/

theorem codeRun_append (a b : List String) :
    codeRun cfg s (a ++ b) =
      ((codeRun cfg (codeRun cfg s a).1 b).1,
        (codeRun cfg s a).2 ++ (codeRun cfg (codeRun cfg s a).1 b).2) := by
  induction a generalizing s with
  | nil => rfl
  | cons line rest ih => rw [List.cons_append, codeRun_cons, codeRun_cons, ih, List.append_assoc]

/-- What is left out of a run of code, in order. -/
def codeElisions (cfg : Settings) (s : State) : List String → List Elision
  | [] => []
  | line :: rest => (elision? s line).toList ++ codeElisions cfg (codeLine cfg s line).1 rest

theorem codeElisions_cons_eq_nil_iff (rest : List String) :
    codeElisions cfg s (line :: rest) = [] ↔
      elision? s line = none ∧ codeElisions cfg (codeLine cfg s line).1 rest = [] := by
  rw [codeElisions, List.append_eq_nil_iff, Option.toList_eq_nil_iff]

theorem codeElisions_append (a b : List String) :
    codeElisions cfg s (a ++ b) =
      codeElisions cfg s a ++ codeElisions cfg (codeRun cfg s a).1 b := by
  induction a generalizing s with
  | nil => rfl
  | cons line rest ih =>
    rw [List.cons_append, codeElisions, codeElisions, ih, codeRun_cons, List.append_assoc]

/-! ## Deeper states -/

/-- The same state some levels deeper. -/
def State.deeper (s : State) (k : Nat) : State :=
  { s with depth := k + s.depth }

/-- A closing brace is left out for want of an open block, so one that is not left out finds its
    block on any deeper level too. -/
theorem elision?_deeper (k : Nat) (h : elision? s line = none) :
    elision? (s.deeper k) line = none := by
  unfold elision? at h ⊢
  simp only [State.deeper]
  grind

theorem beforeLine_deeper (k : Nat) (h : elision? s line = none) :
    (s.deeper k).beforeLine line = (s.beforeLine line).deeper k := by
  have hdepth : (if closesBlock line && !s.inSwitch then k + s.depth - 1 else k + s.depth) =
      k + if closesBlock line && !s.inSwitch then s.depth - 1 else s.depth := by
    -- the depth is cut off at zero, which a brace that is not left out never meets
    by_cases hcloses : (closesBlock line && !s.inSwitch) = true
    · have hpos : 0 < s.depth := by
        unfold elision? at h
        grind
      rw [if_pos hcloses, if_pos hcloses]
      omega
    · rw [if_neg hcloses, if_neg hcloses]
  unfold State.beforeLine State.deeper
  dsimp only
  rw [hdepth]

theorem afterLine_deeper (cfg : Settings) (s : State) (k : Nat) (line : String) :
    (s.deeper k).afterLine cfg line = (s.afterLine cfg line).deeper k := by
  have hdepth : (if !cfg.startsSwitch line && opensBlock line then k + s.depth + 1
        else k + s.depth) =
      k + if !cfg.startsSwitch line && opensBlock line then s.depth + 1 else s.depth := by
    by_cases hopens : (!cfg.startsSwitch line && opensBlock line) = true
    · rw [if_pos hopens, if_pos hopens]
      omega
    · rw [if_neg hopens, if_neg hopens]
  unfold State.afterLine State.deeper
  dsimp only
  rw [hdepth]

theorem levelOf_deeper (s : State) (k : Nat) (line : String) :
    (s.deeper k).levelOf line = k + s.levelOf line :=
  Nat.add_assoc _ _ _

/-- Held blanks come out as empty lines on every level. -/
theorem map_indentLine_blanks (cfg : Settings) (k : Nat) (b : Blanks) :
    b.lines.map (cfg.indentLine k) = b.lines := by
  rw [Blanks.lines, List.map_replicate, Settings.indentLine_empty]

/-- A line of code that is not left out comes out the same some levels deeper, further to the
    right. -/
theorem codeLine_deeper (cfg : Settings) (k : Nat) (h : elision? s line = none) :
    codeLine cfg (s.deeper k) line =
      ((codeLine cfg s line).1.deeper k, (codeLine cfg s line).2.map (cfg.indentLine k)) := by
  have hdeeper := elision?_deeper k h
  -- a blank line has no indentation to grow
  by_cases hline : line = ""
  · subst hline
    rw [codeLine_blank h, codeLine_blank hdeeper, beforeLine_deeper k h, afterLine_deeper]
    rfl
  · have hshown : cfg.indent ((s.beforeLine line).levelOf line) ++ line ≠ "" :=
      indent_append_ne_empty hline _
    rw [codeLine_text h hline, codeLine_text hdeeper hline, beforeLine_deeper k h,
      afterLine_deeper, levelOf_deeper, cfg.indent_add, List.map_append, map_indentLine_blanks,
      List.map_singleton, Settings.indentLine_of_ne_empty hshown, String.append_assoc]
    rfl

/-- A run of code that leaves nothing out comes out the same some levels deeper, its lines with text
    further to the right, and ends as much deeper. -/
theorem codeRun_deeper (cfg : Settings) (k : Nat) {lines : List String}
    (h : codeElisions cfg s lines = []) :
    codeRun cfg (s.deeper k) lines =
      ((codeRun cfg s lines).1.deeper k, (codeRun cfg s lines).2.map (cfg.indentLine k)) := by
  induction lines generalizing s with
  | nil => rfl
  | cons line rest ih =>
    obtain ⟨hline, hrest⟩ := (codeElisions_cons_eq_nil_iff rest).mp h
    rw [codeRun_cons, codeLine_deeper cfg k hline, ih hrest, codeRun_cons, List.map_append]

/-! ## Lines outside a switch -/

/-- Outside a switch, with no blanks held, the braces of a line alone decide about its level and the
    depth behind it. -/
theorem codeLine_outside_switch (hs : s.inSwitch = false) (hlevels : s.clauseLevels = 0)
    (hblanks : s.blanks = {}) (h : elision? s line = none) (hline : line ≠ "")
    (hswitch : cfg.startsSwitch line = false) :
    codeLine cfg s line =
      ({ s with
          pendingOpener := false
          depth := (if closesBlock line then s.depth - 1 else s.depth) +
            if opensBlock line then 1 else 0 },
        [cfg.indent (if closesBlock line then s.depth - 1 else s.depth) ++ line]) := by
  have hempty : (line == "") = false := by simpa using hline
  -- nothing is held back, so the line comes out alone
  have hheld : s.blanks.lines = [] := by
    rw [hblanks]
    rfl
  -- a closing brace acts before its own line, and an opening one behind it
  have hlevel : (s.beforeLine line).levelOf line =
      if closesBlock line then s.depth - 1 else s.depth := by
    simp [State.levelOf, State.beforeLine, hs, hlevels]
  have hstate : ({ (s.beforeLine line).afterLine cfg line with blanks := {} } : State) =
      { s with
          pendingOpener := false
          depth := (if closesBlock line then s.depth - 1 else s.depth) +
            if opensBlock line then 1 else 0 } := by
    simp only [State.afterLine, State.beforeLine, hs, hlevels, hswitch, hempty, hblanks]
    cases opensBlock line <;> simp
  rw [codeLine_text h hline, hlevel, hstate, hheld, List.nil_append]

/-! ## Where a run of code ends -/

theorem State.Consistent.codeRun (hs : s.Consistent) (hskip : s.skipping = false)
    (lines : List String) : (codeRun cfg s lines).1.Consistent := by
  induction lines generalizing s with
  | nil => exact hs
  | cons line rest ih =>
    rw [codeRun_cons]
    exact ih (hs.codeLine hskip) (codeLine_skipping.trans hskip)

/-- Outside a switch no level is left of its clauses. -/
theorem State.Consistent.clauseLevels_eq_zero (hs : s.Consistent) (h : s.inSwitch = false) :
    s.clauseLevels = 0 := by
  have hle := hs.clauseLevels_le
  have hone : s.clauseLevels ≠ 1 := by
    intro h1
    exact absurd (h.symm.trans (hs.clauseLevels h1)) (by decide)
  omega

/-- A run of code that leaves nothing out and does not end with a blank line holds no blanks
    back. -/
theorem blanks_codeRun (hs : s.blanks = {}) {lines : List String}
    (h : codeElisions cfg s lines = []) (hlast : ∀ line ∈ lines.getLast?, line ≠ "") :
    (codeRun cfg s lines).1.blanks = {} := by
  -- a line with text gives out what was held before it, so the last line alone matters
  induction lines using List.reverseRecOn with
  | nil => exact hs
  | append_singleton lines line _ =>
    have hline : line ≠ "" := hlast line (by simp)
    rw [codeElisions_append, List.append_eq_nil_iff] at h
    obtain ⟨hshown, -⟩ := (codeElisions_cons_eq_nil_iff []).mp h.2
    rw [codeRun_append, codeRun_cons, codeLine_text hshown hline]
    rfl

end Scan
end SourceWeaver
