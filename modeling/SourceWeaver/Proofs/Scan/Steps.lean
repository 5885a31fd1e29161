/-
  What one step of a scan does.

  `role` decides what a line is, and `step` follows it.  This file says once, for every role, when
  a line has it (`role_eq_closer_iff` and its like) and what the step then does (`step_of_closer`
  and its like); all later invariants are case analyses over the six roles.  Lines of code change
  nothing but the nesting: `codeLine_nesting` and the frame lemmas beside it keep the rest of the
  state apart.
-/

import SourceWeaver.Scan.Step

namespace SourceWeaver

open Text

namespace Settings

/-- A trimmed line that is left out as part of the entry-point wrapper. -/
def elides (cfg : Settings) (line : String) : Bool :=
  !cfg.keepEntryPoint && cfg.isEntryPoint line

/-- A trimmed line that is left out right behind a comment. -/
def pads (cfg : Settings) (line : String) : Bool :=
  line == "" || cfg.isInclude line

/-- Lines as a scan reads them: trimmed, and without the entry-point wrapper if it is left out. -/
def kept (cfg : Settings) (lines : List String) : List String :=
  (lines.map trim).filter fun line => !cfg.elides line

theorem kept_cons_of_elides {cfg : Settings} {raw : String} (h : cfg.elides (trim raw) = true)
    (rest : List String) : cfg.kept (raw :: rest) = cfg.kept rest := by
  simp [kept, h]

theorem kept_cons {cfg : Settings} {raw : String} (h : cfg.elides (trim raw) = false)
    (rest : List String) : cfg.kept (raw :: rest) = trim raw :: cfg.kept rest := by
  simp [kept, h]

end Settings

namespace Scan

variable {cfg : Settings} {s : State} {line raw : String}

/-! ## When a line has a role -/

theorem role_eq_wrapper_iff : role cfg s line = .wrapper ↔ cfg.elides line = true := by
  unfold role Settings.elides
  grind

theorem role_eq_skipped_iff :
    role cfg s line = .skipped ↔
      cfg.elides line = false ∧ s.skipping = true ∧ cfg.pads line = true := by
  unfold role Settings.elides Settings.pads
  grind

theorem role_eq_closer_iff :
    role cfg s line = .closer ↔
      cfg.elides line = false ∧ (s.skipping && cfg.pads line) = false ∧
        cfg.closesComment line = true := by
  unfold role Settings.elides Settings.pads
  grind

theorem role_eq_prose_iff :
    role cfg s line = .prose ↔
      cfg.elides line = false ∧ (s.skipping && cfg.pads line) = false ∧
        cfg.closesComment line = false ∧ s.inComment = true := by
  unfold role Settings.elides Settings.pads
  grind

theorem role_eq_opener_iff :
    role cfg s line = .opener ↔
      cfg.elides line = false ∧ (s.skipping && cfg.pads line) = false ∧
        cfg.closesComment line = false ∧ s.inComment = false ∧ cfg.opensComment line = true := by
  unfold role Settings.elides Settings.pads
  grind

theorem role_eq_code_iff :
    role cfg s line = .code ↔
      cfg.elides line = false ∧ (s.skipping && cfg.pads line) = false ∧
        cfg.closesComment line = false ∧ s.inComment = false ∧
          cfg.opensComment line = false := by
  unfold role Settings.elides Settings.pads
  grind

/-! ## What a step does, by role -/

/-- What a trimmed line in the body of a comment comes out as. -/
def proseLines (cfg : Settings) (line : String) : List String :=
  if cfg.isExample line then ["#### " ++ line, ""] else [line]

theorem prosePieces_eq (cfg : Settings) (line : String) :
    prosePieces cfg line = (proseLines cfg line).map .text := by
  unfold prosePieces proseLines
  split <;> rfl

theorem step_of_wrapper (h : role cfg s (trim raw) = .wrapper) :
    step cfg s raw = (s.next, []) := by
  simp [step, h]

theorem step_of_skipped (h : role cfg s (trim raw) = .skipped) :
    step cfg s raw = (s.next, []) := by
  simp [step, h]

theorem step_of_closer (h : role cfg s (trim raw) = .closer) :
    step cfg s raw = (s.next.closeComment, [.text "", .opening]) := by
  simp [step, h]

theorem step_of_prose (h : role cfg s (trim raw) = .prose) :
    step cfg s raw =
      ({ s.next with skipping := false }, (proseLines cfg (trim raw)).map .text) := by
  rw [← prosePieces_eq]
  simp [step, h]

theorem step_of_opener (h : role cfg s (trim raw) = .opener) :
    step cfg s raw =
      (s.next.openComment, if s.index = 0 then [] else [.closing, .text ""]) := by
  simp [step, h]

theorem step_of_code (h : role cfg s (trim raw) = .code) :
    step cfg s raw =
      ((codeLine cfg { s.next with skipping := false } (trim raw)).1,
        (codeLine cfg { s.next with skipping := false } (trim raw)).2.map .text) := by
  simp [step, h]

/-! ## What lines of code leave alone -/

/-- What lines of code read and change: the state without the place in the document. -/
def State.nesting (s : State) : State :=
  { s with index := 0, inComment := false, blockOpen := false, skipping := false }

/-- A line of code changes the nesting and the blanks alone. -/
theorem codeLine_frame (cfg : Settings) (s : State) (line : String) :
    ∃ depth inSwitch clauseLevels pendingOpener blanks,
      (codeLine cfg s line).1 =
        { s with depth, inSwitch, clauseLevels, pendingOpener, blanks } := by
  -- a line that is left out moves the pending opener alone
  cases he : elision? s line with
  | some e =>
    cases e with
    | opener =>
      rw [codeLine_opener he]
      exact ⟨s.depth, s.inSwitch, s.clauseLevels, false, s.blanks, rfl⟩
    | closer =>
      rw [codeLine_closer he]
      exact ⟨s.depth, s.inSwitch, s.clauseLevels, true, s.blanks, rfl⟩
  | none =>
    by_cases hline : line = ""
    · subst hline
      rw [codeLine_blank he]
      exact ⟨_, _, _, _, _, rfl⟩
    · rw [codeLine_text he hline]
      exact ⟨_, _, _, _, _, rfl⟩

theorem codeLine_index : (codeLine cfg s line).1.index = s.index := by
  obtain ⟨_, _, _, _, _, hstate⟩ := codeLine_frame cfg s line
  rw [hstate]

theorem codeLine_inComment : (codeLine cfg s line).1.inComment = s.inComment := by
  obtain ⟨_, _, _, _, _, hstate⟩ := codeLine_frame cfg s line
  rw [hstate]

theorem codeLine_blockOpen : (codeLine cfg s line).1.blockOpen = s.blockOpen := by
  obtain ⟨_, _, _, _, _, hstate⟩ := codeLine_frame cfg s line
  rw [hstate]

theorem codeLine_skipping : (codeLine cfg s line).1.skipping = s.skipping := by
  obtain ⟨_, _, _, _, _, hstate⟩ := codeLine_frame cfg s line
  rw [hstate]

/-- Every step counts its line. -/
theorem step_index (cfg : Settings) (s : State) (raw : String) :
    (step cfg s raw).1.index = s.index + 1 := by
  cases hr : role cfg s (trim raw) with
  | wrapper => rw [step_of_wrapper hr]; rfl
  | skipped => rw [step_of_skipped hr]; rfl
  | closer => rw [step_of_closer hr]; rfl
  | prose => rw [step_of_prose hr]; rfl
  | opener => rw [step_of_opener hr]; rfl
  | code => rw [step_of_code hr]; exact codeLine_index

/-- Lines of code depend on the nesting alone. -/
theorem codeLine_nesting (cfg : Settings) (s : State) (line : String) :
    codeLine cfg s.nesting line =
      ((codeLine cfg s line).1.nesting, (codeLine cfg s line).2) := by
  cases he : elision? s line with
  | some e =>
    cases e with
    | opener =>
      rw [codeLine_opener he, codeLine_opener (s := s.nesting) he]
      rfl
    | closer =>
      rw [codeLine_closer he, codeLine_closer (s := s.nesting) he]
      rfl
  | none =>
    -- whether the line is blank decides about the blanks that are held, not about the levels
    by_cases hline : line = ""
    · subst hline
      rw [codeLine_blank he, codeLine_blank (s := s.nesting) he]
      rfl
    · rw [codeLine_text he hline, codeLine_text (s := s.nesting) he hline]
      rfl

/-! ## What a line of code emits -/

/-- A rendered line of code is not empty. -/
theorem indent_append_ne_empty {line : String} (h : line ≠ "") (level : Nat) :
    cfg.indent level ++ line ≠ "" := by
  intro hempty
  rw [String.append_eq_empty_iff] at hempty
  exact h hempty.2

/-- A line of code emits nothing, or it ends what it emits with a line that is not blank. -/
theorem codeLine_emits (cfg : Settings) (s : State) (line : String) :
    (codeLine cfg s line).2 = [] ∨
      line ≠ "" ∧ (codeLine cfg s line).2 =
        s.blanks.lines ++ [cfg.indent ((s.beforeLine line).levelOf line) ++ line] := by
  cases he : elision? s line with
  | some e =>
    left
    cases e with
    | opener => rw [codeLine_opener he]
    | closer => rw [codeLine_closer he]
  | none =>
    by_cases hline : line = ""
    · subst hline
      left
      rw [codeLine_blank he]
    · right
      exact ⟨hline, by rw [codeLine_text he hline]⟩

end Scan
end SourceWeaver
