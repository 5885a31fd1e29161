/-
  What holds in every state that a scan reaches.

  The flags and counters of a state are set one by one, in many places; `State.Consistent` says how
  they stay in agreement.  Three further laws need the course of the scan: behind the first line that
  begins or ends a comment the scan is either in a comment or in a block (`marked_run`), in a
  comment exactly if the last such line begins one (`mode_run_eq_comment_iff`), and the depth is
  bounded by the lines of code since the last comment that end in an opening brace
  (`depth_run_le`).

  Each law is shown for one step, by the role of the line, and carried over the lines of a source
  by induction from the last one.
-/

import SourceWeaver.Proofs.Scan.Visits
import SourceWeaver.Conversion
import Mathlib.Data.List.Induction

namespace SourceWeaver.Scan

open Text

variable {cfg : Settings} {s : State} {line raw : String}

/-! ## Flags and counters -/

/-- The flags and counters of a scan agree with each other. -/
structure State.Consistent (s : State) : Prop where
  inComment : s.inComment = true → s.blockOpen = false
  skipping : s.skipping = true →
    s.inComment = false ∧ s.blockOpen = true ∧ s.depth = 0 ∧ s.blanks.held = 0
  clauseLevels_le : s.clauseLevels ≤ 1
  clauseLevels : s.clauseLevels = 1 → s.inSwitch = true
  pendingOpener : s.pendingOpener = true → s.inSwitch = false ∧ s.depth = 0

theorem consistent_start (opening : Opening) : opening.start.Consistent := by
  constructor <;> simp [Opening.start]

theorem State.Consistent.next (h : s.Consistent) : s.next.Consistent :=
  ⟨h.inComment, h.skipping, h.clauseLevels_le, h.clauseLevels, h.pendingOpener⟩

/-- The skipping may end at any time. -/
theorem State.Consistent.stopSkipping (h : s.Consistent) :
    { s with skipping := false }.Consistent :=
  ⟨h.inComment, fun hs => absurd hs Bool.false_ne_true, h.clauseLevels_le, h.clauseLevels,
    h.pendingOpener⟩

theorem State.Consistent.openComment (h : s.Consistent) : s.openComment.Consistent :=
  ⟨fun _ => rfl, fun hs => absurd hs Bool.false_ne_true, h.clauseLevels_le, h.clauseLevels,
    h.pendingOpener⟩

/-- The end of a comment sets the depth to zero, so that an opener that is still pending stays so. -/
theorem State.Consistent.closeComment (h : s.Consistent) : s.closeComment.Consistent :=
  ⟨fun hs => absurd hs Bool.false_ne_true, fun _ => ⟨rfl, rfl, rfl, rfl⟩, h.clauseLevels_le,
    h.clauseLevels, fun hp => ⟨(h.pendingOpener hp).1, rfl⟩⟩

/-! ## Lines of code -/

theorem elision?_eq_opener_iff :
    elision? s line = some .opener ↔ s.pendingOpener = true ∧ line = "\x7b" := by
  unfold elision?
  grind

/-- A closing brace is left out outside a switch and at depth zero. -/
theorem elision?_eq_closer_iff :
    elision? s line = some .closer ↔
      closesBlock line = true ∧ s.inSwitch = false ∧ s.depth = 0 := by
  have hopener : closesBlock "\x7b" = false := by decide
  unfold elision?
  grind

/-- A blank line starts no switch, whatever the keyword. -/
theorem startsSwitch_empty (cfg : Settings) : cfg.startsSwitch "" = false := by
  unfold Settings.startsSwitch startsWithWord
  cases hk : cfg.switchWord.toList with
  | nil => rfl
  | cons c rest => rfl

theorem elision?_blank (s : State) : elision? s "" = none := by
  have hcloses : closesBlock "" = false := by decide
  have hbrace : ("" == "\x7b") = false := by decide
  simp [elision?, hcloses, hbrace]

/-- A blank line is held back and changes nothing else. -/
theorem codeLine_of_blank (cfg : Settings) (s : State) :
    codeLine cfg s "" = ({ s with blanks := s.blanks.push }, []) := by
  have hcloses : closesBlock "" = false := by decide
  have hopens : opensBlock "" = false := by decide
  have hlabel : isLabel "" = false := by decide
  have hends : endsInBrace "" = false := by decide
  have hbefore : s.beforeLine "" = s := by
    simp [State.beforeLine, hcloses, hlabel, hends]
  have hafter : s.afterLine cfg "" = s := by
    simp [State.afterLine, hopens, startsSwitch_empty]
  rw [codeLine_blank (elision?_blank s), hbefore, hafter]

/-- Away from the blanks, a line that is not left out does the same whether it is blank or not. -/
theorem codeLine_of_elision_none (cfg : Settings) (h : elision? s line = none) :
    ∃ blanks, (codeLine cfg s line).1 =
      { (s.beforeLine line).afterLine cfg line with blanks := blanks } := by
  by_cases hline : line = ""
  · subst hline
    exact ⟨_, by rw [codeLine_blank h]⟩
  · exact ⟨_, by rw [codeLine_text h hline]⟩

theorem State.Consistent.codeLine (h : s.Consistent) (hskip : s.skipping = false) :
    (codeLine cfg s line).1.Consistent := by
  cases he : elision? s line with
  | some e =>
    cases e with
    | opener =>
      rw [codeLine_opener he]
      exact ⟨h.inComment, h.skipping, h.clauseLevels_le, h.clauseLevels,
        fun hp => absurd hp Bool.false_ne_true⟩
    | closer =>
      -- an opener is pending from here on, and this line was met outside a switch at depth zero
      obtain ⟨-, houter⟩ := elision?_eq_closer_iff.mp he
      rw [codeLine_closer he]
      exact ⟨h.inComment, h.skipping, h.clauseLevels_le, h.clauseLevels, fun _ => houter⟩
  | none =>
    obtain ⟨blanks, hstate⟩ := codeLine_of_elision_none cfg he
    rw [hstate]
    refine ⟨h.inComment, fun hs => absurd (hs.symm.trans hskip) (by decide), ?_, ?_, ?_⟩
    · have hle := h.clauseLevels_le
      simp only [State.afterLine, State.beforeLine]
      split_ifs <;> omega
    · have hswitch := h.clauseLevels
      simp only [State.afterLine, State.beforeLine]
      grind
    -- only a blank line leaves an opener pending, and it moves neither the switch nor the depth
    · intro hp
      simp only [State.afterLine, State.beforeLine, Bool.and_eq_true, beq_iff_eq] at hp
      obtain ⟨hpending, rfl⟩ := hp
      obtain ⟨hin, hdepth⟩ := h.pendingOpener hpending
      have hcloses : closesBlock "" = false := by decide
      have hopens : opensBlock "" = false := by decide
      simp only [State.afterLine, State.beforeLine]
      simp [hin, hdepth, startsSwitch_empty, hcloses, hopens]

/-- A line of code adds at most one level, and only if it ends in an opening brace. -/
theorem depth_codeLine_le (cfg : Settings) (s : State) (line : String) :
    (codeLine cfg s line).1.depth ≤ s.depth + if opensBlock line then 1 else 0 := by
  cases he : elision? s line with
  | some e => cases e <;> simp [codeLine_opener, codeLine_closer, he]
  | none =>
    obtain ⟨blanks, hstate⟩ := codeLine_of_elision_none cfg he
    rw [hstate]
    simp only [State.afterLine, State.beforeLine]
    grind

/-! ## One step -/

theorem State.Consistent.step (h : s.Consistent) : (step cfg s raw).1.Consistent := by
  -- each role changes the state by one of the moves above, or by a line of code
  cases hr : role cfg s (trim raw) with
  | wrapper =>
    rw [step_of_wrapper hr]
    exact h.next
  | skipped =>
    rw [step_of_skipped hr]
    exact h.next
  | closer =>
    rw [step_of_closer hr]
    exact h.next.closeComment
  | prose =>
    rw [step_of_prose hr]
    exact h.next.stopSkipping
  | opener =>
    rw [step_of_opener hr]
    exact h.next.openComment
  | code =>
    rw [step_of_code hr]
    exact h.next.stopSkipping.codeLine rfl

/-- Whether a line begins or ends a comment. -/
def Visit.marks (cfg : Settings) (v : Visit) : Bool :=
  v.role cfg == .opener || v.role cfg == .closer

theorem marks_iff {v : Visit} :
    v.marks cfg = true ↔ v.role cfg = .opener ∨ v.role cfg = .closer := by
  rw [Visit.marks, Bool.or_eq_true, beq_iff_eq, beq_iff_eq]

theorem not_marks_iff {v : Visit} :
    v.marks cfg = false ↔ v.role cfg ≠ .opener ∧ v.role cfg ≠ .closer := by
  rw [← Bool.not_eq_true, marks_iff, not_or]

/-- Beginning or ending a comment leaves the scan in a comment or in a block, not in both. -/
theorem marked_step (h : (Visit.mk s (trim raw)).marks cfg = true) :
    (step cfg s raw).1.inComment = !(step cfg s raw).1.blockOpen := by
  rcases marks_iff.mp h with hr | hr
  · rw [step_of_opener hr]
    rfl
  · rw [step_of_closer hr]
    rfl

/-- No other line enters or leaves a comment or a block. -/
theorem unmarked_step (h : (Visit.mk s (trim raw)).marks cfg = false) :
    (step cfg s raw).1.inComment = s.inComment ∧ (step cfg s raw).1.blockOpen = s.blockOpen := by
  have hrole := not_marks_iff.mp h
  cases hr : role cfg s (trim raw) with
  | wrapper => rw [step_of_wrapper hr]; exact ⟨rfl, rfl⟩
  | skipped => rw [step_of_skipped hr]; exact ⟨rfl, rfl⟩
  | closer => exact absurd hr hrole.2
  | prose => rw [step_of_prose hr]; exact ⟨rfl, rfl⟩
  | opener => exact absurd hr hrole.1
  | code =>
    rw [step_of_code hr]
    exact ⟨codeLine_inComment, codeLine_blockOpen⟩

/-- Behind a line that begins or ends a comment, the mode says which of both it was. -/
theorem mode_step_of_marks (h : (Visit.mk s (trim raw)).marks cfg = true) :
    (step cfg s raw).1.mode = .comment ↔ role cfg s (trim raw) = .opener := by
  rw [State.mode_eq_comment_iff]
  rcases marks_iff.mp h with hr | hr
  · rw [step_of_opener hr]
    exact iff_of_true rfl hr
  · rw [step_of_closer hr]
    exact iff_of_false Bool.false_ne_true fun ho => absurd (ho.symm.trans hr) (by decide)

/-- No other line begins or ends the mode of comments. -/
theorem mode_step_of_not_marks (h : (Visit.mk s (trim raw)).marks cfg = false) :
    (step cfg s raw).1.mode = .comment ↔ s.mode = .comment := by
  rw [State.mode_eq_comment_iff, State.mode_eq_comment_iff, (unmarked_step h).1]

/-- The last line of a scan that begins or ends a comment, if there is one. -/
def lastMark? (cfg : Settings) (vs : List Visit) : Option Visit :=
  (vs.filter (·.marks cfg)).getLast?

theorem lastMark?_concat (vs : List Visit) (v : Visit) :
    lastMark? cfg (vs ++ [v]) = if v.marks cfg then some v else lastMark? cfg vs := by
  rw [lastMark?, List.filter_append]
  by_cases hv : v.marks cfg = true
  · rw [if_pos hv, List.filter_cons_of_pos hv, List.filter_nil, List.getLast?_concat]
  · rw [if_neg hv, List.filter_cons_of_neg hv, List.filter_nil, List.append_nil, lastMark?]

/-- No other line emits a fence. -/
theorem unmarked_emits (h : (Visit.mk s (trim raw)).marks cfg = false) :
    ∃ lines : List String, (step cfg s raw).2 = lines.map .text := by
  have hrole := not_marks_iff.mp h
  cases hr : role cfg s (trim raw) with
  | wrapper => exact ⟨[], by rw [step_of_wrapper hr]; rfl⟩
  | skipped => exact ⟨[], by rw [step_of_skipped hr]; rfl⟩
  | closer => exact absurd hr hrole.2
  | prose => exact ⟨_, by rw [step_of_prose hr]⟩
  | opener => exact absurd hr hrole.1
  | code => exact ⟨_, by rw [step_of_code hr]⟩

/-! ## Depth -/

/-- The lines of a scan since the last end of a comment, the latest first. -/
def sinceTerminator (cfg : Settings) (vs : List Visit) : List Visit :=
  vs.reverse.takeWhile fun v => v.role cfg != .closer

/-- Whether a line of code ends in an opening brace. -/
def Visit.opensBrace (cfg : Settings) (v : Visit) : Bool :=
  v.role cfg == .code && opensBlock v.line

theorem sinceTerminator_concat (vs : List Visit) (v : Visit) :
    sinceTerminator cfg (vs ++ [v]) =
      if v.role cfg = .closer then [] else v :: sinceTerminator cfg vs := by
  rw [sinceTerminator, List.reverse_append, List.reverse_singleton, List.singleton_append,
    List.takeWhile_cons]
  by_cases hr : v.role cfg = .closer
  · simp [hr]
  · simp [hr, sinceTerminator]

/-- The end of a comment takes the depth back to zero; any other line adds at most one level, and
    only if it is a line of code that ends in an opening brace. -/
theorem depth_step_le (cfg : Settings) (s : State) (raw : String) :
    (step cfg s raw).1.depth ≤
      if role cfg s (trim raw) = .closer then 0
      else s.depth + if (Visit.mk s (trim raw)).opensBrace cfg then 1 else 0 := by
  cases hr : role cfg s (trim raw) with
  | wrapper => simp [step_of_wrapper hr, State.next]
  | skipped => simp [step_of_skipped hr, State.next]
  | closer => simp [step_of_closer hr, State.closeComment]
  | prose => simp [step_of_prose hr, State.next]
  | opener => simp [step_of_opener hr, State.openComment, State.next]
  -- only a line of code adds a level
  | code =>
    have hle := depth_codeLine_le cfg { s.next with skipping := false } (trim raw)
    rw [step_of_code hr, if_neg (by decide)]
    simpa [Visit.opensBrace, Visit.role, hr, State.next] using hle

/-! ## Whole scans -/

theorem State.Consistent.run (h : s.Consistent) (lines : List String) :
    (run cfg s lines).1.Consistent := by
  induction lines generalizing s with
  | nil => exact h
  | cons raw rest ih => exact ih h.step

/-- Behind the first line that begins or ends a comment, a scan is either in a comment or in a
    block, and never in both. -/
theorem marked_run (lines : List String) (h : ∃ v ∈ visits cfg s lines, v.marks cfg = true) :
    (run cfg s lines).1.inComment = !(run cfg s lines).1.blockOpen := by
  -- by the last line, which may be the mark itself
  induction lines using List.reverseRecOn with
  | nil =>
    obtain ⟨v, hv, -⟩ := h
    cases hv
  | append_singleton lines raw ih =>
    rw [run_concat]
    by_cases hlast : (Visit.mk (run cfg s lines).1 (trim raw)).marks cfg = true
    · exact marked_step hlast
    -- the last line changes neither flag, so the mark is among the lines before it
    · obtain ⟨hcomment, hblock⟩ := unmarked_step (Bool.eq_false_iff.mpr hlast)
      obtain ⟨v, hv, hmarks⟩ := h
      rw [visits_concat, List.mem_append, List.mem_singleton] at hv
      rcases hv with hv | rfl
      · rw [hcomment, hblock]
        exact ih ⟨v, hv, hmarks⟩
      · exact absurd hmarks hlast

/-- Whether a scan is in a comment is decided by the last line that begins or ends one.  Before the
    first such line, it is as the scan began. -/
theorem mode_run_eq_comment_iff (cfg : Settings) (s : State) (lines : List String) :
    (run cfg s lines).1.mode = .comment ↔
      (lastMark? cfg (visits cfg s lines)).elim (s.mode = .comment) (·.role cfg = .opener) := by
  induction lines using List.reverseRecOn with
  | nil => rfl
  | append_singleton lines raw ih =>
    rw [run_concat, visits_concat, lastMark?_concat]
    by_cases hlast : (Visit.mk (run cfg s lines).1 (trim raw)).marks cfg = true
    · rw [if_pos hlast, Option.elim_some]
      exact mode_step_of_marks hlast
    -- the last line leaves the comment as it is, and so the last mark is the one before it
    · rw [if_neg hlast, mode_step_of_not_marks (Bool.eq_false_iff.mpr hlast)]
      exact ih

/-- The depth is bounded by what the lines of code since the last end of a comment have opened. -/
theorem depth_run_le (cfg : Settings) (s : State) (lines : List String) :
    (run cfg s lines).1.depth ≤
      s.depth + (sinceTerminator cfg (visits cfg s lines)).countP (·.opensBrace cfg) := by
  -- by the last line, since the count goes back from the latest line
  induction lines using List.reverseRecOn with
  | nil => exact Nat.le_add_right _ _
  | append_singleton lines raw ih =>
    have hstep := depth_step_le cfg (run cfg s lines).1 raw
    rw [run_concat, visits_concat, sinceTerminator_concat]
    by_cases hr : role cfg (run cfg s lines).1 (trim raw) = .closer
    -- the end of a comment starts the count anew
    · rw [if_pos hr] at hstep
      exact Nat.le_trans hstep (Nat.zero_le _)
    · rw [if_neg hr] at hstep
      rw [if_neg (by simpa [Visit.role] using hr), List.countP_cons]
      dsimp only
      omega

/-- Every state that a scan of a source reaches is consistent; from the first line on that begins
    or ends a comment it is either in a comment or in a block; and its depth is at most the number
    of lines of code since the last end of a comment that end in an opening brace. -/
theorem reachable_consistent (cfg : Settings) (opening : Opening) (lines : List String) :
    (run cfg opening.start lines).1.Consistent ∧
    ((∃ v ∈ visits cfg opening.start lines, v.role cfg = .opener ∨ v.role cfg = .closer) →
      (run cfg opening.start lines).1.inComment = !(run cfg opening.start lines).1.blockOpen) ∧
    (run cfg opening.start lines).1.depth ≤
      (sinceTerminator cfg (visits cfg opening.start lines)).countP fun v =>
        v.role cfg == .code && opensBlock v.line := by
  refine ⟨(consistent_start opening).run lines, ?_, ?_⟩
  · rintro ⟨v, hv, hrole⟩
    exact marked_run lines ⟨v, hv, marks_iff.mpr hrole⟩
  · have hle := depth_run_le cfg opening.start lines
    -- a scan starts at depth zero
    rw [show opening.start.depth = 0 from rfl, Nat.zero_add] at hle
    exact hle

end SourceWeaver.Scan
