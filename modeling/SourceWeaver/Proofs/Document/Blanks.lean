/-
  No code block ends in blank lines.

  Outside a comment the last line of the document so far, if there is one, is not empty: a line of
  code is emitted behind the blanks that it releases, and a block opens with a fence.  So a fence
  that closes a block follows a line that is not empty (`guarded_piecesFrom`).  Blanks that are
  held back where a comment begins or ends, or where the source ends, are forgotten: what comes
  out from there on does not depend on their number (`piecesFrom_blanks_of_marks`).
-/

import SourceWeaver.Proofs.Scan.Invariant
import SourceWeaver.Proofs.Settings.Valid
import Mathlib.Data.List.Chain

namespace SourceWeaver.Scan

open Text

variable {cfg : Settings} {s : State} {raw : String}

/-! ## Lines that are not empty -/

/-- A piece that is not written as an empty line. -/
def Piece.Visible (cfg : Settings) (p : Piece) : Prop :=
  p.render cfg ≠ ""

/-- Every fence that closes a block follows a line that is not empty, or begins the document. -/
def Guarded (cfg : Settings) (ps : List Piece) : Prop :=
  ps.IsChain fun p q => q = .closing → p.Visible cfg

/-- The last line so far, if there is one, is not empty. -/
def EndsVisible (cfg : Settings) (ps : List Piece) : Prop :=
  ∀ p ∈ ps.getLast?, p.Visible cfg

theorem endsVisible_concat {ps : List Piece} {p : Piece} (h : p.Visible cfg) :
    EndsVisible cfg (ps ++ [p]) := by
  intro q hq
  rw [List.getLast?_concat, Option.mem_some_iff] at hq
  exact hq ▸ h

/-- Pieces among which no fence closes a block may always be added. -/
theorem Guarded.append {ps qs : List Piece} (h : Guarded cfg ps) (hqs : Piece.closing ∉ qs) :
    Guarded cfg (ps ++ qs) := by
  refine List.isChain_append.mpr ⟨h, ?_, ?_⟩
  · rw [List.isChain_iff_forall_rel_of_append_cons_cons]
    rintro p q l₁ l₂ rfl rfl
    exact absurd (by simp) hqs
  · rintro p - q hq rfl
    exact absurd (List.mem_of_mem_head? hq) hqs

/-- A block may be closed behind a line that is not empty. -/
theorem Guarded.close {ps : List Piece} (h : Guarded cfg ps) (hlast : EndsVisible cfg ps) :
    Guarded cfg (ps ++ [.closing, .text ""]) := by
  refine List.isChain_append.mpr ⟨h, ?_, ?_⟩
  · rw [List.isChain_pair]
    intro h
    cases h
  · intro p hp q _ _
    exact hlast p hp

/-! ## One step -/

/-- Outside a comment a step leaves a line that is not empty at the end of the document, and a
    fence that it emits to close a block stands behind one. -/
theorem guarded_step (hv : cfg.Valid) {ps : List Piece} (hps : Guarded cfg ps)
    (hlast : s.inComment = false → EndsVisible cfg ps) :
    Guarded cfg (ps ++ (step cfg s raw).2) ∧
      ((step cfg s raw).1.inComment = false → EndsVisible cfg (ps ++ (step cfg s raw).2)) := by
  cases hr : role cfg s (trim raw) with
  | wrapper =>
    rw [step_of_wrapper hr, List.append_nil]
    exact ⟨hps, hlast⟩
  | skipped =>
    rw [step_of_skipped hr, List.append_nil]
    exact ⟨hps, hlast⟩
  | closer =>
    rw [step_of_closer hr]
    refine ⟨hps.append (by simp), fun _ => ?_⟩
    -- the last line is now the fence that opens the block
    rw [List.append_cons]
    exact endsVisible_concat hv.fenceOpen_ne_empty
  | prose =>
    rw [step_of_prose hr]
    refine ⟨hps.append (by simp), fun hout => ?_⟩
    have hin : s.inComment = true := (role_eq_prose_iff.mp hr).2.2.2
    exact absurd (hin.symm.trans hout) (by decide)
  | opener =>
    have hout : s.inComment = false := (role_eq_opener_iff.mp hr).2.2.2.1
    rw [step_of_opener hr]
    refine ⟨?_, fun hin => absurd hin.symm Bool.false_ne_true⟩
    dsimp only
    split
    · rw [List.append_nil]
      exact hps
    · exact hps.close (hlast hout)
  | code =>
    have hout : s.inComment = false := (role_eq_code_iff.mp hr).2.2.2.1
    rw [step_of_code hr]
    refine ⟨hps.append (by simp), fun _ => ?_⟩
    rcases codeLine_emits cfg { s.next with skipping := false } (trim raw) with
      hnil | ⟨hline, hemit⟩
    -- a line that is left out or held back
    · rw [hnil, List.map_nil, List.append_nil]
      exact hlast hout
    · rw [hemit, List.map_append, List.map_singleton, ← List.append_assoc]
      exact endsVisible_concat (indent_append_ne_empty hline _)

/-! ## Whole documents -/

theorem guarded_run (hv : cfg.Valid) (lines : List String) :
    Guarded cfg (run cfg s lines).2 ∧
      ((run cfg s lines).1.inComment = false → EndsVisible cfg (run cfg s lines).2) := by
  induction lines using List.reverseRecOn with
  | nil => exact ⟨List.isChain_nil, fun _ p hp => absurd hp (Option.not_mem_none p)⟩
  | append_singleton lines raw ih =>
    rw [run_concat]
    exact guarded_step hv ih.1 ih.2

/-- In a document, a fence that closes a block follows a line that is not empty. -/
theorem guarded_piecesFrom (hv : cfg.Valid) (hs : s.Consistent) (lines : List String) :
    Guarded cfg (piecesFrom cfg s lines) := by
  obtain ⟨hguarded, hlast⟩ := guarded_run (s := s) hv lines
  rw [piecesFrom, finish]
  split
  · rename_i hopen
    refine hguarded.close (hlast ?_)
    -- a block that is open at the end rules out a comment
    by_contra hin
    have hconsistent : (run cfg s lines).1.Consistent := hs.run lines
    have hclosed := hconsistent.inComment (by simpa using hin)
    exact absurd (hopen.symm.trans hclosed) (by decide)
  · rw [List.append_nil]
    exact hguarded

/-! ## Blanks that are forgotten -/

/-- Inside a comment the number of blanks that are held back makes no difference. -/
theorem piecesFrom_blanks_of_inComment (h : s.inComment = true) (b : Blanks)
    (lines : List String) :
    piecesFrom cfg { s with blanks := b } lines = piecesFrom cfg s lines := by
  induction lines generalizing s with
  | nil => rfl
  | cons raw rest ih =>
    rw [piecesFrom_cons, piecesFrom_cons]
    have hb : role cfg { s with blanks := b } (trim raw) = role cfg s (trim raw) := rfl
    cases hr : role cfg s (trim raw) with
    | wrapper =>
      rw [step_of_wrapper hr, step_of_wrapper (hb.trans hr)]
      exact ih (s := s.next) h
    | skipped =>
      rw [step_of_skipped hr, step_of_skipped (hb.trans hr)]
      exact ih (s := s.next) h
    | closer =>
      -- the end of the comment clears the blanks
      rw [step_of_closer hr, step_of_closer (hb.trans hr)]
      rfl
    | prose =>
      rw [step_of_prose hr, step_of_prose (hb.trans hr)]
      exact congrArg _ (ih (s := { s.next with skipping := false }) h)
    | opener => exact absurd (h.symm.trans (role_eq_opener_iff.mp hr).2.2.2.1) (by decide)
    | code => exact absurd (h.symm.trans (role_eq_code_iff.mp hr).2.2.2.1) (by decide)

/-- Blanks that are held back where a comment begins or ends, or where the source ends, make no
    difference to what comes out. -/
theorem piecesFrom_blanks_of_marks {lines : List String}
    (h : ∀ raw ∈ lines.head?, (Visit.mk s (trim raw)).marks cfg = true) (b : Blanks) :
    piecesFrom cfg { s with blanks := b } lines = piecesFrom cfg s lines := by
  cases lines with
  | nil => rfl
  | cons raw rest =>
    have hb : role cfg { s with blanks := b } (trim raw) = role cfg s (trim raw) := rfl
    rw [piecesFrom_cons, piecesFrom_cons]
    rcases marks_iff.mp (h raw rfl) with hr | hr
    · rw [step_of_opener hr, step_of_opener (hb.trans hr)]
      exact congrArg _ (piecesFrom_blanks_of_inComment (s := s.next.openComment) rfl b rest)
    · rw [step_of_closer hr, step_of_closer (hb.trans hr)]
      rfl

/-- The line before a fence that closes a block is not empty. -/
theorem Guarded.exists_line {ps : List Piece} (h : Guarded cfg ps) {i : Nat}
    (hi : ps[i + 1]? = some .closing) :
    ∃ line, (ps.map (Piece.render cfg))[i]? = some line ∧ line ≠ "" := by
  obtain ⟨hlen, hclosing⟩ := List.getElem?_eq_some_iff.mp hi
  have hlast : i < ps.length := by omega
  refine ⟨ps[i].render cfg, ?_, List.IsChain.getElem h i hlen hclosing⟩
  rw [List.getElem?_map, List.getElem?_eq_getElem hlast, Option.map_some]

/-- Every source of at least two lines has a document in which each fence that closes a block, if
    it is not the first line, follows a line that is not empty.  Where a comment begins or ends, or
    where the source ends, the document does not depend on the blanks that are held back. -/
theorem closing_follows_visible_line (hv : cfg.Valid) {lines : List String}
    (hlen : 2 ≤ lines.length) :
    ∃ opening primed,
      primeHeader cfg lines = .ok (opening, primed) ∧
      convert cfg lines = .ok ⟨(weave cfg opening primed).map (Piece.render cfg)⟩ ∧
      (∀ i, (weave cfg opening primed)[i + 1]? = some .closing →
        ∃ line, ((weave cfg opening primed).map (Piece.render cfg))[i]? = some line ∧ line ≠ "") ∧
      ∀ pre post, primed = pre ++ post →
        (∀ raw ∈ post.head?,
          (Visit.mk (run cfg opening.start pre).1 (trim raw)).marks cfg = true) →
        ∀ b, weave cfg opening primed =
          (run cfg opening.start pre).2 ++
            piecesFrom cfg { (run cfg opening.start pre).1 with blanks := b } post := by
  obtain ⟨opening, first, rest, hprimed, -⟩ := exists_primed cfg hlen
  refine ⟨opening, first :: rest, hprimed, convert_of_primed hprimed, ?_, ?_⟩
  · intro i hi
    have hguarded := guarded_piecesFrom hv (consistent_start opening) (first :: rest)
    exact hguarded.exists_line hi
  · intro pre post hsplit hmarks b
    rw [piecesFrom_blanks_of_marks hmarks b, ← piecesFrom_append, ← hsplit]
    rfl

/-- The blank line before the comment is held back when the comment begins, and the fence that
    closes the block follows the line of code. -/
theorem closing_follows_code_line :
    Settings.Valid {} ∧ 2 ≤ ["// a", "// b", "x;", "", "/*", "y", "*/", ""].length ∧
      (weave {} .code ["```", "// b", "x;", "", "/*", "y", "*/", ""])[3]? = some .closing ∧
      ∃ line, ((weave {} .code ["```", "// b", "x;", "", "/*", "y", "*/", ""]).map
        (Piece.render {}))[2]? = some line ∧ line ≠ "" := by
  have hv : Settings.Valid {} := Settings.valid_default
  have hlen : 2 ≤ ["// a", "// b", "x;", "", "/*", "y", "*/", ""].length := by decide
  have hclosing : (weave {} .code ["```", "// b", "x;", "", "/*", "y", "*/", ""])[3]?
      = some .closing := by decide +kernel
  refine ⟨hv, hlen, hclosing, ?_⟩
  obtain ⟨opening, primed, hprimed, -, hlines, -⟩ := closing_follows_visible_line hv hlen
  have hcode : primeHeader {} ["// a", "// b", "x;", "", "/*", "y", "*/", ""]
      = .ok (.code, ["```", "// b", "x;", "", "/*", "y", "*/", ""]) := by rfl
  rw [hcode] at hprimed
  cases hprimed
  exact hlines 2 hclosing

end SourceWeaver.Scan
