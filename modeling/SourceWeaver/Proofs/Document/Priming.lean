/-
  The first lines of a source.

  In a source that opens in code, priming puts the line that opens a code block in place of the
  first line, and the scan reads it like any other line.  If no marker takes it for something else,
  it comes out unchanged (`step_fenceOpen`), and the scan goes on inside a block (`weave_code`).
  What priming does to the lines is said once, for both ways in which a source opens
  (`primeHeader_cases`).

  In a source that opens with a comment, priming makes a heading of the second line.  Where that
  line is scanned as code, it is neither blank nor a brace (`elision?_heading`).
-/

import SourceWeaver.Proofs.Scan.Passages
import SourceWeaver.Proofs.Settings.Valid
import SourceWeaver.Proofs.Text.Trimming
import SourceWeaver.Conversion

namespace SourceWeaver

open Text Scan

namespace Settings

/-- No marker matches the line that opens a code block. -/
structure PlainFence (cfg : Settings) : Prop where
  entryPoint : cfg.isEntryPoint cfg.fenceOpen = false
  opensComment : cfg.opensComment cfg.fenceOpen = false
  closesComment : cfg.closesComment cfg.fenceOpen = false
  startsSwitch : cfg.startsSwitch cfg.fenceOpen = false

/-- The line that opens a code block begins with a backtick or a tilde. -/
theorem Valid.closesBlock_fenceOpen {cfg : Settings} (h : cfg.Valid) :
    closesBlock cfg.fenceOpen = false := by
  obtain ⟨c, hc, hall, hlen⟩ := isFence_iff.mp h.isFence
  unfold closesBlock startsWith fenceOpen
  rw [String.toList_append]
  -- a valid fence is not empty, so it is the fence that the line begins with
  cases hfence : cfg.fence.toList with
  | nil =>
    rw [hfence] at hlen
    exact absurd hlen (by decide)
  | cons d rest =>
    have hd : d = c := hall d (by rw [hfence]; exact List.mem_cons_self ..)
    subst hd
    rcases hc with rfl | rfl <;> rfl

theorem indent_zero (cfg : Settings) : cfg.indent 0 = "" := by
  rw [indent, Nat.mul_zero]
  rfl

end Settings

variable {cfg : Settings}

theorem role_fenceOpen (hp : cfg.PlainFence) :
    role cfg Opening.code.start cfg.fenceOpen = .code := by
  refine role_eq_code_iff.mpr ⟨?_, rfl, hp.closesComment, rfl, hp.opensComment⟩
  rw [Settings.elides, hp.entryPoint, Bool.and_false]

/-- The state behind the first line of a source that opens in code.  If the line that opens the
    block ends in an opening brace, it counts as one. -/
def behindFence (cfg : Settings) : State :=
  { index := 1, blockOpen := true, depth := if opensBlock cfg.fenceOpen then 1 else 0 }

theorem withinBlock_behindFence (cfg : Settings) : (behindFence cfg).WithinBlock :=
  ⟨rfl, rfl, rfl, Nat.one_pos⟩

/-- At the start of a source that opens in code, the line that opens the block comes out as it
    is. -/
theorem step_fenceOpen (hv : cfg.Valid) (hp : cfg.PlainFence) :
    step cfg Opening.code.start cfg.fenceOpen = (behindFence cfg, [.text cfg.fenceOpen]) := by
  have hrole : role cfg Opening.code.start (trim cfg.fenceOpen) = .code := by
    rw [hv.trim_fenceOpen]
    exact role_fenceOpen hp
  have hcloses := hv.closesBlock_fenceOpen
  have hshown : elision? { Opening.code.start.next with skipping := false } cfg.fenceOpen
      = none := by
    unfold elision?
    rw [hcloses]
    rfl
  rw [step_of_code hrole, hv.trim_fenceOpen, codeLine_text hshown hv.fenceOpen_ne_empty]
  -- at the start every level is zero
  have hlevel : (State.beforeLine { Opening.code.start.next with skipping := false }
      cfg.fenceOpen).levelOf cfg.fenceOpen = 0 := by
    unfold State.levelOf State.beforeLine
    rw [hcloses]
    simp [Opening.start, State.next]
  rw [hlevel, cfg.indent_zero, String.empty_append]
  simp [State.beforeLine, State.afterLine, Opening.start, State.next, hcloses, hp.startsSwitch,
    Blanks.lines, behindFence]

/-! ## Headings -/

theorem head?_heading (title : String) :
    (trim ("### " ++ title)).toList.head? = some '#' := by
  rw [toList_trim, String.toList_append]
  exact head?_trimmed_cons (by decide) _

/-- The heading that priming makes of the second line is not blank. -/
theorem heading_ne_empty (title : String) : trim ("### " ++ title) ≠ "" := by
  intro hempty
  have hhead := head?_heading title
  rw [hempty] at hhead
  exact absurd hhead (by decide)

/-- The heading that priming makes of the second line begins with no brace. -/
theorem closesBlock_heading (title : String) : closesBlock (trim ("### " ++ title)) = false := by
  have hhead := head?_heading title
  rw [closesBlock, startsWith]
  cases hchars : (trim ("### " ++ title)).toList with
  | nil => rfl
  | cons c rest =>
    rw [hchars, List.head?_cons, Option.some.injEq] at hhead
    rw [hhead]
    rfl

/-- A heading that is scanned as code is not left out. -/
theorem elision?_heading (s : State) (title : String) :
    elision? s (trim ("### " ++ title)) = none := by
  have hbrace : (trim ("### " ++ title) == "\x7b") = false := by
    rw [beq_eq_false_iff_ne]
    intro hline
    have hhead := head?_heading title
    rw [hline] at hhead
    exact absurd hhead (by decide)
  rw [elision?, hbrace, closesBlock_heading]
  simp

/-! ## Documents -/

/-- What priming makes of some lines, if there are enough of them. -/
theorem primeHeader_cases {lines primed : List String} {opening : Opening}
    (h : primeHeader cfg lines = .ok (opening, primed)) :
    ∃ first second rest, lines = first :: second :: rest ∧
      (cfg.isLineComment second = true ∧ opening = .code ∧
          primed = cfg.fenceOpen :: second :: rest ∨
        cfg.isLineComment second = false ∧ opening = .comment ∧
          primed = first :: ("### " ++ trim second) :: rest) := by
  match lines with
  | [] => cases h
  | [_] => cases h
  | first :: second :: rest =>
    refine ⟨first, second, rest, rfl, ?_⟩
    cases hcomment : cfg.isLineComment second with
    | true =>
      rw [primeHeader_of_lineComment hcomment] at h
      cases h
      exact .inl ⟨rfl, rfl, rfl⟩
    | false =>
      rw [primeHeader_of_title hcomment] at h
      cases h
      exact .inr ⟨rfl, rfl, rfl⟩

theorem weave_eq (cfg : Settings) (opening : Opening) (primed : List String) :
    weave cfg opening primed = piecesFrom cfg opening.start primed := rfl

theorem weave_code (hv : cfg.Valid) (hp : cfg.PlainFence) (rest : List String) :
    weave cfg .code (cfg.fenceOpen :: rest) =
      .text cfg.fenceOpen :: piecesFrom cfg (behindFence cfg) rest := by
  rw [weave_eq, piecesFrom_cons, step_fenceOpen hv hp]
  rfl

/-- The line that opens the block ends no comment. -/
theorem closersEndComments_code (hv : cfg.Valid) (hp : cfg.PlainFence) {rest : List String} :
    ClosersEndComments cfg Opening.code.start (cfg.fenceOpen :: rest) ↔
      ClosersEndComments cfg (behindFence cfg) rest := by
  have hrole : role cfg Opening.code.start (trim cfg.fenceOpen) = .code := by
    rw [hv.trim_fenceOpen]
    exact role_fenceOpen hp
  have hcloser : role cfg Opening.code.start (trim cfg.fenceOpen) = .closer →
      Opening.code.start.inComment = true := fun hr => absurd (hrole.symm.trans hr) (by decide)
  rw [closersEndComments_cons, and_iff_right hcloser, step_fenceOpen hv hp]

end SourceWeaver
