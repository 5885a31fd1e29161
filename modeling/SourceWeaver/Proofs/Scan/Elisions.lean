/-
  Which lines of code are lost.

  A line of code that begins with a closing brace is lost with all that stands behind the brace if
  it is met outside a switch where no block is open.  Since the end of a comment takes the depth
  back to zero, that is the case where every block that a line has begun since the last comment has
  been ended (`depth_run_eq`).  Nothing else but bare opening braces is lost: any other line with text
  comes out as a whole (`text_shown_unless_closer`).
-/

import SourceWeaver.Proofs.Scan.Accounting

namespace SourceWeaver.Scan

open Text

variable {cfg : Settings} {s : State} {raw : String}

/-! ## Blocks that are begun and ended -/

/-- Whether a line of code is in the document and begins a block there. -/
def Visit.beginsBlock (cfg : Settings) (v : Visit) : Bool :=
  v.role cfg == .code && (elision? v.state v.line).isNone &&
    (opensBlock v.line && !cfg.startsSwitch v.line)

/-- Whether a line of code is in the document and ends a block there. -/
def Visit.endsBlock (cfg : Settings) (v : Visit) : Bool :=
  v.role cfg == .code && (elision? v.state v.line).isNone &&
    (closesBlock v.line && !v.state.inSwitch)

/-- The blocks that have been begun since the last end of a comment. -/
def blocksBegun (cfg : Settings) (vs : List Visit) : Nat :=
  (sinceTerminator cfg vs).countP (·.beginsBlock cfg)

/-- The blocks that have been ended since the last end of a comment. -/
def blocksEnded (cfg : Settings) (vs : List Visit) : Nat :=
  (sinceTerminator cfg vs).countP (·.endsBlock cfg)

/-- A line of code that is not left out moves the depth by the block that it ends and the block that
    it begins. -/
theorem depth_codeLine_eq (cfg : Settings) (s : State) (line : String) :
    (codeLine cfg s line).1.depth +
        (if (elision? s line).isNone && (closesBlock line && !s.inSwitch) then 1 else 0) =
      s.depth +
        if (elision? s line).isNone && (opensBlock line && !cfg.startsSwitch line) then 1 else 0 := by
  cases he : elision? s line with
  | some e => cases e <;> simp [codeLine_opener, codeLine_closer, he]
  | none =>
    obtain ⟨-, hdepth, -⟩ := codeLine_of_shown cfg he
    rw [hdepth, Bool.and_comm (!_), Option.isNone_none, Bool.true_and, Bool.true_and]
    by_cases hcloses : (closesBlock line && !s.inSwitch) = true
    -- a block that is ended is one that is open
    · obtain ⟨hbrace, hswitch⟩ := Bool.and_eq_true_iff.mp hcloses
      have hpos : 0 < s.depth := depth_pos_of_shown he hbrace (by simpa using hswitch)
      rw [if_pos hcloses, if_pos hcloses]
      omega
    · rw [if_neg hcloses, if_neg hcloses]
      omega

/-- The end of a comment takes the depth back to zero; any other line moves it by the block that it
    ends and the block that it begins. -/
theorem depth_step_eq (cfg : Settings) (s : State) (raw : String) :
    (step cfg s raw).1.depth + (if (Visit.mk s (trim raw)).endsBlock cfg then 1 else 0) =
      if role cfg s (trim raw) = .closer then 0
      else s.depth + if (Visit.mk s (trim raw)).beginsBlock cfg then 1 else 0 := by
  -- only lines of code begin and end blocks
  by_cases hcode : role cfg s (trim raw) = .code
  · have hrole : (role cfg s (trim raw) == .code) = true := beq_iff_eq.mpr hcode
    rw [step_of_code hcode, Visit.beginsBlock, Visit.endsBlock, Visit.role, hrole, hcode,
      Bool.true_and, if_neg (c := Role.code = Role.closer) (by decide)]
    exact depth_codeLine_eq cfg { s.next with skipping := false } (trim raw)
  · have hrole : (role cfg s (trim raw) == .code) = false := beq_eq_false_iff_ne.mpr hcode
    rw [Visit.beginsBlock, Visit.endsBlock, Visit.role, hrole, Bool.false_and, Bool.false_and]
    cases hr : role cfg s (trim raw) with
    | wrapper => simp [step_of_wrapper hr, State.next]
    | skipped => simp [step_of_skipped hr, State.next]
    | closer => simp [step_of_closer hr, State.closeComment]
    | prose => simp [step_of_prose hr, State.next]
    | opener => simp [step_of_opener hr, State.openComment, State.next]
    | code => exact absurd hr hcode

/-- The depth is the number of blocks that have been begun and not ended since the last end of a
    comment. -/
theorem depth_run_eq (cfg : Settings) (opening : Opening) (lines : List String) :
    (run cfg opening.start lines).1.depth + blocksEnded cfg (visits cfg opening.start lines) =
      blocksBegun cfg (visits cfg opening.start lines) := by
  induction lines using List.reverseRecOn with
  | nil => rfl
  | append_singleton lines raw ih =>
    have hstep := depth_step_eq cfg (run cfg opening.start lines).1 raw
    rw [blocksBegun, blocksEnded] at ih ⊢
    rw [run_concat, visits_concat, sinceTerminator_concat]
    by_cases hr : role cfg (run cfg opening.start lines).1 (trim raw) = .closer
    -- the end of a comment starts both counts anew
    · rw [if_pos hr] at hstep
      rw [if_pos (by simpa [Visit.role] using hr), List.countP_nil, List.countP_nil]
      dsimp only
      omega
    · rw [if_neg hr] at hstep
      rw [if_neg (by simpa [Visit.role] using hr), List.countP_cons, List.countP_cons]
      dsimp only
      omega

/-! ## Lines that are lost -/

/-- What is left out emits nothing. -/
theorem step_of_elision {e : Elision} (h : stepElision? cfg s raw = some e) :
    (step cfg s raw).2 = [] := by
  simp only [stepElision?, Option.ite_none_right_eq_some] at h
  obtain ⟨hr, he⟩ := h
  have he' : elision? { s.next with skipping := false } (trim raw) = some e := he
  rw [step_of_code hr]
  cases e <;> simp [codeLine_opener, codeLine_closer, he']

/-- A line of code with text that is not left out comes out as a whole, behind the blanks that were
    held back. -/
theorem step_of_shown (hr : role cfg s (trim raw) = .code) (hline : trim raw ≠ "")
    (h : stepElision? cfg s raw = none) :
    (step cfg s raw).2 = (s.blanks.lines ++ [(Visit.mk s (trim raw)).shown cfg]).map .text := by
  have he : elision? { s.next with skipping := false } (trim raw) = none := by
    rw [stepElision?, if_pos hr] at h
    exact h
  rw [step_of_code hr, codeLine_text he hline, Visit.shown, Settings.indentLine_of_ne_empty hline]
  rfl

/-- A line of code with a character that is no opening brace is left out as a closing brace or not
    at all. -/
theorem elision?_of_text {line : String} (htext : ∃ c ∈ line.toList, c ≠ '\x7b')
    (hcloser : elision? s line ≠ some .closer) : elision? s line = none := by
  cases he : elision? s line with
  | none => rfl
  | some e =>
    cases e with
    | closer => exact absurd he hcloser
    | opener =>
      obtain ⟨-, rfl⟩ := elision?_eq_opener_iff.mp he
      obtain ⟨c, hc, hbrace⟩ := htext
      exact absurd (List.mem_singleton.mp hc) hbrace

/-- In every state that a scan of a source reaches, a line of code is left out as a closing brace if
    and only if it begins with one and is met outside a switch where every block that has been begun
    since the last comment has been ended, and it is left out as an opening brace only if it is one
    and nothing else.  What is left out leaves nothing in the document.  Any other line with a
    character that is no opening brace, such as a letter or a digit, comes out as a whole. -/
theorem text_shown_unless_closer (opening : Opening) (before : List String) (raw : String)
    (hrole : role cfg (run cfg opening.start before).1 (trim raw) = .code) :
    (stepElision? cfg (run cfg opening.start before).1 raw = some .closer ↔
      closesBlock (trim raw) = true ∧ (run cfg opening.start before).1.inSwitch = false ∧
        blocksEnded cfg (visits cfg opening.start before) =
          blocksBegun cfg (visits cfg opening.start before)) ∧
    (stepElision? cfg (run cfg opening.start before).1 raw = some .opener → trim raw = "\x7b") ∧
    (stepElision? cfg (run cfg opening.start before).1 raw ≠ none →
      (step cfg (run cfg opening.start before).1 raw).2 = []) ∧
    ((∃ c ∈ (trim raw).toList, c ≠ '\x7b') →
      stepElision? cfg (run cfg opening.start before).1 raw ≠ some .closer →
        ∃ level, (step cfg (run cfg opening.start before).1 raw).2 =
          ((run cfg opening.start before).1.blanks.lines ++
            [cfg.indent level ++ trim raw]).map .text) := by
  -- the balance of blocks is all that is needed of the state, which may then be any
  have hdepth := depth_run_eq cfg opening before
  generalize (run cfg opening.start before).1 = s at hrole hdepth ⊢
  have helision : stepElision? cfg s raw = elision? s (trim raw) := if_pos hrole
  refine ⟨?_, fun hopener => ?_, fun hne => ?_, ?_⟩
  -- depth zero says that as many blocks have ended as have begun
  · rw [helision, elision?_eq_closer_iff]
    refine and_congr_right fun _ => and_congr_right fun _ => ?_
    omega
  · rw [helision, elision?_eq_opener_iff] at hopener
    exact hopener.2
  · obtain ⟨e, he⟩ := Option.ne_none_iff_exists'.mp hne
    exact step_of_elision he
  · intro htext hcloser
    -- a character other than a brace is text
    have hline : trim raw ≠ "" := by
      intro hempty
      obtain ⟨c, hc, -⟩ := htext
      rw [hempty] at hc
      cases hc
    rw [helision] at hcloser
    have hshown : stepElision? cfg s raw = none := helision.trans (elision?_of_text htext hcloser)
    refine ⟨((Visit.mk s (trim raw)).state.beforeLine (trim raw)).levelOf (trim raw), ?_⟩
    rw [step_of_shown hrole hline hshown, Visit.shown, Settings.indentLine_of_ne_empty hline]

/-- An `else` behind a block that is open. -/
theorem text_shown_of_else :
    role {} (run {} Opening.comment.start ["/*", "### T", "*/", "if (a) \x7b", ""]).1
        (trim "  \x7d else b;") = .code ∧
      (∃ c ∈ (trim "  \x7d else b;").toList, c ≠ '\x7b') ∧
      stepElision? {} (run {} Opening.comment.start ["/*", "### T", "*/", "if (a) \x7b", ""]).1
        "  \x7d else b;" ≠ some .closer ∧
      ∃ level, (step {} (run {} Opening.comment.start
          ["/*", "### T", "*/", "if (a) \x7b", ""]).1 "  \x7d else b;").2 =
        ((run {} Opening.comment.start ["/*", "### T", "*/", "if (a) \x7b", ""]).1.blanks.lines ++
          [Settings.indent {} level ++ trim "  \x7d else b;"]).map .text := by
  have hrole : role {} (run {} Opening.comment.start ["/*", "### T", "*/", "if (a) \x7b", ""]).1
      (trim "  \x7d else b;") = .code := by decide +kernel
  have htext : ∃ c ∈ (trim "  \x7d else b;").toList, c ≠ '\x7b' :=
    ⟨'b', by decide +kernel, by decide⟩
  obtain ⟨hcloser, -, -, hshown⟩ := text_shown_unless_closer Opening.comment
    ["/*", "### T", "*/", "if (a) \x7b", ""] "  \x7d else b;" hrole
  -- one block has been begun and none has been ended
  have hopen : ¬(blocksEnded {} (visits {} Opening.comment.start
      ["/*", "### T", "*/", "if (a) \x7b", ""]) = blocksBegun {} (visits {} Opening.comment.start
        ["/*", "### T", "*/", "if (a) \x7b", ""])) := by decide +kernel
  have hkept := fun h => hopen (hcloser.mp h).2.2
  exact ⟨hrole, htext, hkept, hshown htext hkept⟩

/-- The end of a loop is lost if a comment stands in its body. -/
theorem text_lost_behind_comment :
    Settings.Valid {} ∧
      primeHeader {} ["/*", "T", "*/", "do \x7b", "/*", "U", "*/", "\x7d while (x);"] =
        .ok (.comment, ["/*", "### T", "*/", "do \x7b", "/*", "U", "*/", "\x7d while (x);"]) ∧
      role {} (run {} Opening.comment.start
        ["/*", "### T", "*/", "do \x7b", "/*", "U", "*/"]).1 (trim "\x7d while (x);") = .code ∧
      'w' ∈ (trim "\x7d while (x);").toList ∧
      (step {} (run {} Opening.comment.start
        ["/*", "### T", "*/", "do \x7b", "/*", "U", "*/"]).1 "\x7d while (x);").2 = [] := by
  exact ⟨rfl, rfl, by decide +kernel, by decide +kernel, by decide +kernel⟩

end SourceWeaver.Scan
