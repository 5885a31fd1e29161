/-
  Scanning code that has been scanned before.

  Outside comments a scan reads its lines one by one as code, at whatever place they stand
  (`run_eq_codeRun`).  What comes out of such a run is left as it is by another one that begins in
  the same state: it holds no line that is left out, and trimming takes away the indentation alone,
  which comes back at the same levels (`code_scanned_again`).

  The second run has no part of the lines that the first one left out, nor of the blanks that it
  still held back at its end.  So the two go through the same states but for a pending opener and
  the held blanks, and these are all that `State.settled` puts aside.
-/

import SourceWeaver.Proofs.Scan.Independence
import SourceWeaver.Proofs.Scan.Accounting

namespace SourceWeaver.Scan

open Text

variable {cfg : Settings} {s : State} {raw line : String} {lines : List String}

/-! ## Runs of code at any place -/

theorem codeRun_moved (cfg : Settings) (s : State) (i : Nat) (lines : List String) :
    codeRun cfg (s.moved i) lines =
      ((codeRun cfg s lines).1.moved i, (codeRun cfg s lines).2) := by
  induction lines generalizing s with
  | nil => rfl
  | cons line rest ih => rw [codeRun_cons, codeLine_moved, ih, codeRun_cons]

/-- Outside comments, lines that neither begin nor end one are read as code, but for those of the
    entry-point wrapper that are left out. -/
theorem run_eq_codeRun (hs : s.InCode)
    (hlines : ∀ raw ∈ lines, cfg.beginsComment raw = false ∧ cfg.endsComment raw = false) :
    run cfg s lines =
      ((codeRun cfg s (cfg.kept lines)).1.moved (s.index + lines.length),
        (codeRun cfg s (cfg.kept lines)).2.map .text) := by
  induction lines generalizing s with
  | nil => rfl
  | cons raw rest ih =>
    obtain ⟨⟨hbegins, hends⟩, hrest⟩ := List.forall_mem_cons.mp hlines
    -- the index is put back at the end, since lines of code do not look at it
    have hplace : s.index + 1 + rest.length = s.index + (raw :: rest).length := by
      rw [List.length_cons]
      omega
    cases he : cfg.elides (trim raw) with
    | true =>
      have hnext : s.next.InCode := ⟨hs.inComment, hs.skipping⟩
      rw [run_cons, step_of_wrapper (role_eq_wrapper_iff.mpr he), ih hnext hrest,
        Settings.kept_cons_of_elides he, s.next_eq_moved, codeRun_moved, ← hplace]
      rfl
    | false =>
      have hcode := isCodeLine_of_kept hbegins hends he
      have hstep := hs.step hcode
      rw [step_of_inCode hs hcode, s.next_eq_moved, codeLine_moved] at hstep
      rw [run_cons, step_of_inCode hs hcode, s.next_eq_moved, codeLine_moved, ih hstep hrest,
        codeRun_moved, Settings.kept_cons he, codeRun_cons, List.map_append, ← hplace]
      rfl

theorem codeElisions_moved (cfg : Settings) (s : State) (i : Nat) (lines : List String) :
    codeElisions cfg (s.moved i) lines = codeElisions cfg s lines := by
  induction lines generalizing s with
  | nil => rfl
  | cons line rest ih =>
    have hline : elision? (s.moved i) line = elision? s line := rfl
    rw [codeElisions, codeLine_moved, ih, hline, codeElisions]

/-- The braces that such a scan reports are those that the run of code leaves out. -/
theorem map_elisions_eq_codeElisions (hs : s.InCode)
    (hlines : ∀ raw ∈ lines, isCodeLine cfg raw = true) :
    (elisions cfg s lines).map Prod.snd = codeElisions cfg s (lines.map trim) := by
  induction lines generalizing s with
  | nil => rfl
  | cons raw rest ih =>
    obtain ⟨hraw, hrest⟩ := List.forall_mem_cons.mp hlines
    have hreport (found : Option Elision) :
        (found.toList.map fun e => (s.index + 1, e)).map Prod.snd = found.toList := by
      cases found <;> rfl
    rw [elisions, List.map_append, ih (hs.step hraw) hrest, stepElision?_of_inCode hs hraw,
      hreport, step_of_inCode hs hraw, s.next_eq_moved, codeLine_moved, codeElisions_moved,
      List.map_cons, codeElisions]

/-! ## What a second run meets -/

/-- The same state with no opener pending and no blanks held back. -/
def State.settled (s : State) : State :=
  { s.withPending false with blanks := {} }

theorem State.settled_eq_self (hpending : s.pendingOpener = false) (hblanks : s.blanks.held = 0) :
    s.settled = s := by
  have hnone : s.blanks = {} := by
    cases hb : s.blanks
    simpa [hb] using hblanks
  rw [settled, withPending, ← hpending, ← hnone]

/-- Blanks that come out are held back again, one by one, where they are read. -/
theorem codeRun_blanks (cfg : Settings) (s : State) (n : Nat) :
    codeRun cfg s (List.replicate n "") = ({ s with blanks := ⟨s.blanks.held + n⟩ }, []) ∧
      codeElisions cfg s (List.replicate n "") = [] := by
  induction n generalizing s with
  | zero => exact ⟨rfl, rfl⟩
  | succ n ih =>
    -- the first blank line is held back, and the others behind it
    obtain ⟨hrun, hnone⟩ := ih { s with blanks := s.blanks.push }
    have hheld : s.blanks.push.held + n = s.blanks.held + (n + 1) := by
      show s.blanks.held + 1 + n = s.blanks.held + (n + 1)
      omega
    rw [List.replicate_succ]
    refine ⟨?_, ?_⟩
    · rw [codeRun_cons, codeLine_of_blank, hrun, hheld]
      rfl
    · rw [codeElisions_cons_eq_nil_iff, codeLine_of_blank]
      exact ⟨elision?_blank s, hnone⟩

/-- A line of code is a line with text that is shown, or nothing comes out of it and it leaves the
    state as it was, but for what is put aside. -/
theorem shown_or_quiet (cfg : Settings) (s : State) (line : String) :
    (line ≠ "" ∧ elision? s line = none) ∨
      (codeLine cfg s line).2 = [] ∧ (codeLine cfg s line).1.settled = s.settled := by
  -- what a settled state forgets is all that such a line can change
  cases he : elision? s line with
  | some e =>
    right
    cases e with
    | opener =>
      rw [codeLine_opener he]
      exact ⟨rfl, rfl⟩
    | closer =>
      rw [codeLine_closer he]
      exact ⟨rfl, rfl⟩
  | none =>
    by_cases hline : line = ""
    · right
      subst hline
      rw [codeLine_of_blank]
      exact ⟨rfl, rfl⟩
    · exact .inl ⟨hline, rfl⟩

/-- A line of code with text that is shown is shown without a pending opener too. -/
theorem elision?_withPending_false (h : elision? s line = none) :
    elision? (s.withPending false) line = none := by
  unfold elision? at h ⊢
  simp only [State.withPending]
  grind

/-- Behind a line of code with text that is shown no opener is pending and no blanks are held
    back. -/
theorem settled_codeLine_of_shown (cfg : Settings) (h : elision? s line = none) (hline : line ≠ "") :
    (codeLine cfg s line).1.settled = (codeLine cfg s line).1 := by
  have hempty : (line == "") = false := by simpa using hline
  rw [codeLine_text h hline]
  simp [State.settled, State.withPending, State.beforeLine, State.afterLine, hempty]

/-! ## The second run -/

/-- What comes out of a run of code comes out of it again, without any line that is left out, and
    the two runs end alike but for what is put aside. -/
theorem codeRun_again (cfg : Settings) (s : State) (hlines : ∀ line ∈ lines, trim line = line) :
    codeRun cfg s.settled ((codeRun cfg s lines).2.map trim) =
        ((codeRun cfg s lines).1.settled, (codeRun cfg s lines).2) ∧
      codeElisions cfg s.settled ((codeRun cfg s lines).2.map trim) = [] := by
  induction lines generalizing s with
  | nil => exact ⟨rfl, rfl⟩
  | cons line rest ih =>
    obtain ⟨hline, hrest⟩ := List.forall_mem_cons.mp hlines
    obtain ⟨hrun, hnone⟩ := ih (codeLine cfg s line).1 hrest
    rw [codeRun_cons, List.map_append]
    rcases shown_or_quiet cfg s line with ⟨htext, hshown⟩ | ⟨hquiet, hsettled⟩
    · have hshown' := elision?_withPending_false hshown
      have hagain := codeLine_withPending cfg htext (hshown'.trans hshown.symm)
      rw [settled_codeLine_of_shown cfg hshown htext] at hrun hnone
      -- the blanks that were held back come out in front of the line, and are held back once more
      have htrim : (codeLine cfg s line).2.map trim = List.replicate s.blanks.held "" ++ [line] := by
        have hunindented := cfg.trim_indentLine ((s.beforeLine line).levelOf line) line
        rw [hline, Settings.indentLine_of_ne_empty htext] at hunindented
        rw [codeLine_text hshown htext, List.map_append, map_trim_blanks, Blanks.lines,
          List.map_singleton, hunindented]
      obtain ⟨hblanks, hnoblanks⟩ := codeRun_blanks cfg s.settled s.blanks.held
      have hheld : ({ s.settled with blanks := ⟨s.settled.blanks.held + s.blanks.held⟩ } : State) =
          s.withPending false := by
        rw [State.settled, Nat.zero_add]
        rfl
      -- so the second run meets the line in the state in which the first one did
      rw [hheld] at hblanks
      rw [htrim, List.append_assoc, codeRun_append, codeElisions_append, hblanks, hnoblanks,
        List.singleton_append, codeRun_cons, codeElisions, hshown', hagain]
      refine ⟨?_, hnone⟩
      rw [hrun]
      rfl
    -- the second run does not meet the line at all
    · rw [hsettled] at hrun hnone
      rw [hquiet, List.map_nil, List.nil_append, List.nil_append]
      exact ⟨hrun, hnone⟩

/-! ## Code as it comes out -/

theorem kept_eq_map (h : ∀ raw ∈ lines, cfg.elides (trim raw) = false) :
    cfg.kept lines = lines.map trim := by
  rw [Settings.kept, List.filter_eq_self]
  intro line hline
  obtain ⟨raw, hraw, rfl⟩ := List.mem_map.mp hline
  rw [h raw hraw]
  rfl

theorem trim_of_mem_kept {line : String} (h : line ∈ cfg.kept lines) : trim line = line := by
  obtain ⟨hline, -⟩ := List.mem_filter.mp h
  obtain ⟨raw, -, rfl⟩ := List.mem_map.mp hline
  exact trim_trim raw

theorem eq_of_map_text_eq {a b : List String} (h : a.map Piece.text = b.map .text) : a = b :=
  List.map_injective_iff.mpr (fun _ _ h => Piece.text.inj h) h

/-- What comes out of code is, apart from white space around it, a line of that code which is not
    left out. -/
theorem exists_raw_of_emitted (hs : s.InCode) (hblanks : s.blanks.held = 0)
    (hlines : ∀ raw ∈ lines, cfg.beginsComment raw = false ∧ cfg.endsComment raw = false)
    {out : List String} (hout : (run cfg s lines).2 = out.map .text) :
    ∀ line ∈ out, ∃ raw ∈ lines, trim line = trim raw ∧ cfg.elides (trim raw) = false := by
  intro line hline
  obtain ⟨out', hout', -, hkept, -⟩ := run_accounted hs hlines
  obtain rfl : out = out' := eq_of_map_text_eq (hout.symm.trans hout')
  -- a line that has come out is one of those that are kept on the way
  have hmem : line ∈ (visits cfg s lines).flatMap (·.kept cfg) := by
    rw [Blanks.lines_of_none hblanks, List.nil_append] at hkept
    rw [← hkept]
    exact List.mem_append_left _ hline
  obtain ⟨v, hv, hshown⟩ := List.mem_flatMap.mp hmem
  obtain ⟨pre, raw, post, rfl, rfl⟩ := mem_visits_iff.mp hv
  rw [Visit.kept] at hshown
  split at hshown
  · cases hshown
  · next hleft =>
    rw [Visit.isLeftOut, Bool.or_eq_true, not_or, Bool.not_eq_true] at hleft
    obtain rfl := List.mem_singleton.mp hshown
    exact ⟨raw, by simp, cfg.trim_indentLine _ raw, hleft.1⟩

/-- Code that begins with no opener pending and no blanks held back comes out in a form that a
    second scan from the same state leaves as it is: no line of it is left out, it comes out line by
    line, and the scan ends as the first one did, but that no opener is pending and no blanks are
    held back. -/
theorem code_scanned_again (hs : s.InCode) (hpending : s.pendingOpener = false)
    (hblanks : s.blanks.held = 0)
    (hlines : ∀ raw ∈ lines, cfg.beginsComment raw = false ∧ cfg.endsComment raw = false) :
    ∃ out : List String, (run cfg s lines).2 = out.map .text ∧
      (run cfg s out).2 = out.map .text ∧
      (∀ raw ∈ out, cfg.elides (trim raw) = false) ∧ elisions cfg s out = [] ∧
      (run cfg s out).1 =
        { (run cfg s lines).1 with
          index := s.index + out.length, pendingOpener := false, blanks := {} } := by
  have hfirst := run_eq_codeRun hs hlines
  obtain ⟨hagain, hnone⟩ := codeRun_again cfg s fun line hline => trim_of_mem_kept hline
  rw [s.settled_eq_self hpending hblanks] at hagain hnone
  generalize hemit : (codeRun cfg s (cfg.kept lines)).2 = out at hfirst hagain hnone
  have hout : (run cfg s lines).2 = out.map .text := by rw [hfirst]
  have hraw := exists_raw_of_emitted hs hblanks hlines hout
  -- the lines that come out are read as their sources were
  have helides : ∀ raw ∈ out, cfg.elides (trim raw) = false := by
    intro line hline
    obtain ⟨raw, -, htrim, he⟩ := hraw line hline
    rw [htrim, he]
  have hunmarked : ∀ raw ∈ out, cfg.beginsComment raw = false ∧ cfg.endsComment raw = false := by
    intro line hline
    obtain ⟨raw, hmem, htrim, -⟩ := hraw line hline
    obtain ⟨hbegins, hends⟩ := hlines raw hmem
    rw [Settings.beginsComment, Settings.endsComment, htrim]
    exact ⟨hbegins, hends⟩
  have hcode : ∀ raw ∈ out, isCodeLine cfg raw = true := fun raw hmem =>
    isCodeLine_of_kept (hunmarked raw hmem).1 (hunmarked raw hmem).2 (helides raw hmem)
  have hsecond := run_eq_codeRun hs hunmarked
  rw [kept_eq_map helides, hagain] at hsecond
  refine ⟨out, hout, ?_, helides, ?_, ?_⟩
  · rw [hsecond]
  · rw [← List.map_eq_nil_iff (f := Prod.snd), map_elisions_eq_codeElisions hs hcode, hnone]
  · rw [hsecond, hfirst]
    rfl

/-- A block that ends, a scope behind it that goes on with a bare opening brace, and a block that
    holds a line of the entry-point wrapper. -/
theorem code_scanned_again_of_scopes :
    State.InCode { index := 7, blockOpen := true, depth := 1 } ∧
      (∀ raw ∈ ["  a();", "\x7d", "\x7d", "", "  \x7b", "if (b) \x7b", "  return 0;", "\tc();", "",
          "\x7d", ""],
        Settings.beginsComment {} raw = false ∧ Settings.endsComment {} raw = false) ∧
      (run {} { index := 7, blockOpen := true, depth := 1 }
          ["  a();", "\x7d", "\x7d", "", "  \x7b", "if (b) \x7b", "  return 0;", "\tc();", "",
            "\x7d", ""]).2 =
        ["    a();", "\x7d", "", "if (b) \x7b", "    c();", "", "\x7d"].map .text ∧
      (run {} { index := 7, blockOpen := true, depth := 1 }
          ["    a();", "\x7d", "", "if (b) \x7b", "    c();", "", "\x7d"]).2 =
        ["    a();", "\x7d", "", "if (b) \x7b", "    c();", "", "\x7d"].map .text ∧
      elisions {} { index := 7, blockOpen := true, depth := 1 }
        ["    a();", "\x7d", "", "if (b) \x7b", "    c();", "", "\x7d"] = [] ∧
      (run {} { index := 7, blockOpen := true, depth := 1 }
        ["    a();", "\x7d", "", "if (b) \x7b", "    c();", "", "\x7d"]).1.depth = 0 := by
  have hs : State.InCode { index := 7, blockOpen := true, depth := 1 } := ⟨rfl, rfl⟩
  have hlines : ∀ raw ∈
      ["  a();", "\x7d", "\x7d", "", "  \x7b", "if (b) \x7b", "  return 0;", "\tc();", "", "\x7d",
        ""],
      Settings.beginsComment {} raw = false ∧ Settings.endsComment {} raw = false := by
    decide +kernel
  have hemit : (run {} { index := 7, blockOpen := true, depth := 1 }
      ["  a();", "\x7d", "\x7d", "", "  \x7b", "if (b) \x7b", "  return 0;", "\tc();", "", "\x7d",
        ""]).2 =
      ["    a();", "\x7d", "", "if (b) \x7b", "    c();", "", "\x7d"].map .text := by
    decide +kernel
  have hdepth : (run {} { index := 7, blockOpen := true, depth := 1 }
      ["  a();", "\x7d", "\x7d", "", "  \x7b", "if (b) \x7b", "  return 0;", "\tc();", "", "\x7d",
        ""]).1.depth = 0 := by
    decide +kernel
  obtain ⟨out, hout, hagain, -, hnone, hstate⟩ := code_scanned_again hs rfl rfl hlines
  obtain rfl : ["    a();", "\x7d", "", "if (b) \x7b", "    c();", "", "\x7d"] = out :=
    eq_of_map_text_eq (hemit.symm.trans hout)
  refine ⟨hs, hlines, hemit, hagain, hnone, ?_⟩
  rw [hstate]
  exact hdepth

end SourceWeaver.Scan
