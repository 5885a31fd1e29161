/-
  Switches in code.

  A switch is rendered flat.  The line that begins it counts for the switch and not for the depth,
  so its labels stand at its own level; the lines behind a label stand one level deeper, up to the
  closing brace, which ends the switch and is not counted for the depth either.  `clauseLevel` says
  this for one line, from the lines of the switch that stand before it, and `flat_switch` for a whole
  switch whose body holds no braces and no other switch.
-/

import SourceWeaver.Proofs.Scan.Accounting

namespace SourceWeaver.Scan

open Text

variable {cfg : Settings} {s : State} {raw line : String} {body : List String} {depth levels : Nat}

/-! ## Levels of a switch -/

/-- The levels that the labels among some lines of a switch give to the lines behind them. -/
def levelsBehind (before : List String) : Nat :=
  if before.any fun raw => isLabel (trim raw) then 1 else 0

/-- The level of a line of a switch above the line that begins it: none for a label and for what
    stands before the first label, and one behind that. -/
def clauseLevel (before : List String) (raw : String) : Nat :=
  if isLabel (trim raw) then 0 else levelsBehind before

theorem levelsBehind_concat (before : List String) (raw : String) :
    levelsBehind (before ++ [raw]) =
      if isLabel (trim raw) then 1 else levelsBehind before := by
  rw [levelsBehind, levelsBehind, List.any_append, List.any_cons, List.any_nil, Bool.or_false]
  cases isLabel (trim raw) <;> simp

/-! ## One line -/

/-- In a switch, with some levels for the statements under its labels. -/
structure State.InClauses (s : State) (depth levels : Nat) : Prop where
  inSwitch : s.inSwitch = true
  depth : s.depth = depth
  clauseLevels : s.clauseLevels = levels
  pendingOpener : s.pendingOpener = false

theorem State.InClauses.next (h : s.InClauses depth levels) : s.next.InClauses depth levels :=
  ⟨h.inSwitch, h.depth, h.clauseLevels, h.pendingOpener⟩

/-- In a switch no line of code is left out. -/
theorem State.InClauses.elision? (h : s.InClauses depth levels) (line : String) :
    elision? s line = none := by
  simp [Scan.elision?, h.inSwitch, h.pendingOpener]

/-- The line that begins a switch stands at the level of the code before it. -/
theorem codeLine_begins_switch (hswitch : s.inSwitch = false) (hlevels : s.clauseLevels = 0)
    (hstarts : cfg.startsSwitch line = true) (hcloses : closesBlock line = false) :
    elision? s line = none ∧ (codeLine cfg s line).1.InClauses s.depth 0 ∧
      (Visit.mk s line).shown cfg = cfg.indentLine s.depth line := by
  -- a keyword is not blank, and a bare brace is none
  have hempty : line ≠ "" := by
    rintro rfl
    exact absurd (hstarts.symm.trans (startsSwitch_empty cfg)) (by decide)
  have hbrace : line ≠ "\x7b" := by
    rintro rfl
    have hnone : cfg.startsSwitch "\x7b" = false :=
      startsSwitch_of_single (c := '\x7b') (by decide) (by decide)
    exact absurd (hstarts.symm.trans hnone) (by decide)
  have hshown : elision? s line = none := by
    simp [elision?, hbrace, hcloses]
  obtain ⟨hin, hdepth, hpending⟩ := codeLine_of_shown cfg hshown
  obtain ⟨blanks, hstate⟩ := codeLine_of_elision_none cfg hshown
  refine ⟨hshown, ⟨?_, ?_, ?_, ?_⟩, ?_⟩
  · rw [hin, hstarts, Bool.or_true]
  · rw [hdepth, hcloses, hstarts]
    simp
  · rw [hstate]
    simp [State.afterLine, State.beforeLine, hswitch, hlevels]
  · rw [hpending]
    simp [hempty]
  · simp [Visit.shown, State.levelOf, State.beforeLine, hswitch, hlevels, hcloses]

/-- A line between the braces of a switch stands at the level of the switch if it is a label, and
    otherwise the levels of the clauses deeper; behind a label there is one such level. -/
theorem State.InClauses.codeLine (h : s.InClauses depth levels)
    (hshape : shape? cfg line = some .plain) :
    (codeLine cfg s line).1.InClauses depth (if isLabel line then 1 else levels) ∧
      (Visit.mk s line).shown cfg =
        cfg.indentLine (depth + if isLabel line then 0 else levels) line := by
  -- a plain line has no brace at either end, so it stays within the switch and its depth
  obtain ⟨hcloses, hopens, hends, hstarts⟩ := shape?_eq_plain_iff.mp hshape
  obtain ⟨hin, hdepth, hpending⟩ := codeLine_of_shown cfg (h.elision? line)
  obtain ⟨blanks, hstate⟩ := codeLine_of_elision_none cfg (h.elision? line)
  refine ⟨⟨?_, ?_, ?_, ?_⟩, ?_⟩
  · rw [hin, h.inSwitch, hends]
    simp
  · rw [hdepth, hcloses, hopens, h.depth]
    simp
  · rw [hstate]
    simp [State.afterLine, State.beforeLine, h.inSwitch, h.clauseLevels, hends]
  · rw [hpending, h.pendingOpener, Bool.false_and]
  · cases hlabel : isLabel line <;>
      simp [Visit.shown, State.levelOf, State.beforeLine, h.inSwitch, h.clauseLevels, h.depth,
        hcloses, hends, hlabel]

/-- The closing brace of a switch stands at the level of the switch and leaves nothing of it. -/
theorem State.InClauses.codeLine_closer (cfg : Settings) (h : s.InClauses depth levels) :
    (Scan.codeLine cfg s "\x7d").1.inSwitch = false ∧ (Scan.codeLine cfg s "\x7d").1.depth = depth ∧
      (Scan.codeLine cfg s "\x7d").1.clauseLevels = 0 ∧
      (Scan.codeLine cfg s "\x7d").1.pendingOpener = false ∧
      (Scan.codeLine cfg s "\x7d").1.blanks = {} ∧
      (Visit.mk s "\x7d").shown cfg = cfg.indentLine depth "\x7d" := by
  have hstarts := startsSwitch_brace cfg
  obtain ⟨hopens, hends, hlabel⟩ :
      opensBlock "\x7d" = false ∧ endsInBrace "\x7d" = true ∧ isLabel "\x7d" = false := by decide
  rw [codeLine_text (h.elision? _) (by decide)]
  simp [Visit.shown, State.levelOf, State.afterLine, State.beforeLine, h.inSwitch, h.depth,
    h.pendingOpener, hstarts, hopens, hends, hlabel]

/-! ## The body -/

/-- A line of code in a switch is kept, at its level. -/
theorem State.InClauses.kept (h : s.InClauses depth levels) (hline : isCodeLine cfg raw = true) :
    (Visit.mk s (trim raw)).kept cfg = [(Visit.mk s (trim raw)).shown cfg] := by
  rw [Visit.kept, Visit.isLeftOut, elides_of_isCodeLine hline, h.elision?]
  rfl

/-- The lines between the braces of a switch are kept, each at the level that the labels before it
    give. -/
theorem run_clauses (hs : s.InCode) (hin : s.InClauses depth 0)
    (hbody : ∀ raw ∈ body, isCodeLine cfg raw = true ∧ shape? cfg (trim raw) = some .plain) :
    (run cfg s body).1.InClauses depth (levelsBehind body) ∧
      (visits cfg s body).flatMap (·.kept cfg) =
        (withBefore body).map fun p =>
          cfg.indentLine (depth + clauseLevel p.1 p.2) (trim p.2) := by
  -- a label acts on the lines behind it, so the induction is from the last line
  induction body using List.reverseRecOn with
  | nil => exact ⟨hin, rfl⟩
  | append_singleton lines raw ih =>
    obtain ⟨hbefore, hraw⟩ := List.forall_mem_append.mp hbody
    obtain ⟨hline, hshape⟩ := hraw raw (List.mem_singleton_self raw)
    obtain ⟨hclauses, hkept⟩ := ih hbefore
    have hcode : (run cfg s lines).1.InCode := hs.run fun r hr => (hbefore r hr).1
    obtain ⟨hnext, -⟩ := hclauses.next.codeLine hshape
    obtain ⟨-, hshown⟩ := hclauses.codeLine hshape
    refine ⟨?_, ?_⟩
    · rw [run_concat, step_of_inCode hcode hline, levelsBehind_concat]
      exact hnext
    · rw [visits_concat, List.flatMap_append, hkept, List.flatMap_singleton, hclauses.kept hline,
        hshown, withBefore_concat, List.map_append, List.map_singleton, clauseLevel]

/-! ## Whole switches -/

section Switch

variable (hs : s.InCode) (hswitch : s.inSwitch = false) (hlevels : s.clauseLevels = 0)
  {opener closer : String} (hopener : isCodeLine cfg opener = true)
  (hstarts : cfg.startsSwitch (trim opener) = true) (hcloses : closesBlock (trim opener) = false)
  (hbody : ∀ raw ∈ body, isCodeLine cfg raw = true ∧ shape? cfg (trim raw) = some .plain)

include hs hswitch hlevels hopener hstarts hcloses hbody

/-- The lines of a switch up to its closing brace are kept, and the depth in front of the brace is
    that in front of the switch. -/
theorem run_open_switch :
    (run cfg s (opener :: body)).1.InCode ∧
      (run cfg s (opener :: body)).1.InClauses s.depth (levelsBehind body) ∧
      (visits cfg s (opener :: body)).flatMap (·.kept cfg) =
        cfg.indentLine s.depth (trim opener) ::
          (withBefore body).map fun p =>
            cfg.indentLine (s.depth + clauseLevel p.1 p.2) (trim p.2) := by
  obtain ⟨hshown, -, hfirst⟩ := codeLine_begins_switch hswitch hlevels hstarts hcloses
  have hcode : (step cfg s opener).1.InCode := hs.step hopener
  -- behind the line that starts it, no label has been met yet
  have hclauses : (step cfg s opener).1.InClauses s.depth 0 := by
    rw [step_of_inCode hs hopener]
    exact (codeLine_begins_switch (s := s.next) hswitch hlevels hstarts hcloses).2.1
  have hopened : (Visit.mk s (trim opener)).kept cfg =
      [cfg.indentLine s.depth (trim opener)] := by
    rw [Visit.kept, Visit.isLeftOut, elides_of_isCodeLine hopener, hshown, hfirst]
    rfl
  obtain ⟨hlast, hkept⟩ := run_clauses hcode hclauses hbody
  rw [run_cons, visits_cons, List.flatMap_cons, hopened, hkept]
  exact ⟨hcode.run fun raw hraw => (hbody raw hraw).1, hlast, rfl⟩

/-- A switch whose body holds no braces and no other switch comes out flat: its first and last lines
    and its labels at the level of the code around it, and so do the lines before its first label;
    the other lines one level deeper.  Blank lines come out empty.  Behind it the depth is as
    before, and nothing is left of the switch. -/
theorem flat_switch (hblanks : s.blanks.held = 0) (hcloser : isCodeLine cfg closer = true)
    (hbrace : trim closer = "\x7d") :
    (run cfg s (opener :: body ++ [closer])).2 =
        (cfg.indentLine s.depth (trim opener) ::
          (withBefore body).map (fun p =>
            cfg.indentLine (s.depth + clauseLevel p.1 p.2) (trim p.2)) ++
          [cfg.indentLine s.depth "\x7d"]).map .text ∧
      (run cfg s (opener :: body ++ [closer])).1.depth = s.depth ∧
      (run cfg s (opener :: body ++ [closer])).1.inSwitch = false ∧
      (run cfg s (opener :: body ++ [closer])).1.clauseLevels = 0 ∧
      (run cfg s (opener :: body ++ [closer])).1.pendingOpener = false ∧
      (run cfg s (opener :: body ++ [closer])).1.blanks.held = 0 := by
  obtain ⟨hcode, hclauses, hkept⟩ :=
    run_open_switch hs hswitch hlevels hopener hstarts hcloses hbody
  have hlines : ∀ raw ∈ opener :: body ++ [closer],
      cfg.beginsComment raw = false ∧ cfg.endsComment raw = false := by
    intro raw hraw
    apply unmarked_of_isCodeLine
    rcases List.mem_append.mp hraw with hraw | hraw
    · rcases List.mem_cons.mp hraw with rfl | hraw
      · exact hopener
      · exact (hbody raw hraw).1
    · exact List.mem_singleton.mp hraw ▸ hcloser
  -- the brace releases the blanks that are held back in front of it, and holds none back itself
  have hlast : (run cfg s (opener :: body ++ [closer])).1 =
      (codeLine cfg (run cfg s (opener :: body)).1.next "\x7d").1 := by
    rw [run_concat, step_of_inCode hcode hcloser, hbrace]
  obtain ⟨hin, hdepth, hclause, hpending, hheld, -⟩ := hclauses.next.codeLine_closer cfg
  obtain ⟨-, -, -, -, -, hshown⟩ := hclauses.codeLine_closer cfg
  obtain ⟨out, hout, -, hall, -⟩ := run_accounted hs hlines
  rw [visits_concat, List.flatMap_append, hkept, List.flatMap_singleton, hclauses.kept hcloser,
    hbrace, hshown, hlast, hheld, Blanks.lines_of_none hblanks, List.nil_append] at hall
  rw [hlast, hheld, hout, ← hall]
  refine ⟨?_, hdepth, hin, hclause, hpending, rfl⟩
  rw [Blanks.lines_of_none rfl, List.append_nil]

end Switch

/-- A switch in a block, behind a closing brace that was left out. -/
theorem flat_switch_of_labels :
    State.InCode { index := 7, blockOpen := true, depth := 1, pendingOpener := true } ∧
      (∀ raw ∈ ["a;", " case 1:", "b();", "", "default:", "c();", ""],
        isCodeLine {} raw = true ∧ shape? {} (trim raw) = some .plain) ∧
      (run {} { index := 7, blockOpen := true, depth := 1, pendingOpener := true }
          ("switch (x) \x7b" :: ["a;", " case 1:", "b();", "", "default:", "c();", ""] ++
            ["  \x7d"])).2 =
        ["    switch (x) \x7b", "    a;", "    case 1:", "        b();", "", "    default:",
          "        c();", "", "    \x7d"].map .text ∧
      (run {} { index := 7, blockOpen := true, depth := 1, pendingOpener := true }
          ("switch (x) \x7b" :: ["a;", " case 1:", "b();", "", "default:", "c();", ""] ++
            ["  \x7d"])).1.depth = 1 := by
  have hs : State.InCode { index := 7, blockOpen := true, depth := 1, pendingOpener := true } :=
    ⟨rfl, rfl⟩
  have hbody : ∀ raw ∈ ["a;", " case 1:", "b();", "", "default:", "c();", ""],
      isCodeLine {} raw = true ∧ shape? {} (trim raw) = some .plain := by decide +kernel
  have hopener : isCodeLine {} "switch (x) \x7b" = true := by decide +kernel
  have hcloser : isCodeLine {} "  \x7d" = true := by decide +kernel
  obtain ⟨hout, hdepth, -⟩ := flat_switch hs rfl rfl hopener (by decide +kernel) (by decide) hbody
    rfl hcloser (by decide +kernel)
  refine ⟨hs, hbody, ?_, hdepth⟩
  rw [hout]
  decide +kernel

end SourceWeaver.Scan
