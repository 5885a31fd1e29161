/-
  Indentation from the braces of a text.

  Outside a switch the level of a line of code is the number of blocks around it.  If no line ends
  a block that is not open, it can be counted off the lines themselves: the lines before it that end
  in an opening brace, less the lines up to it that begin with a closing one
  (`indentation_eq_nesting`).  The depth of the scan moves before a line that ends a block is shown,
  and behind a line that begins one, so a line such as `} else {` counts as both and stands one
  level out.
-/

import SourceWeaver.Proofs.Scan.Accounting

namespace SourceWeaver.Scan

open Text

variable {cfg : Settings} {s : State} {raw : String} {lines : List String}

/-! ## Braces of a text -/

/-- The number of lines that end in an opening brace. -/
def openers (lines : List String) : Nat :=
  lines.countP fun raw => opensBlock (trim raw)

/-- The number of lines that begin with a closing brace. -/
def closers (lines : List String) : Nat :=
  lines.countP fun raw => closesBlock (trim raw)

/-- The number of blocks around a line, with `depth` blocks open in front of the lines before
    it. -/
def nestingOf (depth : Nat) (before : List String) (raw : String) : Nat :=
  depth + openers before - closers (before ++ [raw])

theorem openers_concat (lines : List String) (raw : String) :
    openers (lines ++ [raw]) = openers lines + if opensBlock (trim raw) then 1 else 0 := by
  rw [openers, List.countP_append, List.countP_singleton, ← openers]

theorem closers_concat (lines : List String) (raw : String) :
    closers (lines ++ [raw]) = closers lines + if closesBlock (trim raw) then 1 else 0 := by
  rw [closers, List.countP_append, List.countP_singleton, ← closers]

/-! ## One line -/

/-- Outside a switch, with nothing left of its clauses and no opening brace pending. -/
structure State.OutsideSwitch (s : State) : Prop where
  inSwitch : s.inSwitch = false
  clauseLevels : s.clauseLevels = 0
  pendingOpener : s.pendingOpener = false

theorem State.OutsideSwitch.next (h : s.OutsideSwitch) : s.next.OutsideSwitch :=
  ⟨h.inSwitch, h.clauseLevels, h.pendingOpener⟩

/-- Outside a switch, a line of code that ends no block but one that is open is shown at the depth
    behind its closing brace, and its opening brace counts behind it. -/
theorem State.OutsideSwitch.codeLine {line : String} (hout : s.OutsideSwitch)
    (hstarts : cfg.startsSwitch line = false) (hroom : closesBlock line = true → 0 < s.depth) :
    elision? s line = none ∧ (codeLine cfg s line).1.OutsideSwitch ∧
      (codeLine cfg s line).1.depth + (if closesBlock line then 1 else 0) =
        s.depth + (if opensBlock line then 1 else 0) ∧
      (Visit.mk s line).shown cfg =
        cfg.indentLine (s.depth - if closesBlock line then 1 else 0) line := by
  -- a closing brace that has a block to end is not left out
  have hshown : elision? s line = none := by
    rw [elision?_eq_none_iff hout.pendingOpener]
    intro hcloses
    exact Nat.lt_of_lt_of_le (hroom hcloses) (Nat.le_add_right _ _)
  obtain ⟨hswitch, hdepth, hpending⟩ := codeLine_of_shown cfg hshown
  obtain ⟨blanks, hstate⟩ := codeLine_of_elision_none cfg hshown
  -- outside a switch there are no extra levels, so the depth is the level
  have hlevel : (s.beforeLine line).levelOf line = s.depth - if closesBlock line then 1 else 0 := by
    simp only [State.levelOf, State.beforeLine, hout.inSwitch, hout.clauseLevels]
    cases closesBlock line <;> simp
  refine ⟨hshown, ⟨?_, ?_, ?_⟩, ?_, ?_⟩
  · rw [hswitch, hout.inSwitch, hstarts]
    rfl
  · rw [hstate]
    simp [State.afterLine, State.beforeLine, hout.inSwitch, hout.clauseLevels]
  · rw [hpending, hout.pendingOpener, Bool.false_and]
  · rw [hdepth, hout.inSwitch, hstarts]
    -- the brace takes a level away that is there
    cases hcloses : closesBlock line with
    | false => simp
    | true =>
      have hpos := hroom hcloses
      simp
      omega
  · rw [Visit.shown, hlevel]

theorem State.OutsideSwitch.step (hs : s.InCode) (hout : s.OutsideSwitch)
    (hline : isCodeLine cfg raw = true) (hstarts : cfg.startsSwitch (trim raw) = false)
    (hroom : closesBlock (trim raw) = true → 0 < s.depth) :
    stepElision? cfg s raw = none ∧ (step cfg s raw).1.OutsideSwitch ∧
      (step cfg s raw).1.depth + (if closesBlock (trim raw) then 1 else 0) =
        s.depth + (if opensBlock (trim raw) then 1 else 0) ∧
      (Visit.mk s (trim raw)).kept cfg =
        [cfg.indentLine (s.depth - if closesBlock (trim raw) then 1 else 0) (trim raw)] := by
  -- counting the line moves the index alone, and the level is that of the state before
  obtain ⟨hnone, hout', hdepth, -⟩ := hout.next.codeLine hstarts hroom
  obtain ⟨-, -, -, hlevel⟩ := hout.codeLine hstarts hroom
  have helides : cfg.elides (trim raw) = false := elides_of_isCodeLine hline
  have hshown : elision? s (trim raw) = none := hnone
  rw [stepElision?_of_inCode hs hline, step_of_inCode hs hline]
  refine ⟨hshown, hout', hdepth, ?_⟩
  rw [Visit.kept, Visit.isLeftOut, helides, hshown, hlevel]
  rfl

/-! ## Runs of code -/

/-- The lines of a run of code outside a switch, each at the level that the braces before it give,
    and how deep the run ends. -/
theorem run_outside_switch (hs : s.InCode) (hout : s.OutsideSwitch)
    (hlines : ∀ raw ∈ lines, isCodeLine cfg raw = true ∧ cfg.startsSwitch (trim raw) = false)
    (hroom : ∀ p ∈ withBefore lines, closesBlock (trim p.2) = true →
      1 ≤ s.depth + openers p.1 - closers p.1) :
    (run cfg s lines).1.OutsideSwitch ∧
      (run cfg s lines).1.depth + closers lines = s.depth + openers lines ∧
      elisions cfg s lines = [] ∧
      (visits cfg s lines).flatMap (·.kept cfg) =
        (withBefore lines).map fun p => cfg.indentLine (nestingOf s.depth p.1 p.2) (trim p.2) := by
  induction lines using List.reverseRecOn with
  | nil =>
    refine ⟨hout, ?_, rfl, rfl⟩
    rw [run_nil, openers, closers, List.countP_nil, List.countP_nil]
  | append_singleton lines raw ih =>
    obtain ⟨hbefore, hraw⟩ := List.forall_mem_append.mp hlines
    obtain ⟨hline, hstarts⟩ := hraw raw (List.mem_singleton_self raw)
    rw [withBefore_concat] at hroom
    obtain ⟨hroom, hlast⟩ := List.forall_mem_append.mp hroom
    obtain ⟨hout, hdepth, hnone, hkept⟩ := ih hbefore hroom
    have hcode : (run cfg s lines).1.InCode := hs.run fun r hr => (hbefore r hr).1
    -- the blocks that are open in front of the last line are those that the lines before it leave
    have hopen : closesBlock (trim raw) = true → 0 < (run cfg s lines).1.depth := by
      intro hcloses
      have hone := hlast (lines, raw) (List.mem_singleton_self _) hcloses
      dsimp only at hone
      omega
    obtain ⟨hshown, hout', hmoved, hlevel⟩ := hout.step hcode hline hstarts hopen
    have hnesting : (run cfg s lines).1.depth - (if closesBlock (trim raw) then 1 else 0) =
        nestingOf s.depth lines raw := by
      rw [nestingOf, closers_concat]
      omega
    rw [run_concat]
    refine ⟨hout', ?_, ?_, ?_⟩
    · rw [openers_concat, closers_concat]
      dsimp only
      omega
    · exact (elisions_concat_eq_nil_iff lines raw).mpr ⟨hnone, hshown⟩
    · rw [visits_concat, List.flatMap_append, hkept, List.flatMap_singleton, hlevel, hnesting,
        withBefore_concat, List.map_append, List.map_singleton]

/-! ## Indentation -/

/-- Of some indented lines, those that are not blank are those with text, behind their
    indentation. -/
theorem filter_indentLine (level : α → Nat) (line : α → String) (ps : List α) :
    (ps.map fun p => cfg.indentLine (level p) (line p)).filter (· != "") =
      (ps.filter fun p => line p != "").map fun p => cfg.indent (level p) ++ line p := by
  induction ps with
  | nil => rfl
  | cons p rest ih =>
    by_cases hline : line p = ""
    · simp [hline, Settings.indentLine_empty, ih]
    · have hshown : cfg.indent (level p) ++ line p ≠ "" := indent_append_ne_empty hline (level p)
      simp [hline, Settings.indentLine_of_ne_empty hline, hshown, ih]

/-- Code outside a switch whose lines end no block that is not open comes out as a whole, each line
    with text behind the indentation of the blocks around it, and ends as deep as its braces say.
    The blank lines stay where they are, but those at the end are held back. -/
theorem indentation_eq_nesting (hs : s.InCode) (hout : s.OutsideSwitch)
    (hblanks : s.blanks.held = 0)
    (hlines : ∀ raw ∈ lines, isCodeLine cfg raw = true ∧ cfg.startsSwitch (trim raw) = false)
    (hroom : ∀ p ∈ withBefore lines, closesBlock (trim p.2) = true →
      1 ≤ s.depth + openers p.1 - closers p.1) :
    ∃ out : List String, (run cfg s lines).2 = out.map .text ∧
      out.filter (· != "") =
        ((withBefore lines).filter fun p => trim p.2 != "").map (fun p =>
          cfg.indent (nestingOf s.depth p.1 p.2) ++ trim p.2) ∧
      out ++ (run cfg s lines).1.blanks.lines =
        (withBefore lines).map (fun p => cfg.indentLine (nestingOf s.depth p.1 p.2) (trim p.2)) ∧
      elisions cfg s lines = [] ∧
      (run cfg s lines).1.depth + closers lines = s.depth + openers lines := by
  obtain ⟨-, hdepth, hnone, hkept⟩ := run_outside_switch hs hout hlines hroom
  have hunmarked : ∀ raw ∈ lines, cfg.beginsComment raw = false ∧ cfg.endsComment raw = false := by
    intro raw hraw
    have hcode := (hlines raw hraw).1
    simp only [isCodeLine, Bool.and_eq_true, Bool.not_eq_true'] at hcode
    simp [Settings.beginsComment, Settings.endsComment, hcode]
  obtain ⟨out, htext, -, hout, -⟩ := run_accounted hs hunmarked
  have hheld : s.blanks.lines = [] := by
    rw [Blanks.lines, hblanks]
    rfl
  rw [hheld, List.nil_append, hkept] at hout
  refine ⟨out, htext, ?_, hout, hnone, hdepth⟩
  -- the lines that are held back are blank
  have hfilter : (run cfg s lines).1.blanks.lines.filter (· != "") = [] := by
    rw [List.filter_eq_nil_iff]
    intro line hline
    simp [Blanks.eq_empty_of_mem_lines hline]
  rw [← filter_indentLine, ← hout, List.filter_append, hfilter, List.append_nil]

/-- A block in two parts, at the end of a block that was open before. -/
theorem indentation_of_else :
    State.InCode { index := 7, blockOpen := true, depth := 1 } ∧
      State.OutsideSwitch { index := 7, blockOpen := true, depth := 1 } ∧
      (∀ raw ∈ ["if (a) \x7b", "x;", "", "\x7d else \x7b", "  y;", "\x7d", "\x7d", ""],
        isCodeLine {} raw = true ∧ Settings.startsSwitch {} (trim raw) = false) ∧
      (∀ p ∈ withBefore ["if (a) \x7b", "x;", "", "\x7d else \x7b", "  y;", "\x7d", "\x7d", ""],
        closesBlock (trim p.2) = true → 1 ≤ 1 + openers p.1 - closers p.1) ∧
      ∃ out : List String,
        (run {} { index := 7, blockOpen := true, depth := 1 }
          ["if (a) \x7b", "x;", "", "\x7d else \x7b", "  y;", "\x7d", "\x7d", ""]).2 =
            out.map .text ∧
        out.filter (· != "") =
          ["    if (a) \x7b", "        x;", "    \x7d else \x7b", "        y;", "    \x7d",
            "\x7d"] ∧
        (run {} { index := 7, blockOpen := true, depth := 1 }
          ["if (a) \x7b", "x;", "", "\x7d else \x7b", "  y;", "\x7d", "\x7d", ""]).1.depth +
            3 = 1 + 2 := by
  have hs : State.InCode { index := 7, blockOpen := true, depth := 1 } := ⟨rfl, rfl⟩
  have hout : State.OutsideSwitch { index := 7, blockOpen := true, depth := 1 } := ⟨rfl, rfl, rfl⟩
  have hlines : ∀ raw ∈
      ["if (a) \x7b", "x;", "", "\x7d else \x7b", "  y;", "\x7d", "\x7d", ""],
      isCodeLine {} raw = true ∧ Settings.startsSwitch {} (trim raw) = false := by decide +kernel
  have hroom : ∀ p ∈ withBefore
      ["if (a) \x7b", "x;", "", "\x7d else \x7b", "  y;", "\x7d", "\x7d", ""],
      closesBlock (trim p.2) = true → 1 ≤ 1 + openers p.1 - closers p.1 := by decide +kernel
  obtain ⟨out, htext, hshown, -, -, hdepth⟩ := indentation_eq_nesting hs hout rfl hlines hroom
  refine ⟨hs, hout, hlines, hroom, out, htext, ?_, hdepth⟩
  rw [hshown]
  decide +kernel

end SourceWeaver.Scan
