/-
  The white space of a document.

  No line of a document holds a line feed or ends in white space, and what stands in front of its
  text are the spaces of a whole number of levels (`Settings.CleanAt`).  Each piece that a scan emits
  comes with the line on which it is emitted (`emissions`), and its level with them: only lines of
  code have one other than zero (`cleanAt_emission`).

  The heading that priming makes of the second line is one of these if it is scanned as code.  It then
  stands in the block that the first line begins, if that begins one (`level_title`).

  Since the lines are clean, the text of a document has them as its lines again (`document_clean`).
-/

import SourceWeaver.Proofs.Document.Origins
import SourceWeaver.Proofs.Document.Sources
import SourceWeaver.Proofs.Scan.Elisions

namespace SourceWeaver

open Text Scan

variable {cfg : Settings} {s : State} {raw line : String} {lines : List String}

/-! ## Clean lines -/

theorem feed_not_mem_of_no_blank (h : ∀ c ∈ line.toList, isBlank c = false) : '\n' ∉ line.toList :=
  fun hfeed => absurd (h _ hfeed) (by decide)

/-- A line without a line feed and without white space at its end, with the spaces of some levels in
    front of its text and no other white space there. -/
structure Settings.CleanAt (cfg : Settings) (level : Nat) (line : String) : Prop where
  no_feed : '\n' ∉ line.toList
  no_trailing : ∀ c ∈ line.toList.getLast?, isBlank c = false
  margin : line.toList.takeWhile isBlank = List.replicate (cfg.indentWidth * level) ' '

namespace Settings

/-- A trimmed line at some level. -/
theorem cleanAt_indent (cfg : Settings) (level : Nat) (hfeed : '\n' ∉ raw.toList)
    (htext : trim raw ≠ "") : cfg.CleanAt level (cfg.indent level ++ trim raw) := by
  have hspace : ∀ c ∈ List.replicate (cfg.indentWidth * level) ' ', c = ' ' := fun c =>
    List.eq_of_mem_replicate
  have hne : (trim raw).toList ≠ [] := fun hnil => htext (String.toList_inj.mp hnil)
  constructor
  · rw [String.toList_append, toList_indent, List.mem_append]
    rintro (hc | hc)
    · exact absurd (hspace _ hc) (by decide)
    · exact hfeed (mem_of_mem_trim hc)
  -- the trimmed text is not empty and stands last
  · intro c hc
    rw [String.toList_append, List.getLast?_append_of_ne_nil _ hne] at hc
    exact isBlank_of_mem_getLast?_trim hc
  -- the white space in front ends where the trimmed text begins
  · have hstop : (trim raw).toList.takeWhile isBlank = [] := by
      cases hchars : (trim raw).toList with
      | nil => rfl
      | cons c rest =>
        have hc : isBlank c = false := isBlank_of_mem_head?_trim (by rw [hchars]; rfl)
        rw [List.takeWhile_cons_of_neg (by simp [hc])]
    have hblank : ∀ c ∈ List.replicate (cfg.indentWidth * level) ' ', isBlank c = true := by
      intro c hc
      rw [hspace c hc]
      decide
    rw [String.toList_append, toList_indent, List.takeWhile_append_of_pos hblank, hstop,
      List.append_nil]

theorem cleanAt_empty (cfg : Settings) : cfg.CleanAt 0 "" :=
  ⟨List.not_mem_nil, nofun, rfl⟩

/-- A line that trimming leaves as it is. -/
theorem cleanAt_of_trim_eq (cfg : Settings) (hfeed : '\n' ∉ line.toList) (htrim : trim line = line) :
    cfg.CleanAt 0 line := by
  by_cases hempty : line = ""
  · rw [hempty]
    exact cfg.cleanAt_empty
  · have hclean := cfg.cleanAt_indent 0 hfeed (htrim.symm ▸ hempty)
    rwa [cfg.indent_zero, String.empty_append, htrim] at hclean

theorem Valid.cleanAt_fence (hv : cfg.Valid) : cfg.CleanAt 0 cfg.fence :=
  cfg.cleanAt_of_trim_eq (feed_not_mem_of_no_blank hv.no_blank_fence) hv.trim_fence

theorem Valid.cleanAt_fenceOpen (hv : cfg.Valid) : cfg.CleanAt 0 cfg.fenceOpen :=
  cfg.cleanAt_of_trim_eq (feed_not_mem_of_no_blank hv.no_blank_fenceOpen) hv.trim_fenceOpen

end Settings

namespace Scan

/-! ## Pieces with their lines -/

/-- A piece of a document with the line of the scan on which it is emitted. -/
structure Emission where
  visit : Visit
  piece : Piece
deriving DecidableEq, Repr

/-- What a scan emits, line by line. -/
def emissions (cfg : Settings) (s : State) (lines : List String) : List Emission :=
  (visits cfg s lines).flatMap fun v => (step cfg v.state v.line).2.map (Emission.mk v)

/-- The level at which a line of code is shown. -/
def Visit.level (v : Visit) : Nat :=
  (v.state.beforeLine v.line).levelOf v.line

/-- The level of a piece: that of its line if it is a line of code with text, and else zero. -/
def Emission.level (cfg : Settings) (e : Emission) : Nat :=
  if e.visit.role cfg = .code ∧ e.piece ≠ .text "" then e.visit.level else 0

theorem map_piece_emissions (cfg : Settings) (s : State) (lines : List String) :
    (emissions cfg s lines).map (·.piece) = (run cfg s lines).2 := by
  induction lines generalizing s with
  | nil => rfl
  | cons raw rest ih =>
    have hstep : step cfg s (trim raw) = step cfg s raw := step_of_trim_eq (trim_trim raw)
    rw [emissions, visits_cons, List.flatMap_cons, List.map_append, List.map_map, run_cons,
      ← emissions, ih, hstep]
    exact congrArg (· ++ _) (List.map_id _)

/-- Each piece is emitted by the step on a line, in the state behind the lines before it. -/
theorem mem_emissions_iff {e : Emission} :
    e ∈ emissions cfg s lines ↔
      ∃ pre raw post, lines = pre ++ raw :: post ∧ e.visit = ⟨(run cfg s pre).1, trim raw⟩ ∧
        e.piece ∈ (step cfg (run cfg s pre).1 raw).2 := by
  simp only [emissions, List.mem_flatMap, List.mem_map, mem_visits_iff]
  -- the line of a visit is trimmed already, and trimming it again changes nothing
  constructor
  · rintro ⟨v, ⟨pre, raw, post, hlines, rfl⟩, p, hp, rfl⟩
    rw [step_of_trim_eq (trim_trim raw)] at hp
    exact ⟨pre, raw, post, hlines, rfl, hp⟩
  · rintro ⟨pre, raw, post, hlines, hvisit, hp⟩
    refine ⟨e.visit, ⟨pre, raw, post, hlines, hvisit⟩, e.piece, ?_, rfl⟩
    rw [hvisit, step_of_trim_eq (trim_trim raw)]
    exact hp

/-! ## One line -/

theorem Emission.level_of_not_code {e : Emission} (h : e.visit.role cfg ≠ .code) :
    e.level cfg = 0 :=
  if_neg fun hcode => h hcode.1

theorem cleanAt_prose (hv : cfg.Valid) (hfeed : '\n' ∉ raw.toList) :
    ∀ line ∈ proseLines cfg (trim raw), cfg.CleanAt 0 line := by
  intro line hline
  have htrimmed : '\n' ∉ (trim raw).toList := fun hc => hfeed (mem_of_mem_trim hc)
  cases hexample : cfg.isExample (trim raw) with
  | true =>
    -- an example comes out as a heading and an empty line
    rw [proseLines, if_pos hexample, List.mem_pair] at hline
    rcases hline with rfl | rfl
    · refine cfg.cleanAt_of_trim_eq ?_ (trim_exampleHeading hv hexample)
      rw [String.toList_append, List.mem_append, not_or]
      exact ⟨by decide, htrimmed⟩
    · exact cfg.cleanAt_empty
  | false =>
    rw [proseLines, if_neg (by simp [hexample]), List.mem_singleton] at hline
    rw [hline]
    exact cfg.cleanAt_of_trim_eq htrimmed (trim_trim raw)

/-- What a line of code emits are blanks, and the line at its level. -/
theorem cleanAt_code (hfeed : '\n' ∉ raw.toList) :
    ∀ line ∈ (codeLine cfg s (trim raw)).2,
      cfg.CleanAt (if line ≠ "" then (Visit.mk s (trim raw)).level else 0) line := by
  intro line hline
  rcases codeLine_emits cfg s (trim raw) with hnil | ⟨htext, hemit⟩
  · rw [hnil] at hline
    cases hline
  · rw [hemit, List.mem_append, List.mem_singleton] at hline
    -- what comes out are blanks that were held back, and the line itself
    rcases hline with hheld | rfl
    · rw [Blanks.eq_empty_of_mem_lines hheld]
      exact cfg.cleanAt_empty
    · rw [if_pos (indent_append_ne_empty htext _)]
      exact cfg.cleanAt_indent _ hfeed htext

/-- Every piece that a step emits is clean at its level. -/
theorem cleanAt_step (hv : cfg.Valid) (s : State) (hfeed : '\n' ∉ raw.toList) :
    ∀ p ∈ (step cfg s raw).2,
      cfg.CleanAt (Emission.level cfg ⟨⟨s, trim raw⟩, p⟩) (p.render cfg) := by
  intro p hp
  cases hr : role cfg s (trim raw) with
  | wrapper =>
    rw [step_of_wrapper hr] at hp
    cases hp
  | skipped =>
    rw [step_of_skipped hr] at hp
    cases hp
  | closer =>
    rw [Emission.level_of_not_code (by simp [Visit.role, hr])]
    rw [step_of_closer hr, List.mem_pair] at hp
    rcases hp with rfl | rfl
    · exact cfg.cleanAt_empty
    · exact hv.cleanAt_fenceOpen
  | prose =>
    rw [Emission.level_of_not_code (by simp [Visit.role, hr])]
    rw [step_of_prose hr] at hp
    obtain ⟨line, hline, rfl⟩ := List.mem_map.mp hp
    exact cleanAt_prose hv hfeed line hline
  | opener =>
    rw [Emission.level_of_not_code (by simp [Visit.role, hr])]
    rw [step_of_opener hr] at hp
    dsimp only at hp
    split at hp
    · cases hp
    · rcases List.mem_pair.mp hp with rfl | rfl
      · exact hv.cleanAt_fence
      · exact cfg.cleanAt_empty
  | code =>
    rw [step_of_code hr] at hp
    obtain ⟨line, hline, rfl⟩ := List.mem_map.mp hp
    have hclean := cleanAt_code hfeed line hline
    -- blanks that were held back come out with the line, at level zero
    have hlevel : Emission.level cfg ⟨⟨s, trim raw⟩, .text line⟩ =
        if line ≠ "" then (Visit.mk s (trim raw)).level else 0 := by
      simp [Emission.level, Visit.role, hr]
    rw [hlevel]
    exact hclean

/-- Every piece that a scan emits is clean at its level, whatever the state in which it begins. -/
theorem cleanAt_emission (hv : cfg.Valid) (s : State) (hfeed : ∀ raw ∈ lines, '\n' ∉ raw.toList) :
    ∀ e ∈ emissions cfg s lines, cfg.CleanAt (e.level cfg) (e.piece.render cfg) := by
  rintro ⟨v, p⟩ he
  obtain ⟨pre, raw, post, rfl, hvisit, hp⟩ := mem_emissions_iff.mp he
  dsimp only at hvisit hp ⊢
  rw [hvisit]
  exact cleanAt_step hv _ (hfeed raw (by simp)) p hp

theorem cleanAt_finish (hv : cfg.Valid) (s : State) :
    ∀ p ∈ finish s, cfg.CleanAt 0 (p.render cfg) := by
  intro p hp
  rw [finish] at hp
  split at hp
  · rcases List.mem_pair.mp hp with rfl | rfl
    · exact hv.cleanAt_fence
    · exact cfg.cleanAt_empty
  · cases hp

/-! ## The first two lines -/

/-- Where no clause is open, a line stands at the depth that is left when the block that it ends has
    been ended. -/
theorem levelOf_beforeLine (hlevels : s.clauseLevels = 0) (line : String) :
    (s.beforeLine line).levelOf line =
      if closesBlock line && !s.inSwitch then s.depth - 1 else s.depth := by
  simp only [State.levelOf, State.beforeLine, hlevels]
  -- a label may open a clause, but its own level does not count it
  cases isLabel line <;> simp

/-- Outside switches no line opens a clause. -/
theorem clauseLevels_step (hswitch : s.inSwitch = false) (hlevels : s.clauseLevels = 0)
    (raw : String) : (step cfg s raw).1.clauseLevels = 0 := by
  cases hr : role cfg s (trim raw) with
  | wrapper => rw [step_of_wrapper hr]; exact hlevels
  | skipped => rw [step_of_skipped hr]; exact hlevels
  | closer => rw [step_of_closer hr]; exact hlevels
  | prose => rw [step_of_prose hr]; exact hlevels
  | opener => rw [step_of_opener hr]; exact hlevels
  | code =>
    rw [step_of_code hr]
    cases he : elision? { s.next with skipping := false } (trim raw) with
    | some e =>
      cases e with
      | opener => rw [codeLine_opener he]; exact hlevels
      | closer => rw [codeLine_closer he]; exact hlevels
    | none =>
      -- outside a switch neither labels nor braces touch the levels
      obtain ⟨blanks, hstate⟩ := codeLine_of_elision_none cfg he
      rw [hstate]
      simp only [State.afterLine, State.beforeLine, State.next, hswitch, hlevels]
      rfl

/-- At depth zero there is no block for a line to end. -/
theorem depth_step_of_zero (hdepth : s.depth = 0) (raw : String) :
    (step cfg s raw).1.depth = if (Visit.mk s (trim raw)).beginsBlock cfg then 1 else 0 := by
  -- at depth zero a closing brace has no block to end
  have hends : (Visit.mk s (trim raw)).endsBlock cfg = false := by
    rw [← Bool.not_eq_true]
    intro h
    simp only [Visit.endsBlock, Bool.and_eq_true, Option.isNone_iff_eq_none, Bool.not_eq_true'] at h
    obtain ⟨⟨-, hshown⟩, hcloses, hswitch⟩ := h
    exact absurd hdepth (depth_pos_of_shown hshown hcloses hswitch).ne'
  have hstep := depth_step_eq cfg s raw
  rw [hends, if_neg Bool.false_ne_true, Nat.add_zero, hdepth, Nat.zero_add] at hstep
  rw [hstep]
  split
  · next hcloser => simp [Visit.beginsBlock, Visit.role, hcloser]
  · rfl

/-- A piece is emitted on the line that the state of its visit counts as the next one. -/
theorem visit_eq_of_mem_emissions {opening : Opening} {e : Emission}
    (he : e ∈ emissions cfg opening.start lines) :
    e.visit.state = (run cfg opening.start (lines.take e.visit.state.index)).1 ∧
      lines[e.visit.state.index]?.map trim = some e.visit.line := by
  obtain ⟨pre, raw, post, rfl, hvisit, -⟩ := mem_emissions_iff.mp he
  -- the scan counts its lines, so what stands before the line is as long as the index says
  have hindex : e.visit.state.index = pre.length := by
    rw [hvisit, run_index]
    exact Nat.zero_add _
  rw [hindex, List.take_left, List.getElem?_append_right (Nat.le_refl _), Nat.sub_self, hvisit]
  exact ⟨rfl, rfl⟩

/-- What comes out on the first line has no margin. -/
theorem level_first {opening : Opening} {e : Emission}
    (he : e ∈ emissions cfg opening.start lines) (hindex : e.visit.state.index = 0) :
    e.level cfg = 0 := by
  obtain ⟨hstate, -⟩ := visit_eq_of_mem_emissions he
  rw [hindex, List.take_zero, run_nil] at hstate
  have hlevel : e.visit.level = 0 := by
    rw [Visit.level, hstate, levelOf_beforeLine rfl]
    split <;> rfl
  rw [Emission.level, hlevel, ite_self]

/-- A heading that is scanned as code stands in the block that the first line begins, if any. -/
theorem level_title {first title : String} {rest : List String} {opening : Opening} {e : Emission}
    (he : e ∈ emissions cfg opening.start (first :: ("### " ++ title) :: rest))
    (hindex : e.visit.state.index = 1) :
    e.visit.level = if (Visit.mk opening.start (trim first)).beginsBlock cfg then 1 else 0 := by
  obtain ⟨hstate, hline⟩ := visit_eq_of_mem_emissions he
  rw [hindex] at hstate hline
  have hbehind : e.visit.state = (step cfg opening.start first).1 := hstate
  have hheading : e.visit.line = trim ("### " ++ title) := (Option.some.inj hline).symm
  have hlevels : (step cfg opening.start first).1.clauseLevels = 0 := clauseLevels_step rfl rfl first
  rw [Visit.level, hbehind, hheading, levelOf_beforeLine hlevels, closesBlock_heading,
    Bool.false_and, if_neg Bool.false_ne_true, depth_step_of_zero rfl]

end Scan

/-! ## Documents -/

/-- Priming brings no line feed into the lines. -/
theorem feed_not_mem_of_mem_primed (hv : cfg.Valid) {opening : Opening} {primed : List String}
    (h : primeHeader cfg lines = .ok (opening, primed))
    (hfeed : ∀ raw ∈ lines, '\n' ∉ raw.toList) : ∀ raw ∈ primed, '\n' ∉ raw.toList := by
  obtain ⟨first, second, rest, rfl, ⟨-, -, rfl⟩ | ⟨-, -, rfl⟩⟩ := primeHeader_cases h
  · rw [List.forall_mem_cons] at hfeed ⊢
    exact ⟨hv.cleanAt_fenceOpen.no_feed, hfeed.2⟩
  · rw [List.forall_mem_cons, List.forall_mem_cons] at hfeed ⊢
    obtain ⟨hfirst, hsecond, hrest⟩ := hfeed
    refine ⟨hfirst, ?_, hrest⟩
    rw [String.toList_append, List.mem_append, not_or]
    exact ⟨by decide, mt mem_of_mem_trim hsecond⟩

/-- What a source is converted to is the text of the document of its primed lines. -/
theorem primed_of_convertText {source text : String} (h : convertText cfg source = .ok text) :
    ∃ opening primed, primeHeader cfg (Text.lines source) = .ok (opening, primed) ∧
      text = unlines ((weave cfg opening primed).map (Piece.render cfg)) := by
  rw [convertText_eq] at h
  cases hprimed : primeHeader cfg (Text.lines source) with
  | error e =>
    rw [convert, hprimed] at h
    cases h
  | ok p =>
    rw [convert_of_primed hprimed] at h
    cases h
    exact ⟨p.1, p.2, rfl, rfl⟩

/-- Every source that has a document has one whose lines are clean, so that they are the lines of
    its text.  They are the pieces that the scan emits on its lines, and the end of the document.
    Each stands at its level, which is zero for all but lines of code, and zero on the first line.
    A heading that is made of the second line and scanned as code stands one level deep if the first
    line begins a block, and else at level zero. -/
theorem document_clean (hv : cfg.Valid) {source text : String}
    (h : convertText cfg source = .ok text) :
    ∃ opening first rest document,
      primeHeader cfg (Text.lines source) = .ok (opening, first :: rest) ∧
      convert cfg (Text.lines source) = .ok document ∧
      document.lines =
        (emissions cfg opening.start (first :: rest)).map (·.piece.render cfg) ++
          (finish (run cfg opening.start (first :: rest)).1).map (Piece.render cfg) ∧
      (∀ e ∈ emissions cfg opening.start (first :: rest),
        cfg.CleanAt (e.level cfg) (e.piece.render cfg) ∧
        (e.visit.role cfg ≠ .code → e.level cfg = 0) ∧
        (e.visit.state.index = 0 → e.level cfg = 0) ∧
        (opening = .comment → e.visit.state.index = 1 → e.visit.role cfg = .code →
          e.piece ≠ .text "" →
          e.level cfg =
            if (Visit.mk opening.start (trim first)).beginsBlock cfg then 1 else 0)) ∧
      (∀ p ∈ finish (run cfg opening.start (first :: rest)).1, cfg.CleanAt 0 (p.render cfg)) ∧
      Text.lines text = document.lines := by
  obtain ⟨opening, primed, hprimed, rfl⟩ := primed_of_convertText h
  -- priming leaves two lines at least, of which the second may be the heading
  have hlines : ∃ first second rest, primed = first :: second :: rest ∧
      (opening = .comment → ∃ title, second = "### " ++ title) := by
    obtain ⟨first, second, rest, -, ⟨-, rfl, rfl⟩ | ⟨-, rfl, rfl⟩⟩ := primeHeader_cases hprimed
    · exact ⟨_, _, _, rfl, nofun⟩
    · exact ⟨_, _, _, rfl, fun _ => ⟨_, rfl⟩⟩
  obtain ⟨first, second, rest, rfl, htitle⟩ := hlines
  have hfeed : ∀ raw ∈ first :: second :: rest, '\n' ∉ raw.toList :=
    feed_not_mem_of_mem_primed hv hprimed fun _ => feed_not_mem_of_mem_lines
  have hemission := cleanAt_emission hv opening.start hfeed
  have hfinish := cleanAt_finish hv (run cfg opening.start (first :: second :: rest)).1
  -- the document is what is emitted on the way and what ends it
  have hdocument : (weave cfg opening (first :: second :: rest)).map (Piece.render cfg) =
      (emissions cfg opening.start (first :: second :: rest)).map (·.piece.render cfg) ++
        (finish (run cfg opening.start (first :: second :: rest)).1).map (Piece.render cfg) := by
    rw [weave_eq, piecesFrom, ← map_piece_emissions, List.map_append, List.map_map]
    rfl
  refine ⟨opening, first, second :: rest, _, hprimed, convert_of_primed hprimed, hdocument, ?_,
    hfinish, ?_⟩
  · intro e he
    refine ⟨hemission e he, Emission.level_of_not_code, level_first he, ?_⟩
    intro hopening hindex hcode htext
    obtain ⟨title, rfl⟩ := htitle hopening
    rw [Emission.level, if_pos ⟨hcode, htext⟩]
    exact level_title he hindex
  -- no line holds a feed or ends in a return, so writing and reading them gives them back
  · have hclean : ∀ line ∈ (weave cfg opening (first :: second :: rest)).map (Piece.render cfg),
        ∃ level, cfg.CleanAt level line := by
      intro line hline
      rw [hdocument, List.mem_append, List.mem_map, List.mem_map] at hline
      rcases hline with ⟨e, he, rfl⟩ | ⟨p, hp, rfl⟩
      · exact ⟨_, hemission e he⟩
      · exact ⟨0, hfinish p hp⟩
    refine lines_unlines (fun line hline => ?_) fun line hline hreturn => ?_
    · obtain ⟨level, hline⟩ := hclean line hline
      exact hline.no_feed
    -- a carriage return is white space
    · obtain ⟨level, hline⟩ := hclean line hline
      exact absurd (hline.no_trailing _ hreturn) (by decide)

/-- A title of white space, and code with carriage returns, tabs and a no-break space. -/
theorem document_clean_of_returns :
    Settings.Valid {} ∧
      convertText {} "/*\r\n \r\n*/\n\tif (x) \x7b\r\n  y\rz;\u00a0\n\x7d" =
        .ok "###\n\n```\nif (x) \x7b\n    y\rz;\n\x7d\n```\n\n" ∧
      Text.lines "###\n\n```\nif (x) \x7b\n    y\rz;\n\x7d\n```\n\n" =
        ["###", "", "```", "if (x) \x7b", "    y\rz;", "\x7d", "```", ""] := by
  have hv : Settings.Valid {} := Settings.valid_default
  have hconvert :
      convert {} (Text.lines "/*\r\n \r\n*/\n\tif (x) \x7b\r\n  y\rz;\u00a0\n\x7d") =
        .ok ⟨["###", "", "```", "if (x) \x7b", "    y\rz;", "\x7d", "```", ""]⟩ := by
    decide +kernel
  have htext : convertText {} "/*\r\n \r\n*/\n\tif (x) \x7b\r\n  y\rz;\u00a0\n\x7d" =
      .ok "###\n\n```\nif (x) \x7b\n    y\rz;\n\x7d\n```\n\n" := by
    rw [convertText_eq, hconvert]
    rfl
  obtain ⟨opening, first, rest, document, -, hdocument, -, -, -, hlines⟩ := document_clean hv htext
  obtain rfl := Except.ok.inj (hdocument.symm.trans hconvert)
  exact ⟨hv, htext, hlines⟩

/-- A heading does not stand at the margin if it is made of a line of code behind one that begins a
    block. -/
theorem heading_indented :
    Settings.Valid {} ∧
      primeHeader {} (Text.lines "a \x7b\nT\n") = .ok (.comment, ["a \x7b", "### T"]) ∧
      convert {} (Text.lines "a \x7b\nT\n") = .ok ⟨["a \x7b", "    ### T"]⟩ ∧
      convertText {} "a \x7b\nT\n" = .ok "a \x7b\n    ### T\n" ∧
      ("    ### T".toList.takeWhile isBlank).length = 4 := by
  have hconvert :
      convert {} (Text.lines "a \x7b\nT\n") = .ok ⟨["a \x7b", "    ### T"]⟩ := by
    decide +kernel
  refine ⟨rfl, by decide +kernel, hconvert, ?_, by decide +kernel⟩
  rw [convertText_eq, hconvert]
  rfl

end SourceWeaver
