/-
  Where the lines of a document come from.

  Every line of a document that is neither a fence nor empty comes from a line of its source, after
  priming: it is that line without the white space around it, behind some indentation or as a
  heading (`Piece.ComesFrom`).  A step emits nothing else (`comesFrom_step`); the blanks that are
  held back are empty, so this does not depend on the state (`comesFrom_run`).

  A line that is left out with the entry-point wrapper is the origin of none.  So where the wrapper is
  left out, neither of its two texts is a line of the document (`wrapper_absent`).
-/

import SourceWeaver.Proofs.Document.Priming
import SourceWeaver.Proofs.Scan.Accounting

namespace SourceWeaver.Scan

open Text

variable {cfg : Settings} {s : State} {p : Piece} {raw : String} {lines : List String}

/-! ## Origins -/

/-- What a piece of a document is to the lines of the source. -/
inductive Piece.ComesFrom (cfg : Settings) (lines : List String) : Piece → Prop
  | opening : ComesFrom cfg lines .opening
  | closing : ComesFrom cfg lines .closing
  | blank : ComesFrom cfg lines (.text "")
  /-- A line of prose that becomes a heading. -/
  | heading {raw : String} (hraw : raw ∈ lines) (hkept : cfg.elides (trim raw) = false)
      (hexample : cfg.isExample (trim raw) = true) : ComesFrom cfg lines (.text ("#### " ++ trim raw))
  /-- A line of prose, or of code at some level. -/
  | line {raw : String} (level : Nat) (hraw : raw ∈ lines) (hkept : cfg.elides (trim raw) = false) :
      ComesFrom cfg lines (.text (cfg.indentLine level (trim raw)))

theorem Piece.ComesFrom.mono {more : List String} (h : p.ComesFrom cfg lines)
    (hsub : lines ⊆ more) : p.ComesFrom cfg more := by
  cases h with
  | opening => exact .opening
  | closing => exact .closing
  | blank => exact .blank
  | heading hraw hkept hexample => exact .heading (hsub hraw) hkept hexample
  | line level hraw hkept => exact .line level (hsub hraw) hkept

/-! ## One line -/

theorem comesFrom_prose (hkept : cfg.elides (trim raw) = false) :
    ∀ p ∈ (proseLines cfg (trim raw)).map .text, Piece.ComesFrom cfg [raw] p := by
  intro p hp
  have hraw : raw ∈ [raw] := List.mem_singleton_self raw
  cases hexample : cfg.isExample (trim raw) with
  | true =>
    rw [proseLines, if_pos hexample, List.map_cons, List.map_singleton, List.mem_pair] at hp
    rcases hp with rfl | rfl
    · exact .heading hraw hkept hexample
    · exact .blank
  | false =>
    -- a line of prose is a line at level zero
    have hline : cfg.indentLine 0 (trim raw) = trim raw := by
      by_cases hempty : trim raw = ""
      · rw [hempty, Settings.indentLine_empty]
      · rw [Settings.indentLine_of_ne_empty hempty, cfg.indent_zero, String.empty_append]
    rw [proseLines, if_neg (by simp [hexample]), List.map_singleton, List.mem_singleton] at hp
    rw [hp, ← hline]
    exact .line 0 hraw hkept

theorem comesFrom_code (cfg : Settings) (s : State) (hkept : cfg.elides (trim raw) = false) :
    ∀ p ∈ (codeLine cfg s (trim raw)).2.map .text, Piece.ComesFrom cfg [raw] p := by
  intro p hp
  obtain ⟨line, hline, rfl⟩ := List.mem_map.mp hp
  rcases codeLine_emits cfg s (trim raw) with hnil | ⟨htext, hemit⟩
  · rw [hnil] at hline
    cases hline
  · rw [hemit, List.mem_append, List.mem_singleton] at hline
    -- blanks that were held back, then the line at its level
    rcases hline with hheld | rfl
    · rw [Blanks.eq_empty_of_mem_lines hheld]
      exact .blank
    · rw [← Settings.indentLine_of_ne_empty htext]
      exact .line _ (List.mem_singleton_self raw) hkept

/-- What a step emits comes from its line. -/
theorem comesFrom_step (cfg : Settings) (s : State) (raw : String) :
    ∀ p ∈ (step cfg s raw).2, Piece.ComesFrom cfg [raw] p := by
  cases hr : role cfg s (trim raw) with
  | wrapper =>
    rw [step_of_wrapper hr]
    simp
  | skipped =>
    rw [step_of_skipped hr]
    simp
  | closer =>
    intro p hp
    rw [step_of_closer hr, List.mem_pair] at hp
    rcases hp with rfl | rfl
    · exact .blank
    · exact .opening
  | prose =>
    obtain ⟨hkept, -⟩ := role_eq_prose_iff.mp hr
    rw [step_of_prose hr]
    exact comesFrom_prose hkept
  | opener =>
    intro p hp
    rw [step_of_opener hr] at hp
    dsimp only at hp
    split at hp
    · cases hp
    · rcases List.mem_pair.mp hp with rfl | rfl
      · exact .closing
      · exact .blank
  | code =>
    obtain ⟨hkept, -⟩ := role_eq_code_iff.mp hr
    rw [step_of_code hr]
    exact comesFrom_code cfg _ hkept

/-! ## Documents -/

/-- What a scan emits comes from its lines, whatever the state in which it begins. -/
theorem comesFrom_run (cfg : Settings) (s : State) (lines : List String) :
    ∀ p ∈ (run cfg s lines).2, Piece.ComesFrom cfg lines p := by
  induction lines generalizing s with
  | nil => simp [run_nil]
  | cons raw rest ih =>
    intro p hp
    rw [run_cons, List.mem_append] at hp
    rcases hp with hp | hp
    · exact (comesFrom_step cfg s raw p hp).mono (by simp)
    · exact (ih _ p hp).mono (List.subset_cons_self raw rest)

theorem comesFrom_weave (cfg : Settings) (opening : Opening) (primed : List String) :
    ∀ p ∈ weave cfg opening primed, Piece.ComesFrom cfg primed p := by
  intro p hp
  rw [weave_eq, piecesFrom, List.mem_append] at hp
  rcases hp with hp | hp
  · exact comesFrom_run cfg opening.start primed p hp
  · rw [finish] at hp
    split at hp
    · rcases List.mem_pair.mp hp with rfl | rfl
      · exact .closing
      · exact .blank
    · cases hp

/-! ## The entry-point wrapper -/

/-- An example is not blank, and trimming leaves its heading as it is. -/
theorem trim_exampleHeading (hv : cfg.Valid) (hexample : cfg.isExample (trim raw) = true) :
    trim ("#### " ++ trim raw) = "#### " ++ trim raw := by
  have hword : cfg.exampleWord ≠ "" := hv.marker_ne_empty .exampleWord
  have htext : trim raw ≠ "" := by
    intro hempty
    rw [Settings.isExample, startsWith, hempty, List.isPrefixOf_iff_prefix] at hexample
    exact hword (String.toList_inj.mp (List.prefix_nil.mp hexample))
  exact trim_append_trim (c := '#') (by decide) (by decide) htext

/-- Where the wrapper is left out, what comes from a source is none of its texts, unless the text is
    a fence or the heading of an example. -/
theorem Piece.ComesFrom.trim_render_ne (h : p.ComesFrom cfg lines) (hv : cfg.Valid)
    (hleft : cfg.keepEntryPoint = false) {text : String} (htext : cfg.isEntryPoint text = true)
    (hfences : text ≠ cfg.fenceOpen ∧ text ≠ cfg.fence)
    (hheading : startsWith text "#### " = false) : trim (p.render cfg) ≠ text := by
  cases h with
  | opening =>
    -- the fences are kept apart by the hypotheses, the other lines by what they come from
    show trim cfg.fenceOpen ≠ text
    rw [hv.trim_fenceOpen]
    exact hfences.1.symm
  | closing =>
    show trim cfg.fence ≠ text
    rw [hv.trim_fence]
    exact hfences.2.symm
  | blank =>
    have hempty : trim "" = "" := by decide
    rintro rfl
    rw [show Piece.render cfg (.text "") = "" from rfl, hempty, hv.not_isEntryPoint_empty] at htext
    cases htext
  | @heading raw _ _ hexample =>
    have hstarts : startsWith ("#### " ++ trim raw) "#### " = true := by
      rw [startsWith, List.isPrefixOf_iff_prefix, String.toList_append]
      exact List.prefix_append _ _
    show trim ("#### " ++ trim raw) ≠ text
    -- trimming leaves the number signs at the beginning of the heading
    rw [trim_exampleHeading hv hexample]
    rintro rfl
    exact absurd (hstarts.symm.trans hheading) (by decide)
  | @line raw level _ hkept =>
    show trim (cfg.indentLine level (trim raw)) ≠ text
    rw [cfg.trim_indentLine]
    rintro rfl
    -- a line with this text is one that is left out
    rw [Settings.elides, hleft, htext] at hkept
    cases hkept

/-- Every source of at least two lines has a document; and where the entry-point wrapper is left
    out, and its texts are neither fences nor begin as the headings of examples do, no line of the
    document is one of them, whatever the white space around it. -/
theorem wrapper_absent (hv : cfg.Valid) (hleft : cfg.keepEntryPoint = false)
    (htexts : ∀ text ∈ [cfg.entryOpen, cfg.entryClose],
      (text ≠ cfg.fenceOpen ∧ text ≠ cfg.fence) ∧ startsWith text "#### " = false)
    (hlen : 2 ≤ lines.length) :
    ∃ document, convert cfg lines = .ok document ∧
      ∀ line ∈ document.lines, trim line ≠ cfg.entryOpen ∧ trim line ≠ cfg.entryClose := by
  obtain ⟨opening, first, rest, hprimed, -⟩ := exists_primed cfg hlen
  refine ⟨_, convert_of_primed hprimed, ?_⟩
  intro line hline
  obtain ⟨p, hp, rfl⟩ := List.mem_map.mp hline
  have horigin := comesFrom_weave cfg opening (first :: rest) p hp
  obtain ⟨hopenFences, hopenHeading⟩ := htexts cfg.entryOpen (by simp)
  obtain ⟨hcloseFences, hcloseHeading⟩ := htexts cfg.entryClose (by simp)
  refine ⟨?_, ?_⟩
  · have hentry : cfg.isEntryPoint cfg.entryOpen = true := by simp [Settings.isEntryPoint]
    exact horigin.trim_render_ne hv hleft hentry hopenFences hopenHeading
  · have hentry : cfg.isEntryPoint cfg.entryClose = true := by simp [Settings.isEntryPoint]
    exact horigin.trim_render_ne hv hleft hentry hcloseFences hcloseHeading

/-- The wrapper in front of a comment, in its prose, and around and within a switch. -/
theorem wrapper_absent_of_switch :
    Settings.Valid {} ∧
      (∀ text ∈ [Settings.entryOpen {}, Settings.entryClose {}],
        (text ≠ Settings.fenceOpen {} ∧ text ≠ Settings.fence {}) ∧
          startsWith text "#### " = false) ∧
      2 ≤ ["int main(void) \x7b", "  return 0;", "/*", "return 0; ", "*/", " int main(void) \x7b",
        "switch (x) \x7b", "case 1:", "return 0;", "return 1;", "\x7d", "return 0;"].length ∧
      ∃ document,
        convert {} ["int main(void) \x7b", "  return 0;", "/*", "return 0; ", "*/",
          " int main(void) \x7b", "switch (x) \x7b", "case 1:", "return 0;", "return 1;", "\x7d",
          "return 0;"] = .ok document ∧
        ∀ line ∈ document.lines, trim line ≠ "int main(void) \x7b" ∧ trim line ≠ "return 0;" := by
  have hv : Settings.Valid {} := Settings.valid_default
  have htexts : ∀ text ∈ [Settings.entryOpen {}, Settings.entryClose {}],
      (text ≠ Settings.fenceOpen {} ∧ text ≠ Settings.fence {}) ∧
        startsWith text "#### " = false := by decide +kernel
  have hlen : 2 ≤ ["int main(void) \x7b", "  return 0;", "/*", "return 0; ", "*/",
      " int main(void) \x7b", "switch (x) \x7b", "case 1:", "return 0;", "return 1;", "\x7d",
      "return 0;"].length := by decide
  exact ⟨hv, htexts, hlen, wrapper_absent hv rfl htexts hlen⟩

end SourceWeaver.Scan
