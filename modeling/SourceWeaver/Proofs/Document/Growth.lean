/-
  Documents grow at their ends, line by line.

  `grow` is the scan as a loop over a document: what a line emits is added at the end, and what
  stands there already stays (`lines_prefix_grow`).  Adding the pieces of one line after the other
  comes to the same as adding them all (`grow_eq`), so a conversion is this loop with the end of
  the document behind it (`convert_eq_grow`).

  Two bounds follow from what one step does.  A line adds two lines at most, if the blanks that are
  held back count as added (`length_step_le`), so a document has at most two lines for each line of
  its source, and two for its end (`exists_document_size_le`).  And behind the first line a block
  that is open is closed some time, and a line of a comment or a heading comes out, so a document is
  not empty unless the second line is left out with the entry-point wrapper
  (`exists_document_not_isEmpty`).
-/

import SourceWeaver.Proofs.Document.Priming
import SourceWeaver.Proofs.Scan.Accounting

namespace SourceWeaver

open Text Scan

variable {cfg : Settings} {s : State} {d : Document} {raw : String} {lines : List String}

/-! ## The loop -/

/-- The state and the document behind some lines, each of which adds what it emits. -/
def grow (cfg : Settings) (s : State) (d : Document) : List String → State × Document
  | [] => (s, d)
  | raw :: rest =>
    let (next, out) := step cfg s raw
    grow cfg next (d.extend (out.map (Piece.render cfg))) rest

/-- The document at the end of a scan: a code block that is still open is closed. -/
def Document.close (cfg : Settings) (s : State) (d : Document) : Document :=
  if s.blockOpen then (d.push cfg.fence).push "" else d

theorem grow_cons (rest : List String) :
    grow cfg s d (raw :: rest) =
      grow cfg (step cfg s raw).1 (d.extend ((step cfg s raw).2.map (Piece.render cfg))) rest :=
  rfl

/-- Growing a document bit by bit adds what the whole scan emits. -/
theorem grow_eq (cfg : Settings) (s : State) (d : Document) (lines : List String) :
    grow cfg s d lines =
      ((run cfg s lines).1, d.extend ((run cfg s lines).2.map (Piece.render cfg))) := by
  induction lines generalizing s d with
  | nil =>
    show (s, d) = (s, d.extend [])
    rw [Document.extend, List.append_nil]
  | cons raw rest ih =>
    rw [grow_cons, ih, Document.extend_extend, run_cons, List.map_append]

theorem close_eq (cfg : Settings) (s : State) (d : Document) :
    d.close cfg s = d.extend ((finish s).map (Piece.render cfg)) := by
  unfold Document.close finish
  split
  -- the fence and the blank line are pushed one by one
  · simp [Document.push, Document.extend, Piece.render]
  · simp [Document.extend]

/-- A conversion grows a document from nothing and closes it. -/
theorem convert_eq_grow (cfg : Settings) (lines : List String) :
    convert cfg lines = (primeHeader cfg lines).map fun (opening, primed) =>
      let (last, d) := grow cfg opening.start {} primed
      d.close cfg last := by
  cases hprimed : primeHeader cfg lines with
  | error e => simp [convert, hprimed, Except.map, bind, Except.bind]
  | ok primed =>
    obtain ⟨opening, primed⟩ := primed
    rw [convert_of_primed hprimed]
    show _ = Except.ok ((grow cfg opening.start {} primed).2.close cfg
      (grow cfg opening.start {} primed).1)
    rw [close_eq, grow_eq, Document.extend_extend, ← List.map_append]
    rfl

/-- Growing a document leaves the lines that it has. -/
theorem lines_prefix_grow (cfg : Settings) (s : State) (d : Document) (lines : List String) :
    d.lines <+: (grow cfg s d lines).2.lines := by
  rw [grow_eq, Document.lines_extend]
  exact List.prefix_append _ _

/-! ## The size of a document -/

/-- A line of code adds one line at most, if the blanks that are held back count as added. -/
theorem length_codeLine_le (cfg : Settings) (s : State) (line : String) :
    (codeLine cfg s line).2.length + (codeLine cfg s line).1.blanks.held ≤ s.blanks.held + 1 := by
  have h := congrArg List.length (codeLine_accounted cfg s line)
  rw [List.length_append, List.length_append, Blanks.length_lines, Blanks.length_lines] at h
  rw [h]
  split <;> simp

/-- A line adds two lines at most, if the blanks that are held back count as added. -/
theorem length_step_le (cfg : Settings) (s : State) (raw : String) :
    (step cfg s raw).2.length + (step cfg s raw).1.blanks.held ≤ s.blanks.held + 2 := by
  cases hr : role cfg s (trim raw) with
  | wrapper => rw [step_of_wrapper hr]; simp [State.next]
  | skipped => rw [step_of_skipped hr]; simp [State.next]
  | closer =>
    -- the blanks that were held back are forgotten
    rw [step_of_closer hr]
    simp [State.closeComment, Blanks.clear]
  | prose =>
    -- an example is a heading with a blank line below it
    rw [step_of_prose hr, List.length_map, proseLines]
    split <;> simp [State.next, Nat.add_comm]
  | opener =>
    rw [step_of_opener hr]
    split <;> simp [State.openComment, State.next, Nat.add_comm]
  | code =>
    have hcode := length_codeLine_le cfg { s.next with skipping := false } (trim raw)
    rw [step_of_code hr, List.length_map]
    exact hcode.trans (Nat.le_succ _)

theorem length_run_le (cfg : Settings) (s : State) (lines : List String) :
    (run cfg s lines).2.length + (run cfg s lines).1.blanks.held
      ≤ s.blanks.held + 2 * lines.length := by
  induction lines using List.reverseRecOn with
  | nil => simp [run_nil]
  | append_singleton lines raw ih =>
    have hstep := length_step_le cfg (run cfg s lines).1 raw
    rw [run_concat, List.length_append, List.length_append, List.length_singleton]
    dsimp only
    omega

/-- Closing a document adds two lines at most. -/
theorem size_close_le (cfg : Settings) (s : State) (d : Document) :
    (d.close cfg s).size ≤ d.size + 2 := by
  unfold Document.close
  split
  · rw [Document.size_push, Document.size_push]
  · exact Nat.le_add_right _ _

theorem length_primed {opening : Opening} {primed : List String}
    (h : primeHeader cfg lines = .ok (opening, primed)) : primed.length = lines.length := by
  obtain ⟨first, second, rest, rfl, ⟨-, -, rfl⟩ | ⟨-, -, rfl⟩⟩ := primeHeader_cases h <;> rfl

/-- Every source of at least two lines has a document, which has at most two lines for each line of
    the source and two for its end. -/
theorem exists_document_size_le (cfg : Settings) (hlen : 2 ≤ lines.length) :
    ∃ document, convert cfg lines = .ok document ∧ document.size ≤ 2 * lines.length + 2 := by
  obtain ⟨opening, first, rest, hprimed, -⟩ := exists_primed cfg hlen
  refine ⟨_, by rw [convert_eq_grow, hprimed]; rfl, ?_⟩
  have hclose := size_close_le cfg (grow cfg opening.start {} (first :: rest)).1
    (grow cfg opening.start {} (first :: rest)).2
  refine hclose.trans (Nat.add_le_add_right ?_ 2)
  -- nothing is there and nothing is held back where the scan starts
  have hrun := length_run_le cfg opening.start (first :: rest)
  have hstart : opening.start.blanks.held = 0 := rfl
  have hempty : ({} : Document).size = 0 := rfl
  rw [grow_eq, Document.size_extend, List.length_map, hempty, ← length_primed hprimed]
  omega

/-! ## Documents with lines -/

/-- Behind the first line, an open block stays open, or something comes out. -/
theorem step_of_blockOpen (cfg : Settings) (raw : String) (hopen : s.blockOpen = true)
    (hindex : 0 < s.index) :
    (step cfg s raw).2 ≠ [] ∨ (step cfg s raw).1.blockOpen = true := by
  cases hr : role cfg s (trim raw) with
  | wrapper => rw [step_of_wrapper hr]; exact .inr hopen
  | skipped => rw [step_of_skipped hr]; exact .inr hopen
  | closer => rw [step_of_closer hr]; exact .inr rfl
  | prose => rw [step_of_prose hr]; exact .inr hopen
  | opener =>
    rw [step_of_opener hr, if_neg (by omega)]
    exact .inl (List.cons_ne_nil _ _)
  | code =>
    rw [step_of_code hr]
    exact .inr (codeLine_blockOpen.trans hopen)

/-- A block that is open behind the first line is closed some time. -/
theorem piecesFrom_ne_nil_of_blockOpen (hopen : s.blockOpen = true) (hindex : 0 < s.index)
    (lines : List String) : piecesFrom cfg s lines ≠ [] := by
  induction lines generalizing s with
  | nil =>
    rw [piecesFrom_nil, finish, if_pos hopen]
    exact List.cons_ne_nil _ _
  | cons raw rest ih =>
    rw [piecesFrom_cons]
    rcases step_of_blockOpen cfg raw hopen hindex with hout | hnext
    · exact List.append_ne_nil_of_left_ne_nil hout _
    · have hpos : 0 < (step cfg s raw).1.index := by
        rw [step_index]
        omega
      exact List.append_ne_nil_of_right_ne_nil _ (ih hnext hpos)

/-- A line of a comment comes out, or ends the comment. -/
theorem step_ne_nil_of_inComment (hin : s.inComment = true) (hskip : s.skipping = false)
    (hkept : cfg.elides (trim raw) = false) : (step cfg s raw).2 ≠ [] := by
  have hpads : (s.skipping && cfg.pads (trim raw)) = false := by
    rw [hskip, Bool.false_and]
  by_cases hcloses : cfg.closesComment (trim raw) = true
  · rw [step_of_closer (role_eq_closer_iff.mpr ⟨hkept, hpads, hcloses⟩)]
    exact List.cons_ne_nil _ _
  · have hr := role_eq_prose_iff.mpr ⟨hkept, hpads, Bool.eq_false_iff.mpr hcloses, hin⟩
    rw [step_of_prose hr, proseLines]
    split <;> exact List.cons_ne_nil _ _

/-- A heading behind the first line comes out, whatever it is scanned as. -/
theorem step_heading_ne_nil {title : String} (hindex : 0 < s.index) (hskip : s.skipping = false)
    (hkept : cfg.elides (trim ("### " ++ title)) = false) :
    (step cfg s ("### " ++ title)).2 ≠ [] := by
  cases hr : role cfg s (trim ("### " ++ title)) with
  | wrapper => exact absurd ((role_eq_wrapper_iff.mp hr).symm.trans hkept) (by decide)
  | skipped => exact absurd ((role_eq_skipped_iff.mp hr).2.1.symm.trans hskip) (by decide)
  | closer =>
    rw [step_of_closer hr]
    exact List.cons_ne_nil _ _
  | prose => exact step_ne_nil_of_inComment (role_eq_prose_iff.mp hr).2.2.2 hskip hkept
  | opener =>
    -- only the opener on the first line of the document is silent
    rw [step_of_opener hr, if_neg (by omega)]
    exact List.cons_ne_nil _ _
  | code =>
    rw [step_of_code hr, codeLine_text (elision?_heading _ title) (heading_ne_empty title)]
    simp

/-- The first line of a source emits something, begins a comment, or leaves the scan outside of
    comments, in a block if the source opens in code. -/
theorem step_first (cfg : Settings) (opening : Opening) (first : String) :
    (step cfg opening.start first).2 ≠ [] ∨
      (step cfg opening.start first).1.skipping = false ∧
        ((step cfg opening.start first).1.inComment = true ∨
          (step cfg opening.start first).1.blockOpen = opening.start.blockOpen) := by
  cases hr : role cfg opening.start (trim first) with
  | wrapper => rw [step_of_wrapper hr]; exact .inr ⟨rfl, .inr rfl⟩
  | skipped => exact absurd (role_eq_skipped_iff.mp hr).2.1 Bool.false_ne_true
  | closer =>
    rw [step_of_closer hr]
    exact .inl (List.cons_ne_nil _ _)
  | prose => exact absurd (role_eq_prose_iff.mp hr).2.2.2 Bool.false_ne_true
  | opener => rw [step_of_opener hr]; exact .inr ⟨rfl, .inl rfl⟩
  | code =>
    rw [step_of_code hr]
    dsimp only
    rw [codeLine_skipping, codeLine_blockOpen]
    exact .inr ⟨rfl, .inr rfl⟩

/-- Something comes out of a source whose second line is not left out with the entry-point
    wrapper. -/
theorem weave_ne_nil {opening : Opening} {first second : String} {rest : List String}
    (hprimed : primeHeader cfg lines = .ok (opening, first :: second :: rest))
    (hkept : cfg.elides (trim second) = false) :
    weave cfg opening (first :: second :: rest) ≠ [] := by
  rw [weave_eq, piecesFrom_cons]
  have hindex : 0 < (step cfg opening.start first).1.index := by
    rw [step_index]
    omega
  rcases step_first cfg opening first with hout | ⟨hskip, hin | hblock⟩
  · exact List.append_ne_nil_of_left_ne_nil hout _
  · rw [piecesFrom_cons]
    have hsecond := step_ne_nil_of_inComment hin hskip hkept
    exact List.append_ne_nil_of_right_ne_nil _ (List.append_ne_nil_of_left_ne_nil hsecond _)
  · apply List.append_ne_nil_of_right_ne_nil
    obtain ⟨_, title, _, -, ⟨-, rfl, -⟩ | ⟨-, -, hlines⟩⟩ := primeHeader_cases hprimed
    · exact piecesFrom_ne_nil_of_blockOpen hblock hindex _
    -- the second line is the heading
    · obtain ⟨rfl, rfl, rfl⟩ : first = _ ∧ second = "### " ++ trim title ∧ rest = _ := by
        simpa using hlines
      rw [piecesFrom_cons]
      exact List.append_ne_nil_of_left_ne_nil (step_heading_ne_nil hindex hskip hkept) _

/-- A source whose second line, once it is primed, is not left out with the entry-point wrapper has
    a document that is not empty. -/
theorem exists_document_not_isEmpty {opening : Opening} {first second : String}
    {rest : List String}
    (hprimed : primeHeader cfg lines = .ok (opening, first :: second :: rest))
    (hkept : cfg.elides (trim second) = false) :
    ∃ document, convert cfg lines = .ok document ∧ document.isEmpty = false := by
  refine ⟨_, convert_of_primed hprimed, ?_⟩
  rw [Document.isEmpty, List.isEmpty_eq_false_iff, ne_eq, List.map_eq_nil_iff]
  exact weave_ne_nil hprimed hkept

end SourceWeaver
