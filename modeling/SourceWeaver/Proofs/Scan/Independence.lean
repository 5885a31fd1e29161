/-
  What a scan does not depend on.

  A scan reads its lines trimmed (`run_of_trim_eq`).  Behind the first line it does not ask for the
  place of a line either: a scan that starts at another place goes through the same states, apart
  from the place, and emits the same pieces (`run_moved`).  And a comment cuts a scan off from what
  is before it: behind its end only a switch that is still open and a pending opener are left, and
  neither the text of the comment nor the depth and the blanks before it make any difference to the
  rest of the document (`behind_comment_unaffected`).
-/

import SourceWeaver.Proofs.Scan.Passages

namespace SourceWeaver.Scan

open Text

variable {cfg : Settings} {s : State} {raw : String}

/-! ## White space around lines -/

theorem step_of_trim_eq {raw' : String} (h : trim raw = trim raw') :
    step cfg s raw = step cfg s raw' := by
  unfold step
  rw [h]

/-- Lines that agree when they are trimmed are scanned alike. -/
theorem run_of_trim_eq {a b : List String} (h : a.map trim = b.map trim) :
    run cfg s a = run cfg s b := by
  induction a generalizing s b with
  | nil =>
    have hb : b = [] := by simpa using h.symm
    rw [hb]
  | cons raw rest ih =>
    -- both lists have the same length, as their trimmed lines do
    cases b with
    | nil => simp at h
    | cons raw' rest' =>
      rw [List.map_cons, List.map_cons, List.cons.injEq] at h
      obtain ⟨hraw, hrest⟩ := h
      rw [run_cons, run_cons, step_of_trim_eq hraw, ih hrest]

/-! ## The place of a line -/

/-- The same state at another place. -/
def State.moved (s : State) (i : Nat) : State :=
  { s with index := i }

theorem State.moved_moved (s : State) (i j : Nat) : (s.moved i).moved j = s.moved j := rfl

theorem State.next_eq_moved (s : State) : s.next = s.moved (s.index + 1) := rfl

/-- Lines of code never ask for the place. -/
theorem codeLine_moved (cfg : Settings) (s : State) (i : Nat) (line : String) :
    codeLine cfg (s.moved i) line = ((codeLine cfg s line).1.moved i, (codeLine cfg s line).2) := by
  -- whether a line is left out does not depend on its place
  have helision : elision? (s.moved i) line = elision? s line := rfl
  cases he : elision? s line with
  | some e =>
    cases e with
    | opener =>
      rw [codeLine_opener he, codeLine_opener (helision.trans he)]
      rfl
    | closer =>
      rw [codeLine_closer he, codeLine_closer (helision.trans he)]
      rfl
  | none =>
    by_cases hline : line = ""
    · subst hline
      rw [codeLine_blank he, codeLine_blank (helision.trans he)]
      rfl
    · rw [codeLine_text he hline, codeLine_text (helision.trans he) hline]
      rfl

/-- Only a line that begins a comment asks whether it is the first one. -/
theorem step_moved (hs : 0 < s.index) {i : Nat} (hi : 0 < i) (raw : String) :
    step cfg (s.moved i) raw = ((step cfg s raw).1.moved (i + 1), (step cfg s raw).2) := by
  have hrole : role cfg (s.moved i) (trim raw) = role cfg s (trim raw) := rfl
  cases hr : role cfg s (trim raw) with
  | wrapper =>
    rw [step_of_wrapper hr, step_of_wrapper (hrole.trans hr)]
    rfl
  | skipped =>
    rw [step_of_skipped hr, step_of_skipped (hrole.trans hr)]
    rfl
  | closer =>
    rw [step_of_closer hr, step_of_closer (hrole.trans hr)]
    rfl
  | prose =>
    rw [step_of_prose hr, step_of_prose (hrole.trans hr)]
    rfl
  | opener =>
    -- the one question about the place: a comment on the first line ends no block
    have hfirst : s.index ≠ 0 := by omega
    have hfirst' : (s.moved i).index ≠ 0 := by
      show i ≠ 0
      omega
    rw [step_of_opener hr, step_of_opener (hrole.trans hr), if_neg hfirst, if_neg hfirst']
    rfl
  | code =>
    have hnext : ({ (s.moved i).next with skipping := false } : State) =
        State.moved { s.next with skipping := false } (i + 1) := rfl
    rw [step_of_code hr, step_of_code (hrole.trans hr), hnext, codeLine_moved]

/-- Behind the first line, a scan from another place goes through the same states, apart from the
    place, and emits the same pieces. -/
theorem run_moved (hs : 0 < s.index) {i : Nat} (hi : 0 < i) (lines : List String) :
    run cfg (s.moved i) lines =
      ((run cfg s lines).1.moved (i + lines.length), (run cfg s lines).2) := by
  -- both scans stay behind the first line, so the step lemma applies to every line
  induction lines generalizing s i with
  | nil => rfl
  | cons raw rest ih =>
    have hstep : step cfg (s.moved i) raw =
        ((step cfg s raw).1.moved (i + 1), (step cfg s raw).2) := step_moved hs hi raw
    have hindex : 0 < (step cfg s raw).1.index := by
      rw [step_index]
      omega
    have hlength : i + 1 + rest.length = i + (raw :: rest).length := by
      rw [List.length_cons]
      omega
    rw [run_cons, run_cons, hstep, ih hindex (Nat.succ_pos i), hlength]

/-! ## A pending opener -/

/-- The same state with an opener pending or not. -/
def State.withPending (s : State) (pending : Bool) : State :=
  { s with pendingOpener := pending }

/-- A pending opener makes a difference to a line with text only if the line is left out for it. -/
theorem codeLine_withPending (cfg : Settings) {line : String} {pending : Bool} (hline : line ≠ "")
    (helision : elision? (s.withPending pending) line = elision? s line) :
    codeLine cfg (s.withPending pending) line = codeLine cfg s line := by
  cases he : elision? s line with
  | some e =>
    -- a brace that is left out sets the flag, whatever it was
    cases e with
    | opener =>
      rw [codeLine_opener he, codeLine_opener (helision.trans he)]
      rfl
    | closer =>
      rw [codeLine_closer he, codeLine_closer (helision.trans he)]
      rfl
  | none =>
    have hempty : (line == "") = false := by simpa using hline
    have hbefore : (s.withPending pending).beforeLine line = s.beforeLine line := by
      rw [State.beforeLine, State.beforeLine, hempty, Bool.and_false, Bool.and_false]
      rfl
    rw [codeLine_text he hline, codeLine_text (helision.trans he) hline, hbefore]
    rfl

/-! ## What is before a comment, and its text -/

/-- The state behind the end of a comment, away from the place: an open switch and a pending opener
    are all that is left of the code before the comment. -/
def State.afterComment (s : State) : State :=
  { s.behindComment with index := 1, blockOpen := true, skipping := true }

/-- A comment comes out as its prose, between the end of one block and the beginning of the next,
    and the scan goes on behind it at another place. -/
theorem run_comment (hs : 0 < s.index) {first last : String} {body : List String}
    (hfirst : role cfg s (trim first) = .opener)
    (hbody : ∀ raw ∈ body, cfg.closesComment (trim raw) = false)
    (hcloses : cfg.closesComment (trim last) = true) (hkept : cfg.elides (trim last) = false)
    (post : List String) :
    ∃ i, run cfg s (first :: body ++ last :: post) =
      ((run cfg s.afterComment post).1.moved i,
        [.closing, .text ""] ++ (proseOf cfg body).map .text ++ [.text "", .opening] ++
          (run cfg s.afterComment post).2) := by
  have hindex : s.index ≠ 0 := by omega
  have hends : ∀ raw ∈ body, cfg.endsComment raw = false := by
    intro raw hraw
    rw [Settings.endsComment, hbody raw hraw, Bool.and_false]
  have hprose := run_prose (withinComment_openComment s) hends
  -- the state in which the last line of the comment is met
  obtain ⟨t, ht⟩ : ∃ t : State,
      t = { s.next.openComment with index := s.next.openComment.index + body.length } := ⟨_, rfl⟩
  have hcloser : role cfg t (trim last) = .closer := by
    refine role_eq_closer_iff.mpr ⟨hkept, ?_, hcloses⟩
    rw [ht]
    rfl
  -- behind it, the length of the comment shows in the place alone
  have hafter : t.next.closeComment = s.afterComment.moved (t.index + 1) := by
    rw [ht]
    rfl
  refine ⟨t.index + 1 + post.length, ?_⟩
  rw [List.cons_append, run_cons, step_of_opener hfirst, if_neg hindex, run_append, hprose, ← ht,
    run_cons, step_of_closer hcloser, hafter, run_moved Nat.one_pos (Nat.succ_pos _)]
  simp only [List.append_assoc]

/-- Two scans that meet the same beginning of a comment behind the first line, with the same switch
    and the same pending opener, emit the same pieces behind the same end of it, whatever stands in
    the comment and whatever the depth and the blanks before it, and end in states that differ in
    their place alone. -/
theorem behind_comment_unaffected {s t : State} (hs : 0 < s.index) (ht : 0 < t.index)
    (hswitch : s.inSwitch = t.inSwitch) (hlevels : s.clauseLevels = t.clauseLevels)
    (hpending : s.pendingOpener = t.pendingOpener) {first last : String}
    (hfirst : role cfg s (trim first) = .opener) (hfirst' : role cfg t (trim first) = .opener)
    {a b : List String} (ha : ∀ raw ∈ a, cfg.closesComment (trim raw) = false)
    (hb : ∀ raw ∈ b, cfg.closesComment (trim raw) = false)
    (hcloses : cfg.closesComment (trim last) = true) (hkept : cfg.elides (trim last) = false)
    (post : List String) :
    ∃ more : List Piece,
      piecesFrom cfg s (first :: a ++ last :: post) =
          [.closing, .text ""] ++ (proseOf cfg a).map .text ++ more ∧
        piecesFrom cfg t (first :: b ++ last :: post) =
          [.closing, .text ""] ++ (proseOf cfg b).map .text ++ more ∧
        (run cfg s (first :: a ++ last :: post)).1 =
          { (run cfg t (first :: b ++ last :: post)).1 with
            index := (run cfg s (first :: a ++ last :: post)).1.index } := by
  obtain ⟨i, hleft⟩ := run_comment hs hfirst ha hcloses hkept post
  obtain ⟨j, hright⟩ := run_comment ht hfirst' hb hcloses hkept post
  -- what the two comments leave behind is the same
  have hafter : t.afterComment = s.afterComment := by
    rw [State.afterComment, State.afterComment, State.behindComment, State.behindComment, hswitch,
      hlevels, hpending]
  rw [hafter] at hright
  refine ⟨[.text "", .opening] ++ piecesFrom cfg s.afterComment post, ?_, ?_, ?_⟩
  · rw [piecesFrom, hleft, piecesFrom]
    simp only [List.append_assoc]
    rfl
  · rw [piecesFrom, hright, piecesFrom]
    simp only [List.append_assoc]
    rfl
  · rw [hleft, hright]
    rfl

/-- A comment that holds braces and a clause label, behind two open blocks and a blank line, and one
    of plain text in an outermost block: the code behind both comes out alike. -/
theorem behind_comment_of_braces_unaffected :
    ∃ more : List Piece,
      piecesFrom {} { index := 7, blockOpen := true, depth := 2, blanks := ⟨1⟩ }
          ("/*" :: ["\x7d else \x7b", "case 1:"] ++ "*/" :: ["if (x) \x7b", "y;", "\x7d"]) =
          [.closing, .text ""] ++ (proseOf {} ["\x7d else \x7b", "case 1:"]).map .text ++ more ∧
        piecesFrom {} { index := 1, blockOpen := true }
          ("/*" :: ["x"] ++ "*/" :: ["if (x) \x7b", "y;", "\x7d"]) =
          [.closing, .text ""] ++ (proseOf {} ["x"]).map .text ++ more ∧
        (run {} { index := 7, blockOpen := true, depth := 2, blanks := ⟨1⟩ }
          ("/*" :: ["\x7d else \x7b", "case 1:"] ++ "*/" :: ["if (x) \x7b", "y;", "\x7d"])).1 =
          { (run {} { index := 1, blockOpen := true }
              ("/*" :: ["x"] ++ "*/" :: ["if (x) \x7b", "y;", "\x7d"])).1 with
            index :=
              (run {} { index := 7, blockOpen := true, depth := 2, blanks := ⟨1⟩ }
                ("/*" :: ["\x7d else \x7b", "case 1:"] ++
                  "*/" :: ["if (x) \x7b", "y;", "\x7d"])).1.index } := by
  have hbraces : ∀ raw ∈ ["\x7d else \x7b", "case 1:"],
      Settings.closesComment {} (trim raw) = false := by decide
  have hplain : ∀ raw ∈ ["x"], Settings.closesComment {} (trim raw) = false := by decide
  have hfirst (s : State) (hin : s.inComment = false) (hskip : s.skipping = false) :
      role {} s (trim "/*") = .opener := by
    refine role_eq_opener_iff.mpr ⟨by decide, pads_of_not_skipping hskip, by decide, hin, by decide⟩
  exact behind_comment_unaffected (by decide) (by decide) rfl rfl rfl (hfirst _ rfl rfl)
    (hfirst _ rfl rfl) hbraces hplain (by decide) (by decide) _

end SourceWeaver.Scan
