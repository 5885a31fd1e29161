/-
  The entry-point wrapper.

  A scan that leaves the wrapper out emits what a scan that keeps it emits for the source without
  the wrapper lines (`run_wrapping_false`): a line that is left out moves the place and changes
  nothing else, so behind the first line it makes no difference whether it is there.  For whole
  sources this is `convert_without_wrapper`.

  What the wrapper adds to a document is stated for a source that is one entry point behind a
  comment (`wrapper_toggle`).  Its block is the body alone, or the body one level further to the
  right between the lines of the wrapper.  Both follow from one equation for the document
  (`convert_wrappedSource`) and one for each of the two blocks (`codeRun_body`, `codeRun_wrapped`).
-/

import SourceWeaver.Proofs.Scan.Independence
import SourceWeaver.Proofs.Scan.Levels
import SourceWeaver.Proofs.Document.Priming

namespace SourceWeaver

open Text Scan

namespace Settings

/-- The same settings, with the entry-point wrapper kept or left out. -/
def wrapping (cfg : Settings) (keep : Bool) : Settings :=
  { cfg with keepEntryPoint := keep }

/-- The lines of a source that do not belong to the entry-point wrapper. -/
def unwrapped (cfg : Settings) (lines : List String) : List String :=
  lines.filter fun raw => !cfg.isEntryPoint (trim raw)

theorem elides_wrapping_false (cfg : Settings) (line : String) :
    (cfg.wrapping false).elides line = cfg.isEntryPoint line := rfl

theorem elides_wrapping_true (cfg : Settings) (line : String) :
    (cfg.wrapping true).elides line = false := rfl

theorem unwrapped_cons_of_isEntryPoint {cfg : Settings} {raw : String}
    (h : cfg.isEntryPoint (trim raw) = true) (rest : List String) :
    cfg.unwrapped (raw :: rest) = cfg.unwrapped rest := by
  simp [unwrapped, h]

theorem unwrapped_cons {cfg : Settings} {raw : String} (h : cfg.isEntryPoint (trim raw) = false)
    (rest : List String) : cfg.unwrapped (raw :: rest) = raw :: cfg.unwrapped rest := by
  simp [unwrapped, h]

end Settings

variable {cfg : Settings} {s : State}

/-! ## Leaving the wrapper out -/

/-- On a line outside the wrapper it makes no difference whether the wrapper is kept. -/
theorem step_wrapping {raw : String} (h : cfg.isEntryPoint (trim raw) = false) :
    step (cfg.wrapping false) s raw = step (cfg.wrapping true) s raw := by
  -- the two settings differ in the first question that is asked of a line and in no other
  have hrole : role (cfg.wrapping false) s (trim raw) = role (cfg.wrapping true) s (trim raw) := by
    show (if !false && cfg.isEntryPoint (trim raw) then _ else _) =
      if !true && cfg.isEntryPoint (trim raw) then _ else _
    rw [h]
    rfl
  cases hr : role (cfg.wrapping true) s (trim raw) with
  | wrapper => rw [step_of_wrapper hr, step_of_wrapper (hrole.trans hr)]
  | skipped => rw [step_of_skipped hr, step_of_skipped (hrole.trans hr)]
  | closer => rw [step_of_closer hr, step_of_closer (hrole.trans hr)]
  | prose =>
    rw [step_of_prose hr, step_of_prose (hrole.trans hr)]
    rfl
  | opener => rw [step_of_opener hr, step_of_opener (hrole.trans hr)]
  | code =>
    rw [step_of_code hr, step_of_code (hrole.trans hr)]
    rfl

/-- Behind the first line, a scan that leaves the wrapper out goes through the same states as one
    that keeps it and does not meet it, apart from the place, and emits the same pieces. -/
theorem run_wrapping_false (hs : 0 < s.index) (lines : List String) :
    run (cfg.wrapping false) s lines =
      ((run (cfg.wrapping true) s (cfg.unwrapped lines)).1.moved (s.index + lines.length),
        (run (cfg.wrapping true) s (cfg.unwrapped lines)).2) := by
  induction lines generalizing s with
  | nil => rfl
  | cons raw rest ih =>
    have hlength : s.index + 1 + rest.length = s.index + (raw :: rest).length := by
      rw [List.length_cons]
      omega
    cases h : cfg.isEntryPoint (trim raw) with
    | true =>
      -- the line is passed over, and the scan without it is one place behind from here on
      have helides := (cfg.elides_wrapping_false (trim raw)).trans h
      have hrole : role (cfg.wrapping false) s (trim raw) = .wrapper :=
        role_eq_wrapper_iff.mpr helides
      have hmoved : run (cfg.wrapping true) (s.moved (s.index + 1)) (cfg.unwrapped rest) =
          ((run (cfg.wrapping true) s (cfg.unwrapped rest)).1.moved
              (s.index + 1 + (cfg.unwrapped rest).length),
            (run (cfg.wrapping true) s (cfg.unwrapped rest)).2) :=
        run_moved hs (Nat.succ_pos s.index) _
      have hnext : s.next.index = s.index + 1 := rfl
      rw [run_cons, step_of_wrapper hrole, ih (s := s.next) (Nat.succ_pos s.index),
        Settings.unwrapped_cons_of_isEntryPoint h, hnext, hlength, s.next_eq_moved, hmoved,
        State.moved_moved]
      rfl
    | false =>
      have hindex := step_index (cfg.wrapping true) s raw
      have hpos : 0 < (step (cfg.wrapping true) s raw).1.index := by omega
      rw [run_cons, step_wrapping h, ih hpos, hindex, hlength, Settings.unwrapped_cons h, run_cons]

/-- The same for a whole source whose first line is outside the wrapper. -/
theorem weave_wrapping_false {opening : Opening} {first : String} {rest : List String}
    (h : cfg.isEntryPoint (trim first) = false) :
    weave (cfg.wrapping false) opening (first :: rest) =
      weave (cfg.wrapping true) opening (first :: cfg.unwrapped rest) := by
  have hpos : 0 < (step (cfg.wrapping true) opening.start first).1.index := by
    rw [step_index]
    omega
  rw [weave_eq, weave_eq, piecesFrom_cons, piecesFrom_cons, step_wrapping h, piecesFrom,
    run_wrapping_false hpos, piecesFrom]
  rfl

/-- Priming does not ask whether the wrapper is kept. -/
theorem primeHeader_wrapping (keep : Bool) {lines primed : List String} {opening : Opening}
    (h : primeHeader cfg lines = .ok (opening, primed)) :
    primeHeader (cfg.wrapping keep) lines = .ok (opening, primed) := by
  rw [← h]
  match lines with
  | [] => rfl
  | [_] => rfl
  | _ :: _ :: _ => rfl

/-- Priming rewrites the first two lines, whatever stands behind them. -/
theorem primeHeader_unwrapped {first second : String} {rest primed : List String}
    {opening : Opening} (h : primeHeader cfg (first :: second :: rest) = .ok (opening, primed)) :
    ∃ a b, primed = a :: b :: rest ∧
      primeHeader cfg (first :: second :: cfg.unwrapped rest) =
        .ok (opening, a :: b :: cfg.unwrapped rest) := by
  cases hsecond : cfg.isLineComment second with
  | true =>
    rw [primeHeader_of_lineComment hsecond] at h
    cases h
    exact ⟨_, _, rfl, primeHeader_of_lineComment hsecond⟩
  | false =>
    rw [primeHeader_of_title hsecond] at h
    cases h
    exact ⟨_, _, rfl, primeHeader_of_title hsecond⟩

/-- Leaving the wrapper out is the same as taking its lines out of the source first.  A source whose
    first two lines, as primed, do not belong to the wrapper has the same document either way; and
    from any state behind the first line, both scans emit the same pieces and end in states that
    differ in their place alone. -/
theorem convert_without_wrapper (cfg : Settings) :
    (∀ (first second : String) (rest : List String) (opening : Opening) (primed : List String),
      primeHeader cfg (first :: second :: rest) = .ok (opening, primed) →
      (∀ raw ∈ primed.take 2, cfg.isEntryPoint (trim raw) = false) →
        ∃ d, convert (cfg.wrapping false) (first :: second :: rest) = .ok d ∧
          convert (cfg.wrapping true) (first :: second :: cfg.unwrapped rest) = .ok d) ∧
    ∀ s : State, 1 ≤ s.index → ∀ lines : List String,
      (run (cfg.wrapping false) s lines).2 =
          (run (cfg.wrapping true) s (cfg.unwrapped lines)).2 ∧
        (run (cfg.wrapping false) s lines).1 =
          { (run (cfg.wrapping true) s (cfg.unwrapped lines)).1 with
            index := s.index + lines.length } := by
  refine ⟨?_, ?_⟩
  · intro first second rest opening primed hprimed hshown
    -- priming reads the first two lines alone, and the wrapper does not touch these
    have hwhole := primeHeader_wrapping false hprimed
    obtain ⟨a, b, rfl, hunwrapped⟩ := primeHeader_unwrapped hprimed
    have ha : cfg.isEntryPoint (trim a) = false := hshown a (by simp)
    have hb : cfg.isEntryPoint (trim b) = false := hshown b (by simp)
    refine ⟨_, convert_of_primed hwhole, ?_⟩
    rw [convert_of_primed (primeHeader_wrapping true hunwrapped), weave_wrapping_false ha,
      Settings.unwrapped_cons hb]
    rfl
  · intro s hs lines
    rw [run_wrapping_false hs]
    exact ⟨rfl, rfl⟩

/-- A source with wrapper lines in a comment, right behind it, and between the clauses of a
    switch. -/
theorem convert_without_wrapper_in_switch :
    (∃ d, convert (Settings.wrapping {} false)
          ["/*", "T", "return 0;", "*/", "int main(void) \x7b", "switch (x) \x7b", "case 1:",
            " return 0;", "y;", "\x7d", "\x7d"] = .ok d ∧
        convert (Settings.wrapping {} true)
          ("/*" :: "T" :: Settings.unwrapped {} ["return 0;", "*/", "int main(void) \x7b",
            "switch (x) \x7b", "case 1:", " return 0;", "y;", "\x7d", "\x7d"]) = .ok d) ∧
      (run (Settings.wrapping {} false) { index := 1, inSwitch := true } ["return 0;", "x;"]).2 =
        (run (Settings.wrapping {} true) { index := 1, inSwitch := true }
          (Settings.unwrapped {} ["return 0;", "x;"])).2 := by
  obtain ⟨hconvert, hrun⟩ := convert_without_wrapper {}
  have hshown : ∀ raw ∈ ["/*", "### T"], Settings.isEntryPoint {} (trim raw) = false := by decide
  exact ⟨hconvert _ _ _ .comment _ rfl hshown, (hrun _ (Nat.le_refl 1) _).1⟩

/-! ## Sources with one comment -/

/-- A source with one comment comes out as its prose and one block of code. -/
theorem weave_of_one_comment {first last : String} {body behind : List String}
    (hfirst : role cfg Opening.comment.start (trim first) = .opener)
    (hbody : ∀ raw ∈ body, cfg.endsComment raw = false) (hlast : cfg.endsComment last = true)
    (hblock : ∀ raw ∈ behind.dropWhile cfg.leadsBlock,
      cfg.beginsComment raw = false ∧ cfg.endsComment raw = false) :
    weave cfg .comment (first :: (body ++ last :: behind)) =
      (proseOf cfg body).map .text ++ [.text "", .opening] ++
        ((codeRun cfg {} (cfg.kept (behind.dropWhile cfg.leadsBlock))).2.map .text ++
          [.closing, .text ""]) := by
  have hs : Opening.comment.start.next.openComment.WithinComment := withinComment_openComment _
  have hclosers := closersEndComments_of_one_end hs hbody hlast fun raw hraw => (hblock raw hraw).2
  -- the comment and its end, then a block that nothing ends but the end of the source
  obtain ⟨s', hs', hnesting, hclosers', hpieces⟩ :=
    piecesFrom_comment_end hs hbody hlast hclosers
  obtain ⟨hout, -, hend⟩ := run_code hs' hclosers' fun raw hraw => (hblock raw hraw).1
  have hfresh : Opening.comment.start.next.openComment.behindComment = {} := rfl
  rw [weave_eq, piecesFrom_cons, step_of_opener hfirst, hpieces, piecesFrom, hout, hnesting, hfresh,
    finish, if_pos hend.blockOpen]
  rfl

/-! ## The markers that settings have by default -/

/-- The markers are the ones that settings have by default. -/
def Settings.DefaultMarkers (cfg : Settings) : Prop :=
  ∀ m, cfg.marker m = Settings.marker {} m

namespace Settings.DefaultMarkers

variable (h : cfg.DefaultMarkers) (line : String)

include h

theorem isEntryPoint : cfg.isEntryPoint line = Settings.isEntryPoint {} line := by
  have hopen : cfg.entryOpen = Settings.entryOpen {} := h .entryOpen
  have hclose : cfg.entryClose = Settings.entryClose {} := h .entryClose
  rw [Settings.isEntryPoint, hopen, hclose, Settings.isEntryPoint]

theorem pads : cfg.pads line = Settings.pads {} line := by
  have hinclude : cfg.includeMarker = Settings.includeMarker {} := h .includeLine
  rw [Settings.pads, Settings.isInclude, hinclude, Settings.pads, Settings.isInclude]

theorem opensComment : cfg.opensComment line = Settings.opensComment {} line := by
  have hopen : cfg.commentOpen = Settings.commentOpen {} := h .commentOpen
  rw [Settings.opensComment, hopen, Settings.opensComment]

theorem closesComment : cfg.closesComment line = Settings.closesComment {} line := by
  have hclose : cfg.commentClose = Settings.commentClose {} := h .commentClose
  rw [Settings.closesComment, hclose, Settings.closesComment]

theorem startsSwitch : cfg.startsSwitch line = Settings.startsSwitch {} line := by
  have hswitch : cfg.switchWord = Settings.switchWord {} := h .switchWord
  rw [Settings.startsSwitch, hswitch, Settings.startsSwitch]

/-- A line that is not part of the wrapper is shown in either case. -/
theorem elides_wrapping (keep : Bool) (hline : Settings.isEntryPoint {} line = false) :
    (cfg.wrapping keep).elides line = false := by
  have hentry : (cfg.wrapping keep).isEntryPoint line = false := (h.isEntryPoint line).trans hline
  rw [Settings.elides, hentry, Bool.and_false]

end Settings.DefaultMarkers

/-! ## Sources that are one entry point -/

/-- A source that consists of a comment and of an entry point with some code in it, as its lines
    stand in the source. -/
structure WrappedSource (cfg : Settings) where
  /-- The line that begins the comment. -/
  first : String
  title : String
  prose : List String
  /-- The line that ends the comment. -/
  last : String
  /-- Blank lines and include lines. -/
  padding : List String
  entryOpen : String
  body : List String
  entryClose : String
  brace : String
  trim_first : trim first = "/*"
  trim_last : trim last = "*/"
  trim_entryOpen : trim entryOpen = "int main(void) \x7b"
  trim_entryClose : trim entryClose = "return 0;"
  trim_brace : trim brace = "\x7d"
  title_lineComment : cfg.isLineComment title = false
  title_closesComment : cfg.closesComment (trim title) = false
  prose_closesComment : ∀ raw ∈ prose, cfg.closesComment (trim raw) = false
  padding_pads : ∀ raw ∈ padding, cfg.pads (trim raw) = true
  body_ne_nil : body ≠ []
  body_pads : ∀ raw ∈ body.head?, cfg.pads (trim raw) = false
  body_text : ∀ raw ∈ body.getLast?, trim raw ≠ ""
  body_opensComment : ∀ raw ∈ body, cfg.opensComment (trim raw) = false
  body_closesComment : ∀ raw ∈ body, cfg.closesComment (trim raw) = false
  body_isEntryPoint : ∀ raw ∈ body, cfg.isEntryPoint (trim raw) = false

namespace WrappedSource

/-- The lines behind the comment. -/
def behind (w : WrappedSource cfg) : List String :=
  w.padding ++ w.entryOpen :: (w.body ++ [w.entryClose, w.brace])

/-- The lines of the source. -/
def lines (w : WrappedSource cfg) : List String :=
  w.first :: w.title :: (w.prose ++ w.last :: w.behind)

/-- The first line of the comment, as priming rewrites it, and the lines behind it. -/
def comment (w : WrappedSource cfg) : List String :=
  ("### " ++ trim w.title) :: w.prose

/-- The lines that the body comes out as, in a run of code from the outermost level. -/
def shown (w : WrappedSource cfg) : List String :=
  (codeRun cfg {} (w.body.map trim)).2

/-! ### The shapes of its lines -/

theorem trim_behind (w : WrappedSource cfg) :
    (w.entryOpen :: (w.body ++ [w.entryClose, w.brace])).map trim =
      "int main(void) \x7b" :: (w.body.map trim ++ ["return 0;", "\x7d"]) := by
  rw [List.map_cons, List.map_append, List.map_cons, List.map_singleton, w.trim_entryOpen,
    w.trim_entryClose, w.trim_brace]

/-- No line of the entry point begins or ends a comment. -/
theorem plain_of_mem (h : cfg.DefaultMarkers) (w : WrappedSource cfg) :
    ∀ raw ∈ w.entryOpen :: (w.body ++ [w.entryClose, w.brace]),
      cfg.opensComment (trim raw) = false ∧ cfg.closesComment (trim raw) = false := by
  -- the texts of the wrapper are known, and the body has no markers by assumption
  have hplain : ∀ line ∈ ["int main(void) \x7b", "return 0;", "\x7d"],
      cfg.opensComment line = false ∧ cfg.closesComment line = false := by
    intro line hline
    rw [h.opensComment, h.closesComment]
    revert line
    decide
  intro raw hraw
  rw [List.mem_cons, List.mem_append, List.mem_cons, List.mem_singleton] at hraw
  rcases hraw with rfl | hraw | rfl | rfl
  · rw [w.trim_entryOpen]
    exact hplain _ (by simp)
  · exact ⟨w.body_opensComment raw hraw, w.body_closesComment raw hraw⟩
  · rw [w.trim_entryClose]
    exact hplain _ (by simp)
  · rw [w.trim_brace]
    exact hplain _ (by simp)

/-- The padding never reaches the block. -/
theorem dropWhile_leadsBlock_behind (keep : Bool) (w : WrappedSource cfg) :
    w.behind.dropWhile (cfg.wrapping keep).leadsBlock =
      (w.entryOpen :: (w.body ++ [w.entryClose, w.brace])).dropWhile
        (cfg.wrapping keep).leadsBlock := by
  refine List.dropWhile_append_of_pos fun raw hraw => ?_
  have hpads : (cfg.wrapping keep).pads (trim raw) = true := w.padding_pads raw hraw
  rw [Settings.leadsBlock, hpads, Bool.or_true]

/-- With the wrapper left out, the block begins with the body. -/
theorem dropWhile_leadsBlock_false (h : cfg.DefaultMarkers) (w : WrappedSource cfg) :
    w.behind.dropWhile (cfg.wrapping false).leadsBlock = w.body ++ [w.entryClose, w.brace] := by
  have hentry : (cfg.wrapping false).leadsBlock w.entryOpen = true := by
    rw [Settings.leadsBlock, Settings.elides_wrapping_false, w.trim_entryOpen, h.isEntryPoint]
    rfl
  rw [dropWhile_leadsBlock_behind, List.dropWhile_cons_of_pos hentry]
  -- the opening line of the wrapper is dropped, and the body does not begin with one to drop
  cases hbody : w.body with
  | nil => exact absurd hbody w.body_ne_nil
  | cons raw rest =>
    have hlead : (cfg.wrapping false).leadsBlock raw = false := by
      have hpads : (cfg.wrapping false).pads (trim raw) = false := w.body_pads raw (by simp [hbody])
      have hshown := w.body_isEntryPoint raw (by simp [hbody])
      rw [Settings.leadsBlock, Settings.elides_wrapping_false, hshown, hpads]
      rfl
    rw [List.cons_append, List.dropWhile_cons_of_neg (by simp [hlead])]

/-- With the wrapper kept, the block begins with the line that opens it. -/
theorem dropWhile_leadsBlock_true (h : cfg.DefaultMarkers) (w : WrappedSource cfg) :
    w.behind.dropWhile (cfg.wrapping true).leadsBlock =
      w.entryOpen :: (w.body ++ [w.entryClose, w.brace]) := by
  have hentry : (cfg.wrapping true).leadsBlock w.entryOpen = false := by
    have hpads : (cfg.wrapping true).pads (trim w.entryOpen) = cfg.pads (trim w.entryOpen) := rfl
    rw [Settings.leadsBlock, Settings.elides_wrapping_true, hpads, w.trim_entryOpen, h.pads]
    decide
  rw [dropWhile_leadsBlock_behind, List.dropWhile_cons_of_neg (by simp [hentry])]

theorem kept_wrapping_false (h : cfg.DefaultMarkers) (w : WrappedSource cfg) :
    (cfg.wrapping false).kept (w.body ++ [w.entryClose, w.brace]) =
      w.body.map trim ++ ["\x7d"] := by
  have hbody : (w.body.map trim).filter (fun line => !(cfg.wrapping false).elides line) =
      w.body.map trim := by
    rw [List.filter_eq_self]
    intro line hline
    obtain ⟨raw, hraw, rfl⟩ := List.mem_map.mp hline
    rw [Settings.elides_wrapping_false, w.body_isEntryPoint raw hraw]
    rfl
  -- the return is left out, and the brace behind it is not
  have hclose : (cfg.wrapping false).elides "return 0;" = true := by
    rw [Settings.elides_wrapping_false, h.isEntryPoint]
    decide
  have hbrace : (cfg.wrapping false).elides "\x7d" = false := by
    rw [Settings.elides_wrapping_false, h.isEntryPoint]
    decide
  rw [Settings.kept, List.map_append, List.filter_append, hbody, List.map_cons, List.map_singleton,
    w.trim_entryClose, w.trim_brace]
  simp [hclose, hbrace]

end WrappedSource

theorem kept_wrapping_true (lines : List String) :
    (cfg.wrapping true).kept lines = lines.map trim := by
  rw [Settings.kept, List.filter_eq_self]
  intro line _
  rfl

/-- A run of code does not ask whether the wrapper is kept. -/
theorem codeRun_wrapping (keep : Bool) (lines : List String) :
    codeRun (cfg.wrapping keep) s lines = codeRun cfg s lines := by
  induction lines generalizing s with
  | nil => rfl
  | cons line rest ih =>
    have hline : codeLine (cfg.wrapping keep) s line = codeLine cfg s line := rfl
    rw [codeRun_cons, codeRun_cons, hline, ih]

/-! ### The block -/

/-- With the wrapper left out, the brace that ends it finds no open block and goes with it. -/
theorem codeRun_body (w : WrappedSource cfg)
    (hdepth : (codeRun cfg {} (w.body.map trim)).1.depth = 0)
    (hswitch : (codeRun cfg {} (w.body.map trim)).1.inSwitch = false) :
    (codeRun cfg {} (w.body.map trim ++ ["\x7d"])).2 = w.shown := by
  -- the body has closed every block that it opened
  have hbrace : elision? (codeRun cfg {} (w.body.map trim)).1 "\x7d" = some .closer := by
    have hbare : ("\x7d" == "\x7b") = false := by decide
    have hcloses : closesBlock "\x7d" = true := by decide
    rw [elision?, hdepth, hswitch, hbare, hcloses, Bool.and_false]
    rfl
  rw [codeRun_append, codeRun_cons, codeLine_closer hbrace]
  exact List.append_nil _

/-- With the wrapper kept, the line that opens it takes the body one level deeper. -/
theorem codeLine_entryOpen (h : cfg.DefaultMarkers) :
    codeLine cfg {} "int main(void) \x7b" = (State.deeper {} 1, ["int main(void) \x7b"]) := by
  have hstarts : cfg.startsSwitch "int main(void) \x7b" = false :=
    (h.startsSwitch _).trans (by decide)
  rw [codeLine_outside_switch rfl rfl rfl (by decide) (by decide) hstarts, if_neg (by decide),
    if_pos (by decide), cfg.indent_zero, String.empty_append]
  rfl

/-- One level deep, outside a switch, the two lines that end the wrapper come out, and the brace
    ends the level. -/
theorem codeRun_entryClose (h : cfg.DefaultMarkers) (hdepth : s.depth = 1)
    (hswitch : s.inSwitch = false) (hlevels : s.clauseLevels = 0) (hblanks : s.blanks = {}) :
    (codeRun cfg s ["return 0;", "\x7d"]).2 = [cfg.indent 1 ++ "return 0;", "\x7d"] := by
  have hshown (line : String) (hbare : (line == "\x7b") = false) (t : State) (ht : t.depth = 1) :
      elision? t line = none := by
    have hdeep : (t.depth == 0) = false := by
      rw [ht]
      rfl
    rw [elision?, hbare, hdeep, Bool.and_false, Bool.and_false]
    rfl
  have hclose : codeLine cfg s "return 0;" =
      ({ s with pendingOpener := false }, [cfg.indent 1 ++ "return 0;"]) := by
    have hstarts : cfg.startsSwitch "return 0;" = false := (h.startsSwitch _).trans (by decide)
    have hcloses : closesBlock "return 0;" = false := by decide
    have hopens : opensBlock "return 0;" = false := by decide
    rw [codeLine_outside_switch hswitch hlevels hblanks (hshown _ (by decide) s hdepth) (by decide)
      hstarts, hcloses, hopens, ← hdepth]
    rfl
  -- the state between the two lines, which is still one level deep
  obtain ⟨t, ht⟩ : ∃ t : State, t = { s with pendingOpener := false } := ⟨_, rfl⟩
  have hdepth' : t.depth = 1 := by
    rw [ht]
    exact hdepth
  have hbrace : (codeLine cfg t "\x7d").2 = ["\x7d"] := by
    have hstarts : cfg.startsSwitch "\x7d" = false := (h.startsSwitch _).trans (by decide)
    have hcloses : closesBlock "\x7d" = true := by decide
    rw [codeLine_outside_switch (by rw [ht]; exact hswitch) (by rw [ht]; exact hlevels)
      (by rw [ht]; exact hblanks) (hshown _ (by decide) t hdepth') (by decide) hstarts, hcloses,
      hdepth', if_pos rfl, Nat.sub_self, cfg.indent_zero, String.empty_append]
  rw [codeRun_cons, hclose, ← ht, codeRun_cons, hbrace]
  rfl

/-- With the wrapper kept, the body comes out between its lines, one level further to the right. -/
theorem codeRun_wrapped (h : cfg.DefaultMarkers) (w : WrappedSource cfg)
    (hshown : codeElisions cfg {} (w.body.map trim) = [])
    (hdepth : (codeRun cfg {} (w.body.map trim)).1.depth = 0)
    (hswitch : (codeRun cfg {} (w.body.map trim)).1.inSwitch = false) :
    (codeRun cfg {} ("int main(void) \x7b" :: (w.body.map trim ++ ["return 0;", "\x7d"]))).2 =
      "int main(void) \x7b" :: w.shown.map (cfg.indentLine 1) ++
        [cfg.indent 1 ++ "return 0;", "\x7d"] := by
  -- behind the body nothing is left but that level
  have hlevels : (codeRun cfg {} (w.body.map trim)).1.clauseLevels = 0 := by
    have hstart : State.Consistent {} := consistent_start .comment
    exact (hstart.codeRun rfl _).clauseLevels_eq_zero hswitch
  have hblanks : (codeRun cfg {} (w.body.map trim)).1.blanks = {} := by
    refine blanks_codeRun rfl hshown ?_
    rw [List.getLast?_map]
    intro line hline
    obtain ⟨raw, hraw, rfl⟩ := Option.map_eq_some_iff.mp hline
    exact w.body_text raw hraw
  have hdepth' : ((codeRun cfg {} (w.body.map trim)).1.deeper 1).depth = 1 :=
    congrArg (1 + ·) hdepth
  have hclose := codeRun_entryClose h hdepth' hswitch hlevels hblanks
  rw [codeRun_cons, codeLine_entryOpen h, codeRun_append, codeRun_deeper cfg 1 hshown, hclose]
  rfl

/-! ### The document -/

/-- A marker without a space ends a heading only if it ends the text of the heading. -/
theorem Text.endsWith_heading {marker text : String} (hspace : ' ' ∉ marker.toList)
    (h : endsWith ("### " ++ text) marker = true) : endsWith text marker = true := by
  have hlist : ("### " ++ text).toList = ['#', '#', '#'] ++ ' ' :: text.toList := by
    rw [String.toList_append]
    rfl
  rw [endsWith, List.isSuffixOf_iff_suffix] at h ⊢
  rw [hlist] at h
  -- a marker that reaches further than the text takes in the space before it
  have hbehind : ' ' :: text.toList <:+ ['#', '#', '#'] ++ ' ' :: text.toList :=
    List.suffix_append _ _
  rcases List.suffix_or_suffix_of_suffix h hbehind with hmarker | hmarker
  · rcases List.suffix_cons_iff.mp hmarker with heq | hmarker
    · exact absurd (heq ▸ List.mem_cons_self ..) hspace
    · exact hmarker
  · exact absurd (hmarker.subset (List.mem_cons_self ..)) hspace

/-- The heading of a source ends a comment only if its title does. -/
theorem heading_closesComment (h : cfg.DefaultMarkers) {title : String}
    (htitle : cfg.closesComment (trim title) = false) :
    cfg.closesComment (trim ("### " ++ trim title)) = false := by
  rw [h.closesComment] at htitle ⊢
  by_cases hempty : trim title = ""
  -- the heading is trimmed to its three signs
  · rw [hempty]
    decide
  · rw [Text.trim_append_trim (c := '#') (by decide) (by decide) hempty]
    by_contra hends
    have htext := Text.endsWith_heading (by decide) (Bool.not_eq_false _ ▸ hends)
    exact absurd (htitle.symm.trans htext) (by decide)

theorem map_render_text (lines : List String) :
    (lines.map .text).map (Piece.render cfg) = lines := by
  rw [List.map_map]
  exact List.map_id lines

namespace WrappedSource

variable (keep : Bool)

theorem role_first (h : cfg.DefaultMarkers) (w : WrappedSource cfg) :
    role (cfg.wrapping keep) Opening.comment.start (trim w.first) = .opener := by
  rw [w.trim_first]
  exact role_eq_opener_iff.mpr ⟨h.elides_wrapping _ keep (by decide), rfl,
    (h.closesComment _).trans (by decide), rfl, (h.opensComment _).trans (by decide)⟩

theorem endsComment_last (h : cfg.DefaultMarkers) (w : WrappedSource cfg) :
    (cfg.wrapping keep).endsComment w.last = true := by
  have hcloses : (cfg.wrapping keep).closesComment "*/" = true :=
    (h.closesComment _).trans (by decide)
  rw [Settings.endsComment, w.trim_last, h.elides_wrapping _ keep (by decide), hcloses]
  rfl

theorem endsComment_comment (h : cfg.DefaultMarkers) (w : WrappedSource cfg) :
    ∀ raw ∈ w.comment, (cfg.wrapping keep).endsComment raw = false := by
  intro raw hraw
  have hcloses : (cfg.wrapping keep).closesComment (trim raw) = false := by
    rcases List.mem_cons.mp hraw with rfl | hraw
    · exact heading_closesComment h w.title_closesComment
    · exact w.prose_closesComment raw hraw
  rw [Settings.endsComment, hcloses, Bool.and_false]

end WrappedSource

/-- The document of a source that is one entry point, from the lines in its block. -/
theorem convert_wrappedSource (h : cfg.DefaultMarkers) (w : WrappedSource cfg) (keep : Bool)
    {block : List String} (hblock : w.behind.dropWhile (cfg.wrapping keep).leadsBlock = block)
    (hplain : ∀ raw ∈ block, cfg.opensComment (trim raw) = false ∧
      cfg.closesComment (trim raw) = false) :
    convert (cfg.wrapping keep) w.lines =
      .ok ⟨proseOf (cfg.wrapping keep) w.comment ++ ["", cfg.fenceOpen] ++
        (codeRun cfg {} ((cfg.wrapping keep).kept block)).2 ++ [cfg.fence, ""]⟩ := by
  have hprimed : primeHeader (cfg.wrapping keep) w.lines =
      .ok (.comment, w.first :: (w.comment ++ w.last :: w.behind)) :=
    primeHeader_of_title w.title_lineComment
  -- behind the lines that lead the block no line begins or ends a comment
  have hcode : ∀ raw ∈ w.behind.dropWhile (cfg.wrapping keep).leadsBlock,
      (cfg.wrapping keep).beginsComment raw = false ∧
        (cfg.wrapping keep).endsComment raw = false := by
    intro raw hraw
    obtain ⟨hopens, hcloses⟩ := hplain raw (hblock ▸ hraw)
    have hopens' : (cfg.wrapping keep).opensComment (trim raw) = false := hopens
    have hcloses' : (cfg.wrapping keep).closesComment (trim raw) = false := hcloses
    rw [Settings.beginsComment, Settings.endsComment, hopens', hcloses', Bool.and_false]
    exact ⟨rfl, rfl⟩
  rw [convert_of_primed hprimed,
    weave_of_one_comment (w.role_first keep h) (w.endsComment_comment keep h)
      (w.endsComment_last keep h) hcode,
    hblock, codeRun_wrapping]
  simp only [List.map_append, map_render_text, List.append_assoc]
  rfl

/-- A source that is one entry point, whose body leaves no brace out and ends on the outermost
    level, outside a switch: without the wrapper its block is what the body comes out as, and with
    the wrapper the body stands one level further to the right, between the lines of the wrapper. -/
theorem wrapper_toggle (h : cfg.DefaultMarkers) (w : WrappedSource cfg)
    (hshown : codeElisions cfg {} (w.body.map trim) = [])
    (hdepth : (codeRun cfg {} (w.body.map trim)).1.depth = 0)
    (hswitch : (codeRun cfg {} (w.body.map trim)).1.inSwitch = false) :
    convert (cfg.wrapping false) w.lines =
        .ok ⟨proseOf (cfg.wrapping false) w.comment ++ ["", cfg.fenceOpen] ++
          w.shown ++ [cfg.fence, ""]⟩ ∧
      convert (cfg.wrapping true) w.lines =
        .ok ⟨proseOf (cfg.wrapping true) w.comment ++ ["", cfg.fenceOpen] ++
          ("int main(void) \x7b" :: w.shown.map (cfg.indentLine 1) ++
            [cfg.indent 1 ++ "return 0;", "\x7d"]) ++ [cfg.fence, ""]⟩ := by
  -- without the wrapper the body stands alone; with it, one level deeper between its lines
  have hplain := w.plain_of_mem h
  constructor
  · rw [convert_wrappedSource h w false (w.dropWhile_leadsBlock_false h)
        fun raw hraw => hplain raw (List.mem_cons_of_mem _ hraw),
      w.kept_wrapping_false h, codeRun_body w hdepth hswitch]
  · rw [convert_wrappedSource h w true (w.dropWhile_leadsBlock_true h) hplain,
      kept_wrapping_true, w.trim_behind, codeRun_wrapped h w hshown hdepth hswitch]

/-- A source with a block and a switch in its entry point. -/
def shadowingSource : WrappedSource { indentWidth := 2, fenceInfo := "c" } where
  first := "/*"
  title := "Shadowing"
  prose := ["", "Example", "A block may declare x again."]
  last := "*/"
  padding := ["#include <stdio.h>", ""]
  entryOpen := "int main(void) \x7b"
  body := ["  int x = 0;", "  \x7b", "    int x = 1;", "  \x7d", "", "  switch (x) \x7b",
    "  case 0:", "    f();", "  \x7d"]
  entryClose := "  return 0;"
  brace := "\x7d"
  trim_first := by decide
  trim_last := by decide
  trim_entryOpen := by decide
  trim_entryClose := by decide
  trim_brace := by decide
  title_lineComment := by decide
  title_closesComment := by decide
  prose_closesComment := by decide
  padding_pads := by decide
  body_ne_nil := by decide
  body_pads := by decide
  body_text := by decide
  body_opensComment := by decide
  body_closesComment := by decide
  body_isEntryPoint := by decide

theorem wrapper_toggle_of_shadowing :
    shadowingSource.shown =
        ["int x = 0;", "\x7b", "  int x = 1;", "\x7d", "", "switch (x) \x7b", "case 0:",
          "  f();", "\x7d"] ∧
      convert (Settings.wrapping { indentWidth := 2, fenceInfo := "c" } false)
          shadowingSource.lines =
        .ok ⟨proseOf (Settings.wrapping { indentWidth := 2, fenceInfo := "c" } false)
              shadowingSource.comment ++ ["", "```c"] ++ shadowingSource.shown ++ ["```", ""]⟩ ∧
      convert (Settings.wrapping { indentWidth := 2, fenceInfo := "c" } true)
          shadowingSource.lines =
        .ok ⟨proseOf (Settings.wrapping { indentWidth := 2, fenceInfo := "c" } true)
              shadowingSource.comment ++ ["", "```c"] ++
            ("int main(void) \x7b" ::
              shadowingSource.shown.map
                (Settings.indentLine { indentWidth := 2, fenceInfo := "c" } 1) ++
              ["  return 0;", "\x7d"]) ++ ["```", ""]⟩ := by
  have hdefault : Settings.DefaultMarkers { indentWidth := 2, fenceInfo := "c" } := by
    intro m
    cases m <;> rfl
  refine ⟨by decide +kernel, ?_⟩
  exact wrapper_toggle hdefault shadowingSource (by decide +kernel) (by decide +kernel)
    (by decide +kernel)

end SourceWeaver
