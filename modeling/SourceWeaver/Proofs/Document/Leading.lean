/-
  How a block begins behind a comment.

  Blank lines right behind a comment are dropped, but only up to the first other line.  If that line
  is a brace that is left out, a blank line behind it is held back like any other, and comes out in
  front of the first line that is shown: the block begins with an empty line.  `bareLines` are the
  lines at the beginning of a block that are blank or left out.  A block begins with an empty line
  exactly if one of them is blank and a line of code follows them (`begins_blank_iff`).
-/

import SourceWeaver.Proofs.Scan.Accounting
import SourceWeaver.Proofs.Document.Priming

namespace SourceWeaver.Scan

open Text

variable {cfg : Settings} {s : State} {raw line : String} {code : List String}

/-! ## Lines that are not shown -/

/-- Whether an opening brace is pending behind a line of code that is met outside a switch and
    outside blocks, from whether one is pending in front of it.  It is `none` if the line is
    shown. -/
def pendingBehind? (pending : Bool) (line : String) : Option Bool :=
  if line = "" then some pending
  else if closesBlock line then some true
  else if pending && line == "\x7b" then some false
  else none

/-- The lines at the beginning of some code outside a switch and outside blocks that are blank or
    left out: closing braces, and bare opening braces right behind one. -/
def bareLines (pending : Bool) : List String → List String
  | [] => []
  | line :: rest =>
    match pendingBehind? pending line with
    | some next => line :: bareLines next rest
    | none => []

theorem bareLines_cons_of_some {pending next : Bool} (h : pendingBehind? pending line = some next)
    (rest : List String) : bareLines pending (line :: rest) = line :: bareLines next rest := by
  rw [bareLines, h]

theorem bareLines_cons_of_none {pending : Bool} (h : pendingBehind? pending line = none)
    (rest : List String) : bareLines pending (line :: rest) = [] := by
  rw [bareLines, h]

/-- The same state with more blanks held back, behind a closing brace that was left out or not. -/
def State.behindBare (s : State) (pending : Bool) (blanks : Nat) : State :=
  { s with pendingOpener := pending, blanks := ⟨s.blanks.held + blanks⟩ }

theorem State.behindBare_behindBare (s : State) (p q : Bool) (m n : Nat) :
    (s.behindBare p m).behindBare q n = s.behindBare q (m + n) := by
  simp only [behindBare, Nat.add_assoc]

section Outside

variable (hswitch : s.inSwitch = false) (hdepth : s.depth = 0)

include hswitch hdepth

/-- A bare line comes out as nothing; if it is blank it is held back. -/
theorem codeLine_of_bare (cfg : Settings) {next : Bool}
    (h : pendingBehind? s.pendingOpener line = some next) :
    codeLine cfg s line = (s.behindBare next ([line].count ""), []) := by
  rw [State.behindBare]
  -- the three kinds of bare lines: a blank one, a closing brace and an opening brace behind one
  by_cases hline : line = ""
  · subst hline
    obtain rfl : s.pendingOpener = next := Option.some.inj h
    rw [codeLine_of_blank]
    rfl
  · rw [pendingBehind?, if_neg hline] at h
    rw [List.count_singleton, if_neg (by simpa using hline), Nat.add_zero]
    by_cases hcloses : closesBlock line = true
    · rw [if_pos hcloses] at h
      obtain rfl : true = next := Option.some.inj h
      exact codeLine_closer (elision?_eq_closer_iff.mpr ⟨hcloses, hswitch, hdepth⟩)
    · rw [if_neg hcloses, Option.ite_none_right_eq_some] at h
      obtain ⟨hopener, hnext⟩ := h
      obtain rfl : false = next := Option.some.inj hnext
      exact codeLine_opener (elision?_eq_opener_iff.mpr (by simpa using hopener))

omit hswitch hdepth in
/-- A line that is not bare is shown. -/
theorem elision?_of_not_bare (h : pendingBehind? s.pendingOpener line = none) :
    line ≠ "" ∧ elision? s line = none := by
  unfold pendingBehind? at h
  unfold elision?
  grind

/-- Outside a switch and outside blocks, code begins with bare lines, of which nothing is left but
    the blanks that are held back, and goes on with a line that is shown. -/
theorem codeRun_bareLines (cfg : Settings) (code : List String) :
    ∃ pending rest, code = bareLines s.pendingOpener code ++ rest ∧
      codeRun cfg s code =
        codeRun cfg (s.behindBare pending ((bareLines s.pendingOpener code).count "")) rest ∧
      ∀ line ∈ rest.head?,
        line ≠ "" ∧ elision? { s with pendingOpener := pending } line = none := by
  induction code generalizing s with
  | nil => exact ⟨s.pendingOpener, [], rfl, rfl, by simp⟩
  | cons line code ih =>
    cases hbare : pendingBehind? s.pendingOpener line with
    -- the first line that is not bare stops both
    | none =>
      rw [bareLines_cons_of_none hbare]
      refine ⟨s.pendingOpener, line :: code, rfl, rfl, ?_⟩
      intro first hfirst
      obtain rfl : line = first := Option.some.inj hfirst
      exact elision?_of_not_bare hbare
    | some next =>
      obtain ⟨pending, rest, hsplit, hrun, hrest⟩ :=
        ih (s := s.behindBare next ([line].count "")) hswitch hdepth
      -- the blanks of the bare lines add up
      have hcount : (line :: bareLines next code).count "" =
          [line].count "" + (bareLines next code).count "" := by
        rw [← List.singleton_append, List.count_append]
      rw [bareLines_cons_of_some hbare]
      refine ⟨pending, rest, congrArg _ hsplit, ?_, hrest⟩
      rw [codeRun_cons, codeLine_of_bare hswitch hdepth cfg hbare, List.nil_append, hrun,
        State.behindBare_behindBare, hcount]
      rfl

end Outside

/-! ## The first line of a block -/

/-- Whether some code outside blocks begins with an empty line in the document: outside a switch, a
    blank line stands among its bare lines, and a line that is shown follows them. -/
def BeginsBlank (s : State) (code : List String) : Prop :=
  s.inSwitch = false ∧ "" ∈ bareLines s.pendingOpener code ∧ bareLines s.pendingOpener code ≠ code

/-- Whether a block begins blank can be told from its lines. -/
instance (s : State) (code : List String) : Decidable (BeginsBlank s code) :=
  inferInstanceAs (Decidable (_ ∧ _ ∧ _))

/-- What comes out first for code whose first line is shown. -/
theorem codeRun_of_shown (cfg : Settings) (hline : line ≠ "") (hshown : elision? s line = none)
    (rest : List String) :
    ∃ level more, (codeRun cfg s (line :: rest)).2 =
      s.blanks.lines ++ (cfg.indent level ++ line) :: more := by
  rw [codeRun_cons, codeLine_text hshown hline, List.append_assoc, List.singleton_append]
  exact ⟨_, _, rfl⟩

/-- Code whose first line is shown begins with that line if no blanks are held back. -/
theorem codeRun_begins_shown (cfg : Settings) (hblanks : s.blanks.held = 0)
    (hfirst : ∀ line ∈ code.head?, line ≠ "" ∧ elision? s line = none) :
    (codeRun cfg s code).2 = [] ∨
      ∃ level more, ∃ line ∈ code, line ≠ "" ∧
        (codeRun cfg s code).2 = (cfg.indent level ++ line) :: more := by
  cases code with
  | nil => exact .inl rfl
  | cons line rest =>
    obtain ⟨hline, hshown⟩ := hfirst line rfl
    obtain ⟨level, more, hout⟩ := codeRun_of_shown cfg hline hshown rest
    rw [Blanks.lines, hblanks] at hout
    exact .inr ⟨level, more, line, List.mem_cons_self .., hline, hout⟩

/-- In a switch no line of code is left out. -/
theorem State.Consistent.elision?_of_inSwitch (h : s.Consistent) (hswitch : s.inSwitch = true)
    (line : String) : elision? s line = none := by
  have hpending : s.pendingOpener = false := by
    by_contra hp
    have hout := (h.pendingOpener (by simpa using hp)).1
    exact absurd (hswitch.symm.trans hout) (by decide)
  simp [elision?, hswitch, hpending]

/-- What comes out first for code behind a comment: an empty line if it begins with one, and
    otherwise a line with text, if anything. -/
theorem codeRun_begins (cfg : Settings) (hs : s.Consistent) (hdepth : s.depth = 0)
    (hblanks : s.blanks.held = 0) (hfirst : ∀ line ∈ code.head?, line ≠ "") :
    (BeginsBlank s code ∧ ∃ more, (codeRun cfg s code).2 = "" :: more) ∨
      ¬BeginsBlank s code ∧ ((codeRun cfg s code).2 = [] ∨
        ∃ level more, ∃ line ∈ code, line ≠ "" ∧
          (codeRun cfg s code).2 = (cfg.indent level ++ line) :: more) := by
  cases hswitch : s.inSwitch with
  | true =>
    refine .inr ⟨fun h => absurd (hswitch.symm.trans h.1) (by decide), ?_⟩
    exact codeRun_begins_shown cfg hblanks fun line hline =>
      ⟨hfirst line hline, hs.elision?_of_inSwitch hswitch line⟩
  | false =>
    obtain ⟨pending, rest, hsplit, hrun, hrest⟩ := codeRun_bareLines hswitch hdepth cfg code
    rw [hrun]
    by_cases hblank : "" ∈ bareLines s.pendingOpener code
    · cases rest with
      | nil =>
        -- the code is bare as a whole, and nothing of it is shown
        rw [List.append_nil] at hsplit
        exact .inr ⟨fun h => h.2.2 hsplit.symm, .inl rfl⟩
      | cons line rest =>
        obtain ⟨hline, hshown⟩ := hrest line rfl
        have hne : bareLines s.pendingOpener code ≠ code := by
          intro heq
          rw [heq] at hsplit
          simp at hsplit
        obtain ⟨n, hn⟩ := Nat.exists_eq_succ_of_ne_zero (List.count_pos_iff.mpr hblank).ne'
        obtain ⟨level, more, hout⟩ := codeRun_of_shown cfg
          (s := s.behindBare pending ((bareLines s.pendingOpener code).count "")) hline hshown rest
        rw [hout, State.behindBare, Blanks.lines, hblanks, Nat.zero_add, hn]
        exact .inl ⟨⟨hswitch, hblank, hne⟩, _, rfl⟩
    · refine .inr ⟨fun h => hblank h.2.1, ?_⟩
      rw [List.count_eq_zero.mpr hblank]
      rcases codeRun_begins_shown (s := s.behindBare pending 0) cfg hblanks hrest with
        hout | ⟨level, more, line, hmem, hline, hout⟩
      · exact .inl hout
      · rw [hsplit]
        exact .inr ⟨level, more, line, List.mem_append_right _ hmem, hline, hout⟩

/-! ## Documents -/

/-- The trimmed lines of the block behind the end of a comment: without those that are dropped right
    behind it, and up to the next comment. -/
def blockBehind (cfg : Settings) (behind : List String) : List String :=
  cfg.kept (upTo cfg.beginsComment (behind.dropWhile cfg.leadsBlock))

/-- Blank lines right behind a comment do not reach the block. -/
theorem head_blockBehind (cfg : Settings) (behind : List String) :
    ∀ line ∈ (blockBehind cfg behind).head?, line ≠ "" := by
  intro line hline
  rw [blockBehind] at hline
  have hhead := List.head?_dropWhile_not cfg.leadsBlock behind
  -- the lines that lead the block are gone, so the first line that is left has text
  cases hrest : behind.dropWhile cfg.leadsBlock with
  | nil =>
    rw [hrest] at hline
    cases hline
  | cons raw rest =>
    rw [hrest] at hline hhead
    obtain ⟨helides, hpads⟩ : cfg.elides (trim raw) = false ∧ cfg.pads (trim raw) = false := by
      simpa [Settings.leadsBlock] using hhead
    cases hbegins : cfg.beginsComment raw with
    | true =>
      rw [upTo, List.takeWhile_cons_of_neg (by simp [hbegins])] at hline
      cases hline
    | false =>
      rw [upTo, List.takeWhile_cons_of_pos (by simp [hbegins]), Settings.kept_cons helides] at hline
      obtain rfl : trim raw = line := Option.some.inj hline
      rintro hempty
      rw [hempty] at hpads
      cases hpads

/-- A line that ends a comment is met inside one. -/
theorem withinComment_of_closer {opening : Opening} {before behind : List String}
    (hclosers : ClosersEndComments cfg opening.start (before ++ raw :: behind))
    (hrole : role cfg (run cfg opening.start before).1 (trim raw) = .closer) :
    (run cfg opening.start before).1.WithinComment := by
  have hin : (run cfg opening.start before).1.inComment = true :=
    hclosers _ (mem_visits_iff.mpr ⟨before, raw, behind, rfl, rfl⟩) hrole
  have hs : (run cfg opening.start before).1.Consistent := (consistent_start opening).run before
  refine ⟨hin, hs.inComment hin, ?_, ?_⟩
  -- in a state that skips lines there is no comment to end
  · by_contra hskip
    have hout := (hs.skipping (by simpa using hskip)).1
    exact absurd (hin.symm.trans hout) (by decide)
  · rw [run_index]
    -- a source does not begin within a comment, so some line has been read
    cases before with
    | nil => exact absurd hin Bool.false_ne_true
    | cons first rest => exact Nat.add_pos_right _ (Nat.succ_pos _)

/-- What a comment leaves of a consistent state is consistent. -/
theorem State.Consistent.behindComment (h : s.Consistent) : s.behindComment.Consistent :=
  ⟨fun hs => absurd hs Bool.false_ne_true, fun hs => absurd hs Bool.false_ne_true,
    h.clauseLevels_le, h.clauseLevels, fun hp => ⟨(h.pendingOpener hp).1, rfl⟩⟩

/-- Behind the fence that opens a block comes an empty line if the block begins with one, and
    otherwise a line of code with text or the fence that closes the block. -/
theorem piecesFrom_begins (hv : cfg.Valid) (hs : s.WithinComment) (hconsistent : s.Consistent)
    {behind : List String} (hraw : cfg.endsComment raw = true)
    (hclosers : ClosersEndComments cfg s (raw :: behind)) :
    ∃ piece more, piecesFrom cfg s (raw :: behind) = [.text "", .opening] ++ piece :: more ∧
      (piece.render cfg = "" ↔ BeginsBlank s (blockBehind cfg behind)) ∧
      (piece.render cfg ≠ "" → piece = .closing ∨ ∃ level, ∃ line ∈ blockBehind cfg behind,
        line ≠ "" ∧ piece = .text (cfg.indent level ++ line)) := by
  -- the end of the comment and its fence come first, then the block behind it
  obtain ⟨s', hs', hnesting, hclosers', hend⟩ :=
    piecesFrom_comment_end hs (fun raw h => absurd h List.not_mem_nil) hraw hclosers
  obtain ⟨next, -, -, -, hblock⟩ := piecesFrom_block hs' hclosers'
  rw [hnesting, ← blockBehind] at hblock
  have hpieces := hend.trans (congrArg _ hblock)
  have hcode := codeRun_begins cfg hconsistent.behindComment rfl rfl
    (head_blockBehind cfg behind)
  have hbegins : BeginsBlank s.behindComment (blockBehind cfg behind) ↔
      BeginsBlank s (blockBehind cfg behind) := Iff.rfl
  rw [hbegins] at hcode
  -- the block begins blank, has no line at all, or begins with a line of code
  rcases hcode with ⟨hblank, more, hout⟩ | ⟨hblank, hout | ⟨level, more, line, hmem, hline, hout⟩⟩
  · rw [hout] at hpieces
    exact ⟨.text "", _, hpieces, iff_of_true rfl hblank, fun h => absurd rfl h⟩
  · rw [hout] at hpieces
    exact ⟨.closing, _, hpieces, iff_of_false hv.fence_ne_empty hblank, fun _ => .inl rfl⟩
  · rw [hout] at hpieces
    exact ⟨.text (cfg.indent level ++ line), _, hpieces,
      iff_of_false (indent_append_ne_empty hline level) hblank,
      fun _ => .inr ⟨level, line, hmem, hline, rfl⟩⟩

/-- Every source of at least two lines has a document.  If every line that ends a comment is met
    inside one, then behind the fence that such a line emits comes an empty line if and only if the
    block begins with a brace that is left out, a blank line behind it and a line of code behind
    both; otherwise it is a line of code with text, or the fence that closes the block. -/
theorem begins_blank_iff (hv : cfg.Valid) {lines : List String} (hlen : 2 ≤ lines.length) :
    ∃ opening primed,
      primeHeader cfg lines = .ok (opening, primed) ∧
      convert cfg lines = .ok ⟨(weave cfg opening primed).map (Piece.render cfg)⟩ ∧
      (ClosersEndComments cfg opening.start primed →
        ∀ before raw behind, primed = before ++ raw :: behind →
          role cfg (run cfg opening.start before).1 (trim raw) = .closer →
            ∃ piece more,
              weave cfg opening primed =
                (run cfg opening.start before).2 ++ ([.text "", .opening] ++ piece :: more) ∧
              (piece.render cfg = "" ↔
                BeginsBlank (run cfg opening.start before).1 (blockBehind cfg behind)) ∧
              (piece.render cfg ≠ "" →
                piece = .closing ∨ ∃ level, ∃ line ∈ blockBehind cfg behind,
                  line ≠ "" ∧ piece = .text (cfg.indent level ++ line))) := by
  obtain ⟨opening, first, rest, hprimed, -⟩ := exists_primed cfg hlen
  refine ⟨opening, first :: rest, hprimed, convert_of_primed hprimed, ?_⟩
  intro hclosers before raw behind hsplit hrole
  rw [hsplit] at hclosers ⊢
  obtain ⟨he, -, hcloses⟩ := role_eq_closer_iff.mp hrole
  -- a line that ends a comment in its state does so by its text
  have hraw : cfg.endsComment raw = true := by
    rw [Settings.endsComment, he, hcloses]
    rfl
  obtain ⟨piece, more, hpieces, hbegins⟩ := piecesFrom_begins hv
    (withinComment_of_closer hclosers hrole) ((consistent_start opening).run before) hraw
    (closersEndComments_append.mp hclosers).2
  refine ⟨piece, more, ?_, hbegins⟩
  rw [weave_eq, piecesFrom_append, hpieces]

/-- A brace that is left out, with no blank line between it and the code behind it. -/
theorem begins_with_code :
    Settings.Valid {} ∧ 2 ≤ ["/*", "T", "*/", "", "\x7d", "x;", "", "y;"].length ∧
      ClosersEndComments {} Opening.comment.start
        ["/*", "### T", "*/", "", "\x7d", "x;", "", "y;"] ∧
      role {} (run {} Opening.comment.start ["/*", "### T"]).1 (trim "*/") = .closer ∧
      ∃ piece more,
        weave {} .comment ["/*", "### T", "*/", "", "\x7d", "x;", "", "y;"] =
          (run {} Opening.comment.start ["/*", "### T"]).2 ++
            ([.text "", .opening] ++ piece :: more) ∧
        piece.render {} ≠ "" := by
  have hv : Settings.Valid {} := Settings.valid_default
  have hlen : 2 ≤ ["/*", "T", "*/", "", "\x7d", "x;", "", "y;"].length := by decide
  have hclosers : ClosersEndComments {} Opening.comment.start
      ["/*", "### T", "*/", "", "\x7d", "x;", "", "y;"] := by decide +kernel
  have hrole : role {} (run {} Opening.comment.start ["/*", "### T"]).1 (trim "*/") = .closer := by
    decide +kernel
  -- the elided brace clears the flag, and the blank line behind it is kept
  have hcode : ¬BeginsBlank (run {} Opening.comment.start ["/*", "### T"]).1
      (blockBehind {} ["", "\x7d", "x;", "", "y;"]) := by decide +kernel
  obtain ⟨opening, primed, hprimed, -, hbegins⟩ := begins_blank_iff hv hlen
  have hcomment : primeHeader {} ["/*", "T", "*/", "", "\x7d", "x;", "", "y;"] =
      .ok (.comment, ["/*", "### T", "*/", "", "\x7d", "x;", "", "y;"]) := by rfl
  rw [hcomment] at hprimed
  cases hprimed
  obtain ⟨piece, more, hweave, hblank, -⟩ := hbegins hclosers ["/*", "### T"] "*/"
    ["", "\x7d", "x;", "", "y;"] rfl hrole
  exact ⟨hv, hlen, hclosers, hrole, piece, more, hweave, fun h => hcode (hblank.mp h)⟩

/-- A closing brace that is left out, right behind a comment, brings the blank line behind it to the
    beginning of the block. -/
theorem begins_with_blank :
    Settings.Valid {} ∧
      primeHeader {} ["/*", "T", "*/", "\x7d", "", "x;"] =
        .ok (.comment, ["/*", "### T", "*/", "\x7d", "", "x;"]) ∧
      ClosersEndComments {} Opening.comment.start ["/*", "### T", "*/", "\x7d", "", "x;"] ∧
      weave {} .comment ["/*", "### T", "*/", "\x7d", "", "x;"] =
        [.text "### T", .text "", .opening, .text "", .text "x;", .closing, .text ""] := by
  exact ⟨rfl, rfl, by decide +kernel, by decide +kernel⟩

end SourceWeaver.Scan
