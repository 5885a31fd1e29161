/-
  Scanning a passage at a time.

  A passage is a stretch of lines that a scan treats alike: the prose of a comment (`run_prose`),
  the blank lines and include lines right behind it (`piecesFrom_skipping`), and the code up to the
  next comment (`run_code`).  What is emitted for a passage of code depends on its kept lines and
  on the nesting alone, and is given by `codeRun`.  Together, `piecesFrom_comment_end` and
  `piecesFrom_block` take a scan from the inside of one comment to the inside of the next.
-/

import SourceWeaver.Proofs.Scan.Visits

namespace SourceWeaver

open Text

namespace Settings

/-! ## Where passages end -/

/-- A line as it stands in the source that ends a comment. -/
def endsComment (cfg : Settings) (raw : String) : Bool :=
  !cfg.elides (trim raw) && cfg.closesComment (trim raw)

/-- A line as it stands in the source that begins a comment, where none is open. -/
def beginsComment (cfg : Settings) (raw : String) : Bool :=
  !cfg.elides (trim raw) && cfg.opensComment (trim raw)

/-- A line as it stands in the source that leaves nothing at the beginning of a block. -/
def leadsBlock (cfg : Settings) (raw : String) : Bool :=
  cfg.elides (trim raw) || cfg.pads (trim raw)

end Settings

namespace Scan

variable {cfg : Settings} {s : State} {raw : String}

/-- The lines before the first one with a property. -/
def upTo (p : String → Bool) (lines : List String) : List String :=
  lines.takeWhile fun raw => !p raw

/-- The first line with a property and all lines behind it. -/
def onward (p : String → Bool) (lines : List String) : List String :=
  lines.dropWhile fun raw => !p raw

theorem upTo_append_onward (p : String → Bool) (lines : List String) :
    upTo p lines ++ onward p lines = lines :=
  List.takeWhile_append_dropWhile

theorem of_mem_upTo {p : String → Bool} {lines : List String} :
    ∀ raw ∈ upTo p lines, p raw = false := by
  intro raw hraw
  have hall := List.all_eq_true.mp List.all_takeWhile raw hraw
  simpa using hall

theorem of_onward_eq_cons {p : String → Bool} {lines rest : List String}
    (h : onward p lines = raw :: rest) : p raw = true := by
  have hhead := List.head?_dropWhile_not (fun raw => !p raw) lines
  rw [show lines.dropWhile (fun raw => !p raw) = raw :: rest from h] at hhead
  simpa using hhead

theorem length_onward_le (p : String → Bool) (lines : List String) :
    (onward p lines).length ≤ lines.length :=
  (List.dropWhile_sublist _).length_le

/-! ## Where a scan may be -/

/-- Inside a comment, behind the first line. -/
structure State.WithinComment (s : State) : Prop where
  inComment : s.inComment = true
  blockOpen : s.blockOpen = false
  skipping : s.skipping = false
  index_pos : 0 < s.index

/-- Inside a block of code, behind the first line, with nothing left to skip. -/
structure State.WithinBlock (s : State) : Prop where
  inComment : s.inComment = false
  blockOpen : s.blockOpen = true
  skipping : s.skipping = false
  index_pos : 0 < s.index

theorem pads_of_not_skipping {line : String} (h : s.skipping = false) :
    (s.skipping && cfg.pads line) = false := by
  rw [h, Bool.false_and]

theorem State.WithinBlock.next (h : s.WithinBlock) : s.next.WithinBlock :=
  ⟨h.inComment, h.blockOpen, h.skipping, Nat.succ_pos _⟩

theorem State.WithinBlock.afterCode (h : s.WithinBlock) (line : String) :
    (codeLine cfg s line).1.WithinBlock := by
  refine ⟨codeLine_inComment.trans h.inComment, codeLine_blockOpen.trans h.blockOpen,
    codeLine_skipping.trans h.skipping, ?_⟩
  rw [codeLine_index]
  exact h.index_pos

theorem State.WithinComment.next (h : s.WithinComment) : s.next.WithinComment :=
  ⟨h.inComment, h.blockOpen, h.skipping, Nat.succ_pos _⟩

theorem withinComment_openComment (s : State) : s.next.openComment.WithinComment :=
  ⟨rfl, rfl, rfl, Nat.succ_pos _⟩

/-- What a comment leaves of the code before it: a switch that is still open, and a pending opener. -/
def State.behindComment (s : State) : State :=
  { inSwitch := s.inSwitch, clauseLevels := s.clauseLevels, pendingOpener := s.pendingOpener }

/-- Every line that ends a comment is met inside a comment. -/
def ClosersEndComments (cfg : Settings) (s : State) (lines : List String) : Prop :=
  ∀ v ∈ visits cfg s lines, v.role cfg = .closer → v.state.inComment = true

/-- A scan visits finitely many lines. -/
instance (cfg : Settings) (s : State) (lines : List String) :
    Decidable (ClosersEndComments cfg s lines) :=
  inferInstanceAs (Decidable (∀ v ∈ visits cfg s lines, _))

theorem closersEndComments_cons {rest : List String} :
    ClosersEndComments cfg s (raw :: rest) ↔
      (role cfg s (trim raw) = .closer → s.inComment = true) ∧
        ClosersEndComments cfg (step cfg s raw).1 rest := by
  rw [ClosersEndComments, visits_cons, List.forall_mem_cons]
  rfl

theorem closersEndComments_append {a b : List String} :
    ClosersEndComments cfg s (a ++ b) ↔
      ClosersEndComments cfg s a ∧ ClosersEndComments cfg (run cfg s a).1 b := by
  rw [ClosersEndComments, visits_append, List.forall_mem_append]
  rfl

/-- Where no line ends a comment, none ends one outside. -/
theorem closersEndComments_of_no_end {lines : List String}
    (h : ∀ raw ∈ lines, cfg.endsComment raw = false) : ClosersEndComments cfg s lines := by
  intro v hv hr
  obtain ⟨pre, raw, post, rfl, rfl⟩ := mem_visits_iff.mp hv
  obtain ⟨he, -, hcloses⟩ := role_eq_closer_iff.mp hr
  have hends : cfg.endsComment raw = true := by
    rw [Settings.endsComment, he, hcloses]
    rfl
  exact absurd ((h raw (by simp)).symm.trans hends) (by decide)

/-! ## Prose -/

/-- What the body of a comment comes out as. -/
def proseOf (cfg : Settings) (body : List String) : List String :=
  (cfg.kept body).flatMap (proseLines cfg)

theorem proseOf_cons_of_elides (h : cfg.elides (trim raw) = true) (rest : List String) :
    proseOf cfg (raw :: rest) = proseOf cfg rest := by
  rw [proseOf, Settings.kept_cons_of_elides h, proseOf]

theorem proseOf_cons (h : cfg.elides (trim raw) = false) (rest : List String) :
    proseOf cfg (raw :: rest) = proseLines cfg (trim raw) ++ proseOf cfg rest := by
  rw [proseOf, Settings.kept_cons h, List.flatMap_cons, proseOf]

/-- Inside a comment, a line that does not end it comes out as prose. -/
theorem State.WithinComment.step_prose (hs : s.WithinComment) (he : cfg.elides (trim raw) = false)
    (hends : cfg.endsComment raw = false) :
    step cfg s raw = (s.next, (proseLines cfg (trim raw)).map .text) := by
  have hcloses : cfg.closesComment (trim raw) = false := by
    simpa [Settings.endsComment, he] using hends
  have hrole : role cfg s (trim raw) = .prose :=
    role_eq_prose_iff.mpr ⟨he, pads_of_not_skipping hs.skipping, hcloses, hs.inComment⟩
  have hskip : { s.next with skipping := false } = s.next := by
    rw [← hs.skipping]
    rfl
  rw [step_of_prose hrole, hskip]

/-- Inside a comment, lines that do not end it come out as prose and change nothing else. -/
theorem run_prose (hs : s.WithinComment) {body : List String}
    (h : ∀ raw ∈ body, cfg.endsComment raw = false) :
    run cfg s body =
      ({ s with index := s.index + body.length }, (proseOf cfg body).map .text) := by
  induction body generalizing s with
  | nil => rfl
  | cons raw rest ih =>
    have hrest : ∀ raw ∈ rest, cfg.endsComment raw = false :=
      fun r hr => h r (List.mem_cons_of_mem _ hr)
    have hraw := h raw (List.mem_cons_self ..)
    have hindex : s.index + 1 + rest.length = s.index + (raw :: rest).length := by
      rw [List.length_cons]
      omega
    -- a line of the wrapper comes out as nothing, and any other as prose
    cases he : cfg.elides (trim raw) with
    | true =>
      rw [run_cons, step_of_wrapper (role_eq_wrapper_iff.mpr he), ih hs.next hrest,
        proseOf_cons_of_elides he, ← hindex]
      rfl
    | false =>
      rw [run_cons, hs.step_prose he hraw, ih hs.next hrest, proseOf_cons he, List.map_append,
        ← hindex]
      rfl

/-! ## Lines right behind a comment -/

/-- A line that does not belong to the beginning of a block is read as if nothing was skipped. -/
theorem step_of_not_leadsBlock (h : cfg.leadsBlock raw = false) :
    step cfg s raw = step cfg { s with skipping := false } raw := by
  simp only [Settings.leadsBlock, Bool.or_eq_false_iff] at h
  obtain ⟨helides, hpads⟩ := h
  -- the flag is read for blank lines and include lines alone
  have hrole : role cfg { s with skipping := false } (trim raw) = role cfg s (trim raw) := by
    show (if cfg.elides (trim raw) then _ else if false && cfg.pads (trim raw) then _ else _)
      = if cfg.elides (trim raw) then _ else if s.skipping && cfg.pads (trim raw) then _ else _
    rw [hpads, Bool.and_false, Bool.and_false]
  cases hr : role cfg s (trim raw) with
  | wrapper => exact absurd (helides.symm.trans (role_eq_wrapper_iff.mp hr)) (by decide)
  | skipped => exact absurd (hpads.symm.trans (role_eq_skipped_iff.mp hr).2.2) (by decide)
  | closer => rw [step_of_closer hr, step_of_closer (hrole.trans hr)]; rfl
  | prose => rw [step_of_prose hr, step_of_prose (hrole.trans hr)]; rfl
  | opener => rw [step_of_opener hr, step_of_opener (hrole.trans hr)]; rfl
  | code => rw [step_of_code hr, step_of_code (hrole.trans hr)]; rfl

/-- Right behind a comment, a line that leaves nothing at the beginning of the block is passed
    over, and ends no comment. -/
theorem step_of_leadsBlock (hskip : s.skipping = true) (h : cfg.leadsBlock raw = true) :
    step cfg s raw = (s.next, []) ∧ role cfg s (trim raw) ≠ .closer := by
  cases he : cfg.elides (trim raw) with
  | true =>
    have hr : role cfg s (trim raw) = .wrapper := role_eq_wrapper_iff.mpr he
    exact ⟨step_of_wrapper hr, fun hcloser => absurd (hr.symm.trans hcloser) (by decide)⟩
  | false =>
    have hpads : cfg.pads (trim raw) = true := by
      simpa [Settings.leadsBlock, he] using h
    have hr : role cfg s (trim raw) = .skipped := role_eq_skipped_iff.mpr ⟨he, hskip, hpads⟩
    exact ⟨step_of_skipped hr, fun hcloser => absurd (hr.symm.trans hcloser) (by decide)⟩

/-- Right behind a comment the lines at the beginning of the block are passed over, and the scan
    goes on from there with nothing but its place changed. -/
theorem piecesFrom_skipping (cfg : Settings) (hskip : s.skipping = true) (lines : List String) :
    ∃ i, s.index ≤ i ∧
      piecesFrom cfg s lines =
        piecesFrom cfg { s with skipping := false, index := i } (lines.dropWhile cfg.leadsBlock) ∧
      (ClosersEndComments cfg s lines →
        ClosersEndComments cfg { s with skipping := false, index := i }
          (lines.dropWhile cfg.leadsBlock)) := by
  induction lines generalizing s with
  | nil => exact ⟨s.index, Nat.le_refl _, rfl, fun _ v hv => absurd hv List.not_mem_nil⟩
  | cons raw rest ih =>
    cases hlead : cfg.leadsBlock raw with
    | true =>
      -- a wrapper line or a line that is skipped: nothing changes but the place
      obtain ⟨hstep, -⟩ := step_of_leadsBlock hskip hlead
      obtain ⟨i, hi, hpieces, hclosers⟩ := ih (s := s.next) hskip
      refine ⟨i, Nat.le_of_succ_le hi, ?_, ?_⟩
      · rw [piecesFrom_cons, hstep, List.dropWhile_cons_of_pos hlead]
        exact hpieces
      · intro hc
        rw [closersEndComments_cons, hstep] at hc
        rw [List.dropWhile_cons_of_pos hlead]
        exact hclosers hc.2
    | false =>
      -- the first line that is not passed over, from which on the flag plays no part
      refine ⟨s.index, Nat.le_refl _, ?_, ?_⟩
      · rw [List.dropWhile_cons_of_neg (by simp [hlead]), piecesFrom_cons, piecesFrom_cons,
          step_of_not_leadsBlock hlead]
      · intro hc
        rw [List.dropWhile_cons_of_neg (by simp [hlead])]
        rw [closersEndComments_cons, step_of_not_leadsBlock hlead] at hc
        refine closersEndComments_cons.mpr ⟨fun hr => hc.1 ?_, hc.2⟩
        obtain ⟨he, -, hcloses⟩ := role_eq_closer_iff.mp hr
        have hpads : cfg.pads (trim raw) = false := by
          simpa [Settings.leadsBlock, he] using hlead
        exact role_eq_closer_iff.mpr ⟨he, by rw [hpads, Bool.and_false], hcloses⟩

/-- Right behind a comment, the lines that are passed over end no comment. -/
theorem closersEndComments_of_skipping (hskip : s.skipping = true) {lines : List String}
    (h : ∀ raw ∈ lines.dropWhile cfg.leadsBlock, cfg.endsComment raw = false) :
    ClosersEndComments cfg s lines := by
  induction lines generalizing s with
  | nil => exact closersEndComments_of_no_end h
  | cons raw rest ih =>
    -- the lines that are skipped end no comment, and the rest is left to the hypothesis
    cases hlead : cfg.leadsBlock raw with
    | true =>
      obtain ⟨hstep, hrole⟩ := step_of_leadsBlock hskip hlead
      rw [List.dropWhile_cons_of_pos hlead] at h
      rw [closersEndComments_cons, hstep]
      exact ⟨fun hr => absurd hr hrole, ih (s := s.next) hskip h⟩
    | false =>
      rw [List.dropWhile_cons_of_neg (by simp [hlead])] at h
      exact closersEndComments_of_no_end h

/-! ## Code -/

/-- The state after some trimmed lines of code, and the lines that come out. -/
def codeRun (cfg : Settings) (s : State) : List String → State × List String
  | [] => (s, [])
  | line :: rest =>
    let (next, out) := codeLine cfg s line
    let (last, more) := codeRun cfg next rest
    (last, out ++ more)

theorem codeRun_cons (line : String) (rest : List String) :
    codeRun cfg s (line :: rest) =
      ((codeRun cfg (codeLine cfg s line).1 rest).1,
        (codeLine cfg s line).2 ++ (codeRun cfg (codeLine cfg s line).1 rest).2) := rfl

/-- In a block, no line that is left ends a comment. -/
theorem State.WithinBlock.closesComment (hs : s.WithinBlock) (he : cfg.elides (trim raw) = false)
    (hcloser : role cfg s (trim raw) = .closer → s.inComment = true) :
    cfg.closesComment (trim raw) = false := by
  cases hcloses : cfg.closesComment (trim raw) with
  | true =>
    have hopen : s.inComment = true :=
      hcloser (role_eq_closer_iff.mpr ⟨he, pads_of_not_skipping hs.skipping, hcloses⟩)
    exact absurd (hs.inComment.symm.trans hopen) (by decide)
  | false => rfl

/-- In a block, what is left is code if it neither begins a comment nor ends one outside. -/
theorem State.WithinBlock.role_eq_code (hs : s.WithinBlock) (he : cfg.elides (trim raw) = false)
    (hcloser : role cfg s (trim raw) = .closer → s.inComment = true)
    (hbegins : cfg.beginsComment raw = false) : role cfg s (trim raw) = .code := by
  have hopens : cfg.opensComment (trim raw) = false := by
    simpa [Settings.beginsComment, he] using hbegins
  exact role_eq_code_iff.mpr
    ⟨he, pads_of_not_skipping hs.skipping, hs.closesComment he hcloser, hs.inComment, hopens⟩

theorem State.WithinBlock.step_code (hs : s.WithinBlock) (he : cfg.elides (trim raw) = false)
    (hcloser : role cfg s (trim raw) = .closer → s.inComment = true)
    (hbegins : cfg.beginsComment raw = false) :
    step cfg s raw =
      ((codeLine cfg s.next (trim raw)).1, (codeLine cfg s.next (trim raw)).2.map .text) := by
  have hskip : { s.next with skipping := false } = s.next := by
    rw [← hs.skipping]
    rfl
  rw [step_of_code (hs.role_eq_code he hcloser hbegins), hskip]

/-- In a block, a comment closes the block where it begins. -/
theorem State.WithinBlock.step_opener (hs : s.WithinBlock)
    (hcloser : role cfg s (trim raw) = .closer → s.inComment = true)
    (hbegins : cfg.beginsComment raw = true) :
    step cfg s raw = (s.next.openComment, [.closing, .text ""]) := by
  obtain ⟨he, hopens⟩ : cfg.elides (trim raw) = false ∧ cfg.opensComment (trim raw) = true := by
    simpa [Settings.beginsComment] using hbegins
  have hfirst : ¬ s.index = 0 := by
    have hpos := hs.index_pos
    omega
  have hrole : role cfg s (trim raw) = .opener :=
    role_eq_opener_iff.mpr
      ⟨he, pads_of_not_skipping hs.skipping, hs.closesComment he hcloser, hs.inComment, hopens⟩
  rw [step_of_opener hrole, if_neg hfirst]

/-- In a block, lines that do not begin a comment come out as `codeRun` says, and change nothing
    but the nesting and the place. -/
theorem run_code (hs : s.WithinBlock) {lines : List String}
    (hclosers : ClosersEndComments cfg s lines)
    (h : ∀ raw ∈ lines, cfg.beginsComment raw = false) :
    (run cfg s lines).2 = (codeRun cfg s.nesting (cfg.kept lines)).2.map .text ∧
      (run cfg s lines).1.nesting = (codeRun cfg s.nesting (cfg.kept lines)).1 ∧
      (run cfg s lines).1.WithinBlock := by
  induction lines generalizing s with
  | nil => exact ⟨rfl, rfl, hs⟩
  | cons raw rest ih =>
    have hrest : ∀ raw ∈ rest, cfg.beginsComment raw = false :=
      fun r hr => h r (List.mem_cons_of_mem _ hr)
    have hbegins := h raw (List.mem_cons_self ..)
    rw [closersEndComments_cons] at hclosers
    obtain ⟨hcloser, hclosers⟩ := hclosers
    rw [run_cons]
    -- the two runs read the same lines once those of the wrapper are gone
    cases he : cfg.elides (trim raw) with
    | true =>
      have hstep := step_of_wrapper (s := s) (role_eq_wrapper_iff.mpr he)
      rw [hstep] at hclosers
      rw [hstep, Settings.kept_cons_of_elides he]
      exact ih hs.next hclosers hrest
    | false =>
      have hstep := hs.step_code he hcloser hbegins
      -- a line of code reads the nesting alone
      have hnesting := codeLine_nesting cfg s.next (trim raw)
      rw [hstep] at hclosers
      obtain ⟨hout, hlast, hblock⟩ := ih (hs.next.afterCode (trim raw)) hclosers hrest
      rw [hstep, Settings.kept_cons he, codeRun_cons, show s.nesting = s.next.nesting from rfl,
        hnesting]
      refine ⟨?_, hlast, hblock⟩
      rw [List.map_append, hout]

/-! ## From one comment to the next -/

/-- A comment that is not ended runs to the end of the source. -/
theorem piecesFrom_of_no_end (hs : s.WithinComment) {lines : List String}
    (h : ∀ raw ∈ lines, cfg.endsComment raw = false) :
    piecesFrom cfg s lines = (proseOf cfg lines).map .text := by
  have hfinish : finish { s with index := s.index + lines.length } = [] :=
    if_neg (by rw [hs.blockOpen]; exact Bool.false_ne_true)
  rw [piecesFrom, run_prose hs h, hfinish, List.append_nil]

/-- The end of a comment opens a block, and the scan goes on behind the lines that leave nothing at
    its beginning. -/
theorem piecesFrom_comment_end (hs : s.WithinComment) {body behind : List String}
    (hbody : ∀ raw ∈ body, cfg.endsComment raw = false) (hraw : cfg.endsComment raw = true)
    (hclosers : ClosersEndComments cfg s (body ++ raw :: behind)) :
    ∃ s' : State, s'.WithinBlock ∧ s'.nesting = s.behindComment ∧
      ClosersEndComments cfg s' (behind.dropWhile cfg.leadsBlock) ∧
      piecesFrom cfg s (body ++ raw :: behind) =
        (proseOf cfg body).map .text ++ [.text "", .opening] ++
          piecesFrom cfg s' (behind.dropWhile cfg.leadsBlock) := by
  have hrun := run_prose hs hbody
  obtain ⟨he, hcloses⟩ : cfg.elides (trim raw) = false ∧ cfg.closesComment (trim raw) = true := by
    simpa [Settings.endsComment] using hraw
  -- the state in which the last line of the comment is met
  obtain ⟨t, ht⟩ : ∃ t : State, t = { s with index := s.index + body.length } := ⟨_, rfl⟩
  have hskip : t.skipping = false := by
    rw [ht]
    exact hs.skipping
  have hstep := step_of_closer
    (role_eq_closer_iff.mpr ⟨he, pads_of_not_skipping hskip, hcloses⟩)
  rw [closersEndComments_append, hrun, ← ht, closersEndComments_cons, hstep] at hclosers
  obtain ⟨i, hi, hpieces, hskipped⟩ :=
    piecesFrom_skipping cfg (s := t.next.closeComment) rfl behind
  refine ⟨{ t.next.closeComment with skipping := false, index := i }, ?_, ?_,
    hskipped hclosers.2.2, ?_⟩
  · exact ⟨rfl, rfl, rfl, Nat.lt_of_lt_of_le (Nat.succ_pos _) hi⟩
  · rw [ht]
    rfl
  · rw [piecesFrom_append, hrun, ← ht, piecesFrom_cons, hstep, hpieces, List.append_assoc]

/-- In a comment whose end no other end of a comment follows, every end of a comment is met inside
    one. -/
theorem closersEndComments_of_one_end (hs : s.WithinComment) {body behind : List String}
    (hbody : ∀ raw ∈ body, cfg.endsComment raw = false) (hraw : cfg.endsComment raw = true)
    (hbehind : ∀ r ∈ behind.dropWhile cfg.leadsBlock, cfg.endsComment r = false) :
    ClosersEndComments cfg s (body ++ raw :: behind) := by
  obtain ⟨he, hcloses⟩ : cfg.elides (trim raw) = false ∧ cfg.closesComment (trim raw) = true := by
    simpa [Settings.endsComment] using hraw
  have hcloser : role cfg { s with index := s.index + body.length } (trim raw) = .closer :=
    role_eq_closer_iff.mpr ⟨he, pads_of_not_skipping hs.skipping, hcloses⟩
  rw [closersEndComments_append, run_prose hs hbody, closersEndComments_cons,
    step_of_closer hcloser]
  exact ⟨closersEndComments_of_no_end hbody, fun _ => hs.inComment,
    closersEndComments_of_skipping rfl hbehind⟩

/-- A block runs up to the line that begins the next comment, or to the end of the source, and is
    closed there. -/
theorem piecesFrom_block (hs : s.WithinBlock) {lines : List String}
    (hclosers : ClosersEndComments cfg s lines) :
    ∃ s' : State, s'.WithinComment ∧
      s'.behindComment =
        (codeRun cfg s.nesting (cfg.kept (upTo cfg.beginsComment lines))).1.behindComment ∧
      ClosersEndComments cfg s' (onward cfg.beginsComment lines).tail ∧
      piecesFrom cfg s lines =
        (codeRun cfg s.nesting (cfg.kept (upTo cfg.beginsComment lines))).2.map .text ++
          [.closing, .text ""] ++ piecesFrom cfg s' (onward cfg.beginsComment lines).tail := by
  have hsplit := upTo_append_onward cfg.beginsComment lines
  rw [← hsplit, closersEndComments_append] at hclosers
  obtain ⟨hcode, hclosers⟩ := hclosers
  obtain ⟨hout, hlast, hblock⟩ := run_code hs hcode of_mem_upTo
  refine ⟨(run cfg s (upTo cfg.beginsComment lines)).1.next.openComment,
    withinComment_openComment _, ?_, ?_, ?_⟩
  · rw [← hlast]
    rfl
  · cases hrest : onward cfg.beginsComment lines with
    | nil => exact fun v hv => absurd hv List.not_mem_nil
    | cons raw rest =>
      rw [hrest, closersEndComments_cons] at hclosers
      obtain ⟨hcloser, hclosers⟩ := hclosers
      rw [hblock.step_opener hcloser (of_onward_eq_cons hrest)] at hclosers
      exact hclosers
  · conv => lhs; rw [← hsplit]
    rw [piecesFrom_append, hout, List.append_assoc]
    cases hrest : onward cfg.beginsComment lines with
    | nil =>
      -- no comment follows, and the end of the source closes the block
      rw [piecesFrom_nil, finish, if_pos hblock.blockOpen]
      rfl
    | cons raw rest =>
      rw [hrest, closersEndComments_cons] at hclosers
      rw [piecesFrom_cons, hblock.step_opener hclosers.1 (of_onward_eq_cons hrest)]
      rfl

end Scan
end SourceWeaver
