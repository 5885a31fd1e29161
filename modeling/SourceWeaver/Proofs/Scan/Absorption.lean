/-
  Closing braces that end no block.

  Outside a switch and outside blocks, a line that begins with a closing brace is absorbed: nothing
  of it comes out, and all that it leaves is that an opener is pending.  Nothing asks for that but
  the next line of code with text, and only if that line is a bare opening brace.  Up to it the flag
  passes through blank lines and whole comments as it is (`step_withPending`), and there it is
  forgotten (`step_withPending_of_settles`).  So in front of code that does not go on with a bare
  opening brace, any number of such lines may be added or removed (`unmatched_closers_absorbed`).
-/

import SourceWeaver.Proofs.Scan.Independence
import SourceWeaver.Proofs.Scan.Nesting

namespace SourceWeaver.Scan

open Text

variable {cfg : Settings} {s : State} {raw line : String} {lines : List String}

/-! ## Lines of code with text -/

/-- Whether a line is code with text, which settles what becomes of a pending opener. -/
def Visit.settles (cfg : Settings) (v : Visit) : Bool :=
  v.role cfg == .code && v.line != ""

/-- The first line of code with text, trimmed. -/
def firstCode? (cfg : Settings) (s : State) (lines : List String) : Option String :=
  ((visits cfg s lines).find? (·.settles cfg)).map (·.line)

theorem firstCode?_cons_of_settles (h : (Visit.mk s (trim raw)).settles cfg = true)
    (rest : List String) : firstCode? cfg s (raw :: rest) = some (trim raw) := by
  rw [firstCode?, visits_cons, List.find?_cons_of_pos h, Option.map_some]

theorem firstCode?_cons (h : (Visit.mk s (trim raw)).settles cfg = false) (rest : List String) :
    firstCode? cfg s (raw :: rest) = firstCode? cfg (step cfg s raw).1 rest := by
  rw [firstCode?, visits_cons, List.find?_cons_of_neg (by simp [h]), firstCode?]

/-! ## One line -/

/-- Before the first line of code with text nothing asks for a pending opener, and nothing changes
    it. -/
theorem step_withPending (pending : Bool) (h : (Visit.mk s (trim raw)).settles cfg = false) :
    step cfg (s.withPending pending) raw =
      ((step cfg s raw).1.withPending pending, (step cfg s raw).2) := by
  -- no role depends on the pending opener, so both steps take the same branch
  have hrole : role cfg (s.withPending pending) (trim raw) = role cfg s (trim raw) := rfl
  cases hr : role cfg s (trim raw) with
  | wrapper =>
    rw [step_of_wrapper hr, step_of_wrapper (hrole.trans hr)]
    rfl
  | skipped =>
    rw [step_of_skipped hr, step_of_skipped (hrole.trans hr)]
    rfl
  | closer =>
    rw [step_of_closer hr, step_of_closer (hrole.trans hr)]
    rfl
  | prose =>
    rw [step_of_prose hr, step_of_prose (hrole.trans hr)]
    rfl
  | opener =>
    rw [step_of_opener hr, step_of_opener (hrole.trans hr)]
    rfl
  | code =>
    -- a line of code that does not settle the opener is blank, and is held back in both
    have hblank : trim raw = "" := by
      simpa [Visit.settles, Visit.role, hr] using h
    rw [step_of_code hr, step_of_code (hrole.trans hr), hblank, codeLine_of_blank,
      codeLine_of_blank]
    rfl

/-- The first line of code with text forgets a pending opener, unless it is a bare opening brace. -/
theorem step_withPending_of_settles (pending : Bool)
    (h : (Visit.mk s (trim raw)).settles cfg = true) (hbrace : trim raw ≠ "\x7b") :
    step cfg (s.withPending pending) raw = step cfg s raw := by
  obtain ⟨hr, hline⟩ : role cfg s (trim raw) = .code ∧ trim raw ≠ "" := by
    simpa [Visit.settles, Visit.role] using h
  have hr' : role cfg (s.withPending pending) (trim raw) = .code := hr
  obtain ⟨t, ht⟩ : ∃ t : State, t = { s.next with skipping := false } := ⟨_, rfl⟩
  have helision : elision? (t.withPending pending) (trim raw) = elision? t (trim raw) := by
    simp [elision?, State.withPending, hbrace]
  have hcode := codeLine_withPending cfg hline helision
  rw [step_of_code hr, step_of_code hr', ← ht, ← hcode, ht]
  rfl

/-- Outside a switch and outside blocks a closing brace leaves nothing but a pending opener. -/
theorem step_of_unmatched (hs : s.InCode) (hdepth : s.depth = 0) (hswitch : s.inSwitch = false)
    (hline : isCodeLine cfg raw = true) (hcloses : closesBlock (trim raw) = true) :
    step cfg s raw = ((s.withPending true).next, []) := by
  have helision : elision? s.next (trim raw) = some .closer :=
    elision?_eq_closer_iff.mpr ⟨hcloses, hswitch, hdepth⟩
  rw [step_of_inCode hs hline, codeLine_closer helision]
  rfl

/-! ## Runs -/

/-- A scan that begins with an opener pending emits the same as one that does not, unless its first
    line of code with text is a bare opening brace; and it ends in the same state if there is such a
    line, and otherwise with the opener still pending. -/
theorem run_withPending (pending : Bool) (h : ∀ line ∈ firstCode? cfg s lines, line ≠ "\x7b") :
    run cfg (s.withPending pending) lines =
      (if (firstCode? cfg s lines).isSome then (run cfg s lines).1
        else (run cfg s lines).1.withPending pending,
        (run cfg s lines).2) := by
  induction lines generalizing s with
  | nil => rfl
  | cons raw rest ih =>
    cases hsettles : (Visit.mk s (trim raw)).settles cfg with
    -- the first line of code with text settles the opener, and the states agree from there on
    | true =>
      rw [firstCode?_cons_of_settles hsettles] at h ⊢
      rw [run_cons, step_withPending_of_settles pending hsettles (h _ rfl), run_cons,
        Option.isSome_some, if_pos rfl]
    -- any other line leaves it pending or not, as it was
    | false =>
      rw [firstCode?_cons hsettles] at h ⊢
      rw [run_cons, step_withPending pending hsettles, ih h, run_cons]

/-- Any number of closing braces that end no block leave what one of them leaves. -/
theorem run_of_unmatched (hs : s.InCode) (hdepth : s.depth = 0) (hswitch : s.inSwitch = false)
    (hne : lines ≠ [])
    (hlines : ∀ raw ∈ lines, isCodeLine cfg raw = true ∧ closesBlock (trim raw) = true) :
    run cfg s lines = ((s.withPending true).moved (s.index + lines.length), []) := by
  induction lines generalizing s with
  | nil => exact absurd rfl hne
  | cons raw rest ih =>
    obtain ⟨⟨hline, hcloses⟩, hrest⟩ := List.forall_mem_cons.mp hlines
    have hplace : s.index + 1 + rest.length = s.index + (raw :: rest).length := by
      rw [List.length_cons]
      omega
    rw [run_cons, step_of_unmatched hs hdepth hswitch hline hcloses]
    -- the induction is on lists that are not empty, so a single brace is a case of its own
    cases rest with
    | nil => rfl
    | cons second more =>
      have hcode : (s.withPending true).next.InCode := ⟨hs.inComment, hs.skipping⟩
      rw [ih hcode hdepth hswitch (List.cons_ne_nil second more) hrest, ← hplace]
      rfl

/-- Closing braces that end no block leave no trace in front of a source whose first line of code
    with text, if it has one, is no bare opening brace: the scan emits what it emits without them and
    without a pending opener, and ends in the same state but for its place, and but for an opener that
    is pending if no line of code with text follows. -/
theorem unmatched_closers_absorbed (hs : s.InCode) (hindex : 0 < s.index) (hdepth : s.depth = 0)
    (hswitch : s.inSwitch = false) {closers post : List String} (hne : closers ≠ [])
    (hclosers : ∀ raw ∈ closers, isCodeLine cfg raw = true ∧ closesBlock (trim raw) = true)
    (hpost : ∀ line ∈ firstCode? cfg (s.withPending false) post, line ≠ "\x7b") :
    (run cfg s (closers ++ post)).2 = (run cfg (s.withPending false) post).2 ∧
      ((firstCode? cfg (s.withPending false) post).isSome →
        (run cfg s (closers ++ post)).1 =
          { (run cfg (s.withPending false) post).1 with
            index := s.index + (closers ++ post).length }) ∧
      (firstCode? cfg (s.withPending false) post = none →
        (run cfg s (closers ++ post)).1 =
          { (run cfg (s.withPending false) post).1 with
            index := s.index + (closers ++ post).length, pendingOpener := true }) := by
  have hplace : s.index + closers.length + post.length = s.index + (closers ++ post).length := by
    rw [List.length_append]
    omega
  -- behind the braces the scan is at another place, with an opener pending
  have hmoved : run cfg s (closers ++ post) =
      ((run cfg (s.withPending true) post).1.moved (s.index + (closers ++ post).length),
        (run cfg (s.withPending true) post).2) := by
    have hindex' : 0 < s.index + closers.length := by omega
    rw [run_append, run_of_unmatched hs hdepth hswitch hne hclosers,
      run_moved (s := s.withPending true) hindex hindex', hplace, List.nil_append]
  have hpending : run cfg (s.withPending true) post = _ :=
    run_withPending (s := s.withPending false) true hpost
  rw [hmoved, hpending]
  refine ⟨rfl, fun hsome => ?_, fun hnone => ?_⟩
  · rw [if_pos hsome]
    rfl
  · rw [hnone]
    rfl

/-- Two braces, in front of a blank line, a comment and another brace that ends no block. -/
theorem unmatched_closers_absorbed_before_comment :
    State.InCode { index := 7, blockOpen := true } ∧
      (∀ raw ∈ ["\x7d", "  \x7d else \x7b"],
        isCodeLine {} raw = true ∧ closesBlock (trim raw) = true) ∧
      firstCode? {} (State.withPending { index := 7, blockOpen := true } false)
        ["", "/*", "\x7b", "*/", "", "  \x7d", "\x7b", "x;"] = some "\x7d" ∧
      (run {} { index := 7, blockOpen := true }
          (["\x7d", "  \x7d else \x7b"] ++ ["", "/*", "\x7b", "*/", "", "  \x7d", "\x7b", "x;"])).2 =
        (run {} (State.withPending { index := 7, blockOpen := true } false)
          ["", "/*", "\x7b", "*/", "", "  \x7d", "\x7b", "x;"]).2 := by
  have hs : State.InCode { index := 7, blockOpen := true } := ⟨rfl, rfl⟩
  have hclosers : ∀ raw ∈ ["\x7d", "  \x7d else \x7b"],
      isCodeLine {} raw = true ∧ closesBlock (trim raw) = true := by decide +kernel
  have hfirst : firstCode? {} (State.withPending { index := 7, blockOpen := true } false)
      ["", "/*", "\x7b", "*/", "", "  \x7d", "\x7b", "x;"] = some "\x7d" := by decide +kernel
  have hpost : ∀ line ∈ firstCode? {} (State.withPending { index := 7, blockOpen := true } false)
      ["", "/*", "\x7b", "*/", "", "  \x7d", "\x7b", "x;"], line ≠ "\x7b" := by
    rw [hfirst]
    decide
  obtain ⟨hout, -, -⟩ :=
    unmatched_closers_absorbed hs (by decide) rfl rfl (List.cons_ne_nil _ _) hclosers hpost
  exact ⟨hs, hclosers, hfirst, hout⟩

end SourceWeaver.Scan
