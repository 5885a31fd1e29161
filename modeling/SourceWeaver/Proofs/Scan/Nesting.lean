/-
  Well-nested code.

  Lines of code are well nested (`WellNested`) if every block that one of them begins is ended by
  another, with any number of lines between that end one part of the block and begin the next.
  Counted by braces alone, such lines never end a block that is not open, and leave as many blocks
  open as there were (`levelAfter?_of_wellNested`).

  A scan counts the same way, but for switches: the line that begins one and the first closing brace
  behind it are not counted.  That comes out even unless a second switch begins, or a block goes on
  as in `} else {`, before that brace: the former is a block too few and the latter a block too many
  (`openBlocks_codeLine`).  So over well-nested lines the depth moves by the difference of the two, and
  no brace is left out as long as there are blocks to spare (`wellNested_run`).
-/

import SourceWeaver.Proofs.Scan.Invariant
import SourceWeaver.Settings.Problem
import Mathlib.Data.List.Basic

namespace SourceWeaver.Scan

open Text

variable {cfg : Settings} {s : State} {raw line : String} {lines : List String}

/-! ## Shapes of lines -/

/-- What a line of well-nested code does to the blocks around it. -/
inductive Shape where
  /-- Begins and ends no block. -/
  | plain
  /-- Begins a block. -/
  | opener
  /-- Ends one part of a block and begins the next. -/
  | arm
  /-- Ends a block: a closing brace alone. -/
  | closer
deriving DecidableEq, Repr

/-- The shape of a trimmed line, if well-nested code may hold it.  A keyword that begins a switch is
    allowed in front of a block alone. -/
def shape? (cfg : Settings) (line : String) : Option Shape :=
  if closesBlock line then
    if line = "\x7d" then some .closer
    else if opensBlock line && !cfg.startsSwitch line then some .arm
    else none
  else if opensBlock line then some .opener
  else if endsInBrace line || cfg.startsSwitch line then none
  else some .plain

/-- The lines of the further parts of a block, each behind the line that begins it. -/
def armLines (arms : List (String × List String)) : List String :=
  arms.flatMap fun arm => arm.1 :: arm.2

/-- Lines of code in which every block that begins also ends. -/
inductive WellNested (cfg : Settings) : List String → Prop
  | nil : WellNested cfg []
  | plain {line : String} {rest : List String} (hline : shape? cfg (trim line) = some .plain)
      (hrest : WellNested cfg rest) : WellNested cfg (line :: rest)
  | block {opener closer : String} {body rest : List String} {arms : List (String × List String)}
      (hopener : shape? cfg (trim opener) = some .opener) (hbody : WellNested cfg body)
      (harms : ∀ arm ∈ arms, shape? cfg (trim arm.1) = some .arm)
      (hparts : ∀ arm ∈ arms, WellNested cfg arm.2)
      (hcloser : shape? cfg (trim closer) = some .closer) (hrest : WellNested cfg rest) :
      WellNested cfg (opener :: body ++ armLines arms ++ closer :: rest)

theorem shape?_eq_plain_iff :
    shape? cfg line = some .plain ↔
      closesBlock line = false ∧ opensBlock line = false ∧ endsInBrace line = false ∧
        cfg.startsSwitch line = false := by
  unfold shape?
  grind

theorem shape?_eq_opener_iff :
    shape? cfg line = some .opener ↔ closesBlock line = false ∧ opensBlock line = true := by
  unfold shape?
  grind

theorem shape?_eq_arm_iff :
    shape? cfg line = some .arm ↔
      closesBlock line = true ∧ opensBlock line = true ∧ cfg.startsSwitch line = false := by
  have hopens : opensBlock "\x7d" = false := by decide
  unfold shape?
  grind

theorem shape?_eq_closer_iff : shape? cfg line = some .closer ↔ line = "\x7d" := by
  have hcloses : closesBlock "\x7d" = true := by decide
  unfold shape?
  grind

/-! ## Counting braces alone -/

/-- The number of open blocks behind a line of some shape; none must be ended that is not open. -/
def Shape.levelAfter? : Shape → Nat → Option Nat
  | plain, n => some n
  | opener, n => some (n + 1)
  | arm, n + 1 => some (n + 1)
  | closer, n + 1 => some n
  | arm, 0 => none
  | closer, 0 => none

/-- The number of open blocks behind some lines. -/
def levelAfter? (cfg : Settings) (n : Nat) : List String → Option Nat
  | [] => some n
  | raw :: rest =>
    (shape? cfg (trim raw)).bind fun shape =>
      (shape.levelAfter? n).bind fun m => levelAfter? cfg m rest

theorem levelAfter?_cons {shape : Shape} {n : Nat} (h : shape? cfg (trim raw) = some shape)
    (rest : List String) :
    levelAfter? cfg n (raw :: rest) =
      (shape.levelAfter? n).bind fun m => levelAfter? cfg m rest := by
  rw [levelAfter?, h, Option.bind_some]

theorem levelAfter?_append (n : Nat) (a b : List String) :
    levelAfter? cfg n (a ++ b) = (levelAfter? cfg n a).bind fun m => levelAfter? cfg m b := by
  induction a generalizing n with
  | nil => rfl
  | cons raw rest ih =>
    rw [List.cons_append, levelAfter?, levelAfter?, Option.bind_assoc]
    congr 1
    funext shape
    rw [Option.bind_assoc]
    congr 1
    funext m
    exact ih m

/-- Each further part of a block is entered and left with the block open. -/
theorem levelAfter?_armLines {arms : List (String × List String)}
    (harms : ∀ arm ∈ arms, shape? cfg (trim arm.1) = some .arm)
    (hparts : ∀ arm ∈ arms, ∀ n, levelAfter? cfg n arm.2 = some n) (n : Nat) :
    levelAfter? cfg (n + 1) (armLines arms) = some (n + 1) := by
  induction arms with
  | nil => rfl
  | cons arm more ih =>
    obtain ⟨harm, harms⟩ := List.forall_mem_cons.mp harms
    obtain ⟨hpart, hparts⟩ := List.forall_mem_cons.mp hparts
    rw [armLines, List.flatMap_cons, List.cons_append, levelAfter?_cons harm, Shape.levelAfter?,
      Option.bind_some, levelAfter?_append, hpart, Option.bind_some]
    exact ih harms hparts

/-- Well-nested lines end no block that is not open, and leave as many open as there were. -/
theorem levelAfter?_of_wellNested (h : WellNested cfg lines) (n : Nat) :
    levelAfter? cfg n lines = some n := by
  induction h generalizing n with
  | nil => rfl
  | plain hline _ ih => rw [levelAfter?_cons hline, Shape.levelAfter?, Option.bind_some, ih]
  | block hopener _ harms _ hcloser _ hbody hparts hrest =>
    rw [List.append_assoc, List.cons_append, levelAfter?_cons hopener, Shape.levelAfter?,
      Option.bind_some, levelAfter?_append, hbody, Option.bind_some, levelAfter?_append,
      levelAfter?_armLines harms hparts, Option.bind_some, levelAfter?_cons hcloser,
      Shape.levelAfter?, Option.bind_some, hrest]

/-! ## Code that a scan reads -/

/-- What a line of code that is not left out does to the switch and to the depth. -/
theorem codeLine_of_shown (cfg : Settings) (h : elision? s line = none) :
    (codeLine cfg s line).1.inSwitch =
        (s.inSwitch && (isLabel line || !endsInBrace line) || cfg.startsSwitch line) ∧
      (codeLine cfg s line).1.depth =
        (if closesBlock line && !s.inSwitch then s.depth - 1 else s.depth) +
          (if !cfg.startsSwitch line && opensBlock line then 1 else 0) ∧
      (codeLine cfg s line).1.pendingOpener = (s.pendingOpener && line == "") := by
  obtain ⟨blanks, hstate⟩ := codeLine_of_elision_none cfg h
  rw [hstate]
  simp only [State.afterLine, State.beforeLine, true_and, and_true]
  cases !cfg.startsSwitch line && opensBlock line <;> rfl

/-- A line that ends a block outside a switch is shown only if the depth has room for it. -/
theorem depth_pos_of_shown (h : elision? s line = none) (hcloses : closesBlock line = true)
    (hswitch : s.inSwitch = false) : 0 < s.depth := by
  unfold elision? at h
  grind

/-- Outside comments, with nothing left to skip. -/
structure State.InCode (s : State) : Prop where
  inComment : s.inComment = false
  skipping : s.skipping = false

/-- A line as it stands in the source that is code wherever no comment is open: it begins and ends
    no comment and is not left out with the entry-point wrapper. -/
def isCodeLine (cfg : Settings) (raw : String) : Bool :=
  !cfg.elides (trim raw) && !cfg.opensComment (trim raw) && !cfg.closesComment (trim raw)

section Step

variable (hs : s.InCode) (hraw : isCodeLine cfg raw = true)

include hs hraw

theorem role_of_inCode : role cfg s (trim raw) = .code := by
  simp only [isCodeLine, Bool.and_eq_true, Bool.not_eq_true'] at hraw
  refine role_eq_code_iff.mpr ⟨hraw.1.1, ?_, hraw.2, hs.inComment, hraw.1.2⟩
  rw [hs.skipping, Bool.false_and]

theorem step_of_inCode :
    step cfg s raw =
      ((codeLine cfg s.next (trim raw)).1, (codeLine cfg s.next (trim raw)).2.map .text) := by
  have hskip : { s.next with skipping := false } = s.next := by
    rw [← hs.skipping]
    rfl
  rw [step_of_code (role_of_inCode hs hraw), hskip]

theorem stepElision?_of_inCode : stepElision? cfg s raw = elision? s (trim raw) :=
  if_pos (role_of_inCode hs hraw)

theorem State.InCode.step : (step cfg s raw).1.InCode := by
  rw [step_of_inCode hs hraw]
  exact ⟨codeLine_inComment.trans hs.inComment, codeLine_skipping.trans hs.skipping⟩

end Step

/-! ## Blocks that are open -/

/-- The number of blocks that are open: those that count for the depth, and a switch. -/
def State.openBlocks (s : State) : Nat :=
  s.depth + if s.inSwitch then 1 else 0

/-- Whether a line begins a switch while another is open. -/
def Visit.nestsSwitch (cfg : Settings) (v : Visit) : Bool :=
  v.state.inSwitch && cfg.startsSwitch v.line

/-- Whether a line goes on with a block while a switch is open. -/
def Visit.armsSwitch (v : Visit) : Bool :=
  v.state.inSwitch && closesBlock v.line && opensBlock v.line

/-- A keyword is followed by the end of a word, so a line that is one character and no word begins
    no switch. -/
theorem startsSwitch_of_single {c : Char} (hline : line.toList = [c]) (hc : isWordChar c = false) :
    cfg.startsSwitch line = false := by
  unfold Settings.startsSwitch startsWithWord
  rw [hline]
  split
  · next rest hrest =>
    rw [List.isPrefixOf?_eq_some_iff_append_eq, List.append_eq_singleton_iff] at hrest
    rcases hrest with ⟨hword, rfl⟩ | ⟨hword, rfl⟩ <;>
      simp [hword, endsInWord, beginsInWord, hc]
  · rfl

theorem startsSwitch_brace (cfg : Settings) : cfg.startsSwitch "\x7d" = false :=
  startsSwitch_of_single (c := '\x7d') (by decide) (by decide)

theorem endsInBrace_of_opensBlock (h : opensBlock line = true) : endsInBrace line = false := by
  unfold opensBlock endsWith at h
  unfold endsInBrace endsWith
  rw [List.isSuffixOf_iff_suffix] at h
  rw [Bool.eq_false_iff, ne_eq, List.isSuffixOf_iff_suffix]
  -- two texts of one character that end the same line are the same
  intro hends
  have hsame := List.suffix_of_suffix_length_le hends h (by decide)
  revert hsame
  decide

/-- With no opening brace pending, a line is left out if it ends a block and none is open. -/
theorem elision?_eq_none_iff (hpending : s.pendingOpener = false) :
    elision? s line = none ↔ (closesBlock line = true → 0 < s.openBlocks) := by
  unfold elision? State.openBlocks
  grind

/-- A line of well-nested code that is not left out moves the number of open blocks as its braces
    say, but for a switch within a switch, which is a block too few, and for a block that goes on
    within a switch, which is one too many. -/
theorem openBlocks_codeLine {shape : Shape} {n m : Nat} (hshown : elision? s line = none)
    (hshape : shape? cfg line = some shape) (hlevel : shape.levelAfter? n = some m) :
    (codeLine cfg s line).1.openBlocks + (if (Visit.mk s line).nestsSwitch cfg then 1 else 0) + n =
      s.openBlocks + (if (Visit.mk s line).armsSwitch then 1 else 0) + m := by
  obtain ⟨hswitch, hdepth, -⟩ := codeLine_of_shown cfg hshown
  simp only [State.openBlocks, Visit.nestsSwitch, Visit.armsSwitch, hswitch, hdepth]
  cases shape with
  | plain =>
    obtain ⟨hcloses, hopens, hends, hstarts⟩ := shape?_eq_plain_iff.mp hshape
    simp only [Shape.levelAfter?, Option.some.injEq] at hlevel
    simp [hcloses, hopens, hends, hstarts, hlevel]
  | opener =>
    obtain ⟨hcloses, hopens⟩ := shape?_eq_opener_iff.mp hshape
    have hends := endsInBrace_of_opensBlock hopens
    simp only [Shape.levelAfter?, Option.some.injEq] at hlevel
    -- an opener counts in the depth, or else as the open switch unless there is one already
    by_cases hin : s.inSwitch = true <;> by_cases hstarts : cfg.startsSwitch line = true <;>
      simp [hcloses, hopens, hends, hin, hstarts] <;> omega
  | arm =>
    obtain ⟨hcloses, hopens, hstarts⟩ := shape?_eq_arm_iff.mp hshape
    have hends := endsInBrace_of_opensBlock hopens
    have hopen := depth_pos_of_shown hshown hcloses
    obtain _ | k := n
    · cases hlevel
    simp only [Shape.levelAfter?, Option.some.injEq] at hlevel
    -- within a switch the closing brace is not counted but the opening one is
    by_cases hin : s.inSwitch = true
    · simp [hcloses, hopens, hends, hstarts, hin]
      omega
    · have hpos := hopen (Bool.eq_false_iff.mpr hin)
      simp [hcloses, hopens, hends, hstarts, hin]
      omega
  | closer =>
    obtain rfl := shape?_eq_closer_iff.mp hshape
    have hstarts := startsSwitch_brace cfg
    have hopen := depth_pos_of_shown hshown (by decide)
    obtain _ | k := n
    · cases hlevel
    simp only [Shape.levelAfter?, Option.some.injEq] at hlevel
    have hbrace : closesBlock "\x7d" = true ∧ opensBlock "\x7d" = false ∧
      endsInBrace "\x7d" = true ∧ isLabel "\x7d" = false := by decide
    obtain ⟨hcloses, hopens, hends, hlabel⟩ := hbrace
    by_cases hin : s.inSwitch = true
    · simp [hcloses, hopens, hends, hstarts, hlabel, hin]
      omega
    · have hpos := hopen (Bool.eq_false_iff.mpr hin)
      simp [hcloses, hopens, hends, hstarts, hlabel, hin]
      omega

/-! ## Runs of code -/

/-- The number of switches that begin while another is open. -/
def switchesInSwitch (cfg : Settings) (s : State) (lines : List String) : Nat :=
  (visits cfg s lines).countP (·.nestsSwitch cfg)

/-- The number of lines that go on with a block while a switch is open. -/
def armsInSwitch (cfg : Settings) (s : State) (lines : List String) : Nat :=
  (visits cfg s lines).countP (·.armsSwitch)

theorem switchesInSwitch_concat (lines : List String) (raw : String) :
    switchesInSwitch cfg s (lines ++ [raw]) =
      switchesInSwitch cfg s lines +
        if (Visit.mk (run cfg s lines).1 (trim raw)).nestsSwitch cfg then 1 else 0 := by
  rw [switchesInSwitch, visits_concat, List.countP_append, List.countP_singleton,
    ← switchesInSwitch]

theorem armsInSwitch_concat (lines : List String) (raw : String) :
    armsInSwitch cfg s (lines ++ [raw]) =
      armsInSwitch cfg s lines +
        if (Visit.mk (run cfg s lines).1 (trim raw)).armsSwitch then 1 else 0 := by
  rw [armsInSwitch, visits_concat, List.countP_append, List.countP_singleton, ← armsInSwitch]

theorem elisions_concat_eq_nil_iff (lines : List String) (raw : String) :
    elisions cfg s (lines ++ [raw]) = [] ↔
      elisions cfg s lines = [] ∧ stepElision? cfg (run cfg s lines).1 raw = none := by
  induction lines generalizing s with
  | nil => simp [elisions, run_nil]
  | cons first rest ih =>
    rw [List.cons_append, elisions, elisions, List.append_eq_nil_iff, List.append_eq_nil_iff, ih,
      run_cons, and_assoc]

theorem levelAfter?_concat_eq_some_iff {n m : Nat} :
    levelAfter? cfg n (lines ++ [raw]) = some m ↔
      ∃ k shape, levelAfter? cfg n lines = some k ∧ shape? cfg (trim raw) = some shape ∧
        shape.levelAfter? k = some m := by
  simp [levelAfter?_append, levelAfter?, Option.bind_eq_some_iff]

theorem State.InCode.run (hs : s.InCode) (hlines : ∀ raw ∈ lines, isCodeLine cfg raw = true) :
    (run cfg s lines).1.InCode := by
  induction lines generalizing s with
  | nil => exact hs
  | cons raw rest ih =>
    obtain ⟨hraw, hrest⟩ := List.forall_mem_cons.mp hlines
    exact ih (hs.step hraw) hrest

section Shown

variable (hs : s.InCode) (hlines : ∀ raw ∈ lines, isCodeLine cfg raw = true)

include hs hlines

/-- Only a brace that is left out makes an opening brace pending. -/
theorem pendingOpener_run (hpending : s.pendingOpener = false)
    (hshown : elisions cfg s lines = []) : (run cfg s lines).1.pendingOpener = false := by
  induction lines using List.reverseRecOn with
  | nil => exact hpending
  | append_singleton lines raw ih =>
    obtain ⟨hbefore, hraw⟩ := List.forall_mem_append.mp hlines
    obtain ⟨hshown, hlast⟩ := (elisions_concat_eq_nil_iff lines raw).mp hshown
    have hcode := hs.run hbefore
    have hline := hraw raw (List.mem_singleton_self raw)
    -- an opener becomes pending only where a closing brace is left out, and none is
    rw [stepElision?_of_inCode hcode hline] at hlast
    rw [run_concat, step_of_inCode hcode hline]
    obtain ⟨-, -, hstep⟩ := codeLine_of_shown (s := (run cfg s lines).1.next) cfg hlast
    rw [hstep, show (run cfg s lines).1.next.pendingOpener = false from ih hbefore hshown,
      Bool.false_and]

/-- A run that leaves nothing out moves the number of open blocks as the braces say, but for the
    switches and the further parts of blocks within a switch. -/
theorem openBlocks_run {n m : Nat} (hlevel : levelAfter? cfg n lines = some m)
    (hshown : elisions cfg s lines = []) :
    (run cfg s lines).1.openBlocks + switchesInSwitch cfg s lines + n =
      s.openBlocks + armsInSwitch cfg s lines + m := by
  induction lines using List.reverseRecOn generalizing m with
  | nil =>
    obtain rfl : n = m := Option.some.inj hlevel
    rfl
  | append_singleton lines raw ih =>
    obtain ⟨hbefore, hraw⟩ := List.forall_mem_append.mp hlines
    obtain ⟨hshown, hlast⟩ := (elisions_concat_eq_nil_iff lines raw).mp hshown
    -- the last line moves the level from `k` to `m` and the open blocks with it
    obtain ⟨k, shape, hk, hshape, hmove⟩ := levelAfter?_concat_eq_some_iff.mp hlevel
    have hcode := hs.run hbefore
    have hline := hraw raw (List.mem_singleton_self raw)
    have hrun := ih hbefore hk hshown
    rw [stepElision?_of_inCode hcode hline] at hlast
    -- the two differ by the lines of a switch alone, which are counted on either side
    have hstep : (step cfg (run cfg s lines).1 raw).1.openBlocks +
        (if (Visit.mk (run cfg s lines).1 (trim raw)).nestsSwitch cfg then 1 else 0) + k =
          (run cfg s lines).1.openBlocks +
            (if (Visit.mk (run cfg s lines).1 (trim raw)).armsSwitch then 1 else 0) + m := by
      rw [step_of_inCode hcode hline]
      exact openBlocks_codeLine (s := (run cfg s lines).1.next) hlast hshape hmove
    rw [run_concat, switchesInSwitch_concat, armsInSwitch_concat]
    dsimp only
    omega

/-- A run leaves nothing out if and only if every line that ends a block still finds one open. -/
theorem elisions_eq_nil_iff {n m : Nat} (hpending : s.pendingOpener = false)
    (hlevel : levelAfter? cfg n lines = some m) :
    elisions cfg s lines = [] ↔
      ∀ pre raw k, pre ++ [raw] <+: lines → closesBlock (trim raw) = true →
        levelAfter? cfg n pre = some k →
          switchesInSwitch cfg s pre + n < s.openBlocks + armsInSwitch cfg s pre + k := by
  induction lines using List.reverseRecOn generalizing m with
  | nil => simp [elisions]
  | append_singleton lines raw ih =>
    obtain ⟨hbefore, hraw⟩ := List.forall_mem_append.mp hlines
    obtain ⟨k, shape, hk, hshape, hmove⟩ := levelAfter?_concat_eq_some_iff.mp hlevel
    have hcode := hs.run hbefore
    have hline := hraw raw (List.mem_singleton_self raw)
    -- with nothing left out so far, the law of the run says how many blocks the last line finds
    have hlast (hshown : elisions cfg s lines = []) :
        stepElision? cfg (run cfg s lines).1 raw = none ↔
          (closesBlock (trim raw) = true →
            switchesInSwitch cfg s lines + n < s.openBlocks + armsInSwitch cfg s lines + k) := by
      have hcount := openBlocks_run hs hbefore hk hshown
      rw [stepElision?_of_inCode hcode hline,
        elision?_eq_none_iff (pendingOpener_run hs hbefore hpending hshown)]
      refine imp_congr_right fun _ => ?_
      omega
    rw [elisions_concat_eq_nil_iff]
    constructor
    · rintro ⟨hshown, hnone⟩ pre x j hpre hcloses hj
      rcases List.prefix_concat_iff.mp hpre with heq | hpre
      · obtain ⟨rfl, rfl⟩ := List.append_singleton_inj.mp heq
        obtain rfl : k = j := Option.some.inj (hk.symm.trans hj)
        exact (hlast hshown).mp hnone hcloses
      · exact (ih hbefore hk).mp hshown pre x j hpre hcloses hj
    · intro hall
      have hshown : elisions cfg s lines = [] :=
        (ih hbefore hk).mpr fun pre x j hpre =>
          hall pre x j (hpre.trans (List.prefix_append lines [raw]))
      exact ⟨hshown, (hlast hshown).mpr fun hcloses =>
        hall lines raw k (List.prefix_refl _) hcloses hk⟩

end Shown

/-! ## Well-nested runs -/

/-- A closing brace alone leaves no switch open, whether it is left out or not. -/
theorem inSwitch_codeLine_of_closer (hline : shape? cfg line = some .closer) :
    (codeLine cfg s line).1.inSwitch = false := by
  obtain rfl := shape?_eq_closer_iff.mp hline
  -- a brace that is left out was met outside a switch; any other brace ends one
  cases he : elision? s "\x7d" with
  | some e =>
    cases e with
    | opener =>
      obtain ⟨-, hline⟩ := elision?_eq_opener_iff.mp he
      exact absurd hline (by decide)
    | closer =>
      rw [codeLine_closer he]
      exact (elision?_eq_closer_iff.mp he).2.1
  | none =>
    have hbrace : isLabel "\x7d" = false ∧ endsInBrace "\x7d" = true := by decide
    rw [(codeLine_of_shown cfg he).1, hbrace.1, hbrace.2, startsSwitch_brace]
    simp

/-- A plain line neither begins nor ends a switch. -/
theorem inSwitch_codeLine_of_plain (hline : shape? cfg line = some .plain) :
    (codeLine cfg s line).1.inSwitch = s.inSwitch := by
  obtain ⟨-, -, hends, hstarts⟩ := shape?_eq_plain_iff.mp hline
  cases he : elision? s line with
  | some e => cases e <;> simp [codeLine_opener, codeLine_closer, he]
  | none =>
    rw [(codeLine_of_shown cfg he).1, hends, hstarts]
    simp

/-- Behind well-nested code no switch is open. -/
theorem inSwitch_run_of_wellNested (hnested : WellNested cfg lines) (hs : s.InCode)
    (hswitch : s.inSwitch = false) (hlines : ∀ raw ∈ lines, isCodeLine cfg raw = true) :
    (run cfg s lines).1.inSwitch = false := by
  induction hnested generalizing s with
  | nil => exact hswitch
  | plain hline _ ih =>
    obtain ⟨hraw, hrest⟩ := List.forall_mem_cons.mp hlines
    rw [run_cons]
    refine ih (hs.step hraw) ?_ hrest
    rw [step_of_inCode hs hraw, inSwitch_codeLine_of_plain hline]
    exact hswitch
  | @block opener closer body rest arms _ _ _ _ hcloser _ _ _ ih =>
    -- whatever the block does, the brace that ends it ends a switch as well
    obtain ⟨hblock, hlines⟩ := List.forall_mem_append.mp hlines
    obtain ⟨hraw, hrest⟩ := List.forall_mem_cons.mp hlines
    have hcode := hs.run hblock
    rw [run_append, run_cons]
    refine ih (hcode.step hraw) ?_ hrest
    rw [step_of_inCode hcode hraw]
    exact inSwitch_codeLine_of_closer hcloser

/-- The counts of a run grow with it. -/
theorem switchesInSwitch_le_of_prefix {pre : List String} (h : pre <+: lines) :
    switchesInSwitch cfg s pre ≤ switchesInSwitch cfg s lines := by
  obtain ⟨post, rfl⟩ := h
  rw [switchesInSwitch, switchesInSwitch, visits_append, List.countP_append]
  exact Nat.le_add_right _ _

/-- A line that ends a block finds one that the lines before it have begun. -/
theorem levelAfter?_pos {n m k : Nat} {pre : List String} (hlevel : levelAfter? cfg n lines = some m)
    (hpre : pre ++ [raw] <+: lines) (hcloses : closesBlock (trim raw) = true)
    (hk : levelAfter? cfg n pre = some k) : 0 < k := by
  obtain ⟨post, rfl⟩ := hpre
  rw [levelAfter?_append, Option.bind_eq_some_iff] at hlevel
  obtain ⟨j, hj, -⟩ := hlevel
  obtain ⟨k', shape, hk', hshape, hmove⟩ := levelAfter?_concat_eq_some_iff.mp hj
  obtain rfl : k = k' := Option.some.inj (hk.symm.trans hk')
  cases shape with
  | plain => simp [(shape?_eq_plain_iff.mp hshape).1] at hcloses
  | opener => simp [(shape?_eq_opener_iff.mp hshape).1] at hcloses
  | arm => cases k <;> simp [Shape.levelAfter?] at hmove ⊢
  | closer => cases k <;> simp [Shape.levelAfter?] at hmove ⊢

/-- A scan of well-nested code, begun outside a switch, ends outside a switch.  If no switch begins
    and no block goes on while a switch is open, it leaves no line out and ends at the depth at which
    it began.  In general it leaves no line out if and only if, at every line that ends a block, the
    switches that began within another are fewer than the depth at the start, the parts of blocks
    that began within a switch and the blocks that are open, taken together; and then the depth
    moves by the difference of those switches and those parts. -/
theorem wellNested_run (hs : s.InCode) (hswitch : s.inSwitch = false)
    (hpending : s.pendingOpener = false) (hnested : WellNested cfg lines)
    (hlines : ∀ raw ∈ lines, isCodeLine cfg raw = true) :
    (run cfg s lines).1.inSwitch = false ∧
    (switchesInSwitch cfg s lines = 0 → armsInSwitch cfg s lines = 0 →
      elisions cfg s lines = [] ∧ (run cfg s lines).1.depth = s.depth) ∧
    (elisions cfg s lines = [] ↔
      ∀ pre raw k, pre ++ [raw] <+: lines → closesBlock (trim raw) = true →
        levelAfter? cfg 0 pre = some k →
          switchesInSwitch cfg s pre < s.depth + armsInSwitch cfg s pre + k) ∧
    (elisions cfg s lines = [] →
      (run cfg s lines).1.depth + switchesInSwitch cfg s lines =
        s.depth + armsInSwitch cfg s lines) := by
  have hend := inSwitch_run_of_wellNested hnested hs hswitch hlines
  have hlevel := levelAfter?_of_wellNested hnested 0
  -- outside a switch, at both ends, the open blocks are those that the depth counts
  have hstart : s.openBlocks = s.depth := by simp [State.openBlocks, hswitch]
  have hlast : (run cfg s lines).1.openBlocks = (run cfg s lines).1.depth := by
    simp [State.openBlocks, hend]
  have hshown := elisions_eq_nil_iff hs hlines hpending hlevel
  rw [hstart] at hshown
  have hdepth (hnone : elisions cfg s lines = []) := openBlocks_run hs hlines hlevel hnone
  rw [hstart, hlast] at hdepth
  refine ⟨hend, fun hswitches harms => ?_, hshown, hdepth⟩
  have hnone : elisions cfg s lines = [] := by
    refine hshown.mpr fun pre raw k hpre hcloses hk => ?_
    have hle : switchesInSwitch cfg s pre ≤ switchesInSwitch cfg s lines :=
      switchesInSwitch_le_of_prefix ((List.prefix_append pre [raw]).trans hpre)
    have hpos := levelAfter?_pos hlevel hpre hcloses hk
    omega
  have hmoved := hdepth hnone
  exact ⟨hnone, by omega⟩

/-- A block with two parts, the first of which holds a switch. -/
theorem wellNested_run_of_switch_in_block :
    WellNested {} ["if (a) \x7b", "  switch (x) \x7b", "  case 1:", "    y();", "  \x7d",
        "\x7d else \x7b", "", "  z();", "\x7d"] ∧
      (elisions {} { index := 7, blockOpen := true }
          ["if (a) \x7b", "  switch (x) \x7b", "  case 1:", "    y();", "  \x7d",
            "\x7d else \x7b", "", "  z();", "\x7d"] = [] ∧
        (run {} { index := 7, blockOpen := true }
          ["if (a) \x7b", "  switch (x) \x7b", "  case 1:", "    y();", "  \x7d",
            "\x7d else \x7b", "", "  z();", "\x7d"]).1.depth = 0) := by
  have hbody : WellNested {} ["  switch (x) \x7b", "  case 1:", "    y();", "  \x7d"] :=
    @WellNested.block {} "  switch (x) \x7b" "  \x7d" ["  case 1:", "    y();"] [] [] (by decide)
      (.plain (by decide) (.plain (by decide) .nil)) (by simp) (by simp) (by decide) .nil
  have hpart : WellNested {} ["", "  z();"] := .plain (by decide) (.plain (by decide) .nil)
  have hnested := @WellNested.block {} "if (a) \x7b" "\x7d"
    ["  switch (x) \x7b", "  case 1:", "    y();", "  \x7d"] []
    [("\x7d else \x7b", ["", "  z();"])] (by decide) hbody (by decide) (by simpa using hpart)
    (by decide) .nil
  have hrun := wellNested_run (s := { index := 7, blockOpen := true }) ⟨rfl, rfl⟩ rfl rfl hnested
    (by decide +kernel)
  exact ⟨hnested, hrun.2.1 (by decide +kernel) (by decide +kernel)⟩

/-- Of two switches, one in the other, the second closing brace is left out at depth zero; and a
    block in two parts in a switch leaves the code behind it one level deeper. -/
theorem wellNested_not_neutral :
    Settings.Valid {} ∧
    (WellNested {} ["switch (x) \x7b", "switch (y) \x7b", "\x7d", "\x7d"] ∧
      (∀ raw ∈ ["switch (x) \x7b", "switch (y) \x7b", "\x7d", "\x7d"],
        isCodeLine {} raw = true) ∧
      elisions {} { index := 4, blockOpen := true }
        ["switch (x) \x7b", "switch (y) \x7b", "\x7d", "\x7d"] = [(8, .closer)]) ∧
    (WellNested {} ["switch (x) \x7b", "if (a) \x7b", "\x7d else \x7b", "\x7d", "\x7d"] ∧
      (∀ raw ∈ ["switch (x) \x7b", "if (a) \x7b", "\x7d else \x7b", "\x7d", "\x7d"],
        isCodeLine {} raw = true) ∧
      (run {} { index := 4, blockOpen := true }
        ["switch (x) \x7b", "if (a) \x7b", "\x7d else \x7b", "\x7d", "\x7d"]).1.depth = 1) := by
  have hinner : WellNested {} ["switch (y) \x7b", "\x7d"] :=
    @WellNested.block {} "switch (y) \x7b" "\x7d" [] [] [] (by decide) .nil (by simp) (by simp)
      (by decide) .nil
  have hparts : WellNested {} ["if (a) \x7b", "\x7d else \x7b", "\x7d"] :=
    @WellNested.block {} "if (a) \x7b" "\x7d" [] [] [("\x7d else \x7b", [])] (by decide) .nil
      (by decide) (by simpa using .nil) (by decide) .nil
  have hswitches := @WellNested.block {} "switch (x) \x7b" "\x7d" _ [] [] (by decide) hinner
    (by simp) (by simp) (by decide) .nil
  have harms := @WellNested.block {} "switch (x) \x7b" "\x7d" _ [] [] (by decide) hparts
    (by simp) (by simp) (by decide) .nil
  exact ⟨rfl, ⟨hswitches, by decide, by decide +kernel⟩, harms, by decide, by decide +kernel⟩

end SourceWeaver.Scan
