/-
  The balance of fences.

  The fences of a document are balanced if a block is opened only where none is open, is closed
  only where one is, and none is open at the end.  A scan does not check this where a comment
  begins or ends, so the balance depends on the source (`fences_balanced_iff`): a comment must not
  end twice, and a source that is primed to open with a comment must not begin its first comment
  behind its first line.
-/

import SourceWeaver.Proofs.Document.Priming
import SourceWeaver.Proofs.Scan.Invariant

namespace SourceWeaver.Scan

open Text

variable {cfg : Settings} {s : State}

/-! ## Balance -/

/-- Behind some blocks that are open, at most one block is open after each piece, blocks are closed
    only where one is open, and none is open at the end. -/
def BalancedFrom (opened : Nat) (ps : List Piece) : Prop :=
  (∀ pre, pre <+: ps →
    pre.count .closing ≤ pre.count .opening + opened ∧
      pre.count .opening + opened ≤ pre.count .closing + 1) ∧
  ps.count .opening + opened = ps.count .closing

/-- At every place of a document as many blocks have been closed as opened, or one less, and at its
    end as many. -/
def Balanced (ps : List Piece) : Prop :=
  (∀ pre, pre <+: ps →
    pre.count .closing ≤ pre.count .opening ∧ pre.count .opening ≤ pre.count .closing + 1) ∧
  ps.count .opening = ps.count .closing

/-- The balance behind a piece is the balance before it, the piece counted in. -/
theorem balancedFrom_cons {n m : Nat} {p : Piece} {ps : List Piece} (hn : n ≤ 1)
    (h : [p].count .opening + n = [p].count .closing + m) :
    BalancedFrom n (p :: ps) ↔ BalancedFrom m ps := by
  have hopening (t : List Piece) :
      (p :: t).count .opening = [p].count .opening + t.count .opening := by
    rw [← List.singleton_append, List.count_append]
  have hclosing (t : List Piece) :
      (p :: t).count .closing = [p].count .closing + t.count .closing := by
    rw [← List.singleton_append, List.count_append]
  -- one direction looks at the beginnings with the piece in front, the other takes it off again
  constructor
  · rintro ⟨hpre, hend⟩
    rw [hopening, hclosing] at hend
    refine ⟨fun pre hps => ?_, by omega⟩
    have hcons := hpre (p :: pre) ((List.prefix_cons_inj p).mpr hps)
    rw [hopening, hclosing] at hcons
    omega
  · rintro ⟨hpre, hend⟩
    refine ⟨fun pre hps => ?_, by rw [hopening, hclosing]; omega⟩
    -- the empty beginning is within bounds because at most one block is open
    rcases List.prefix_cons_iff.mp hps with rfl | ⟨t, rfl, ht⟩
    · rw [List.count_nil, List.count_nil]
      omega
    · have hrest := hpre t ht
      rw [hopening, hclosing]
      omega

/-- Whether, with a block open or not, blocks are opened only where none is open, are closed only
    where one is, and none is left open. -/
def alternates : Bool → List Piece → Bool
  | isOpen, [] => !isOpen
  | isOpen, .opening :: ps => !isOpen && alternates true ps
  | isOpen, .closing :: ps => isOpen && alternates false ps
  | isOpen, .text _ :: ps => alternates isOpen ps

theorem alternates_text (isOpen : Bool) (lines : List String) (ps : List Piece) :
    alternates isOpen (lines.map .text ++ ps) = alternates isOpen ps := by
  induction lines with
  | nil => rfl
  | cons line rest ih => exact ih

/-- Counting the fences and going through them one by one is the same. -/
theorem alternates_iff (isOpen : Bool) (ps : List Piece) :
    alternates isOpen ps = true ↔ BalancedFrom isOpen.toNat ps := by
  have hle : isOpen.toNat ≤ 1 := Bool.toNat_le isOpen
  induction ps generalizing isOpen with
  | nil =>
    cases isOpen with
    | false => exact iff_of_true rfl ⟨fun pre hpre => by simp [List.prefix_nil.mp hpre], rfl⟩
    | true => exact iff_of_false Bool.false_ne_true fun h => absurd h.2 (by decide)
  | cons p rest ih =>
    cases p with
    | text line => exact (ih isOpen hle).trans (balancedFrom_cons hle rfl).symm
    | opening =>
      cases isOpen with
      | false => exact (ih true (Nat.le_refl 1)).trans (balancedFrom_cons hle rfl).symm
      | true =>
        -- two blocks would be open behind this fence
        refine iff_of_false Bool.false_ne_true fun h => ?_
        have htwo := (h.1 [.opening] (List.prefix_append [_] rest)).2
        exact absurd htwo (by decide)
    | closing =>
      cases isOpen with
      | false =>
        -- more blocks would be closed than opened
        refine iff_of_false Bool.false_ne_true fun h => ?_
        have hnone := (h.1 [.closing] (List.prefix_append [_] rest)).1
        exact absurd hnone (by decide)
      | true => exact (ih false (Nat.zero_le 1)).trans (balancedFrom_cons hle rfl).symm

theorem balanced_iff (ps : List Piece) : Balanced ps ↔ alternates false ps = true :=
  (alternates_iff false ps).symm

/-! ## From a comment or a block on -/

/-- In a comment or a block, behind the first line, the fences alternate exactly if every line that
    ends a comment is met inside one. -/
theorem alternates_piecesFrom_iff (hs : s.inComment = !s.blockOpen) (hindex : 0 < s.index)
    (lines : List String) :
    alternates s.blockOpen (piecesFrom cfg s lines) = true ↔ ClosersEndComments cfg s lines := by
  induction lines generalizing s with
  | nil =>
    have hclosers : ClosersEndComments cfg s [] := fun v hv => absurd hv List.not_mem_nil
    rw [piecesFrom_nil, finish, iff_true_right hclosers]
    cases hb : s.blockOpen <;> rfl
  | cons raw rest ih =>
    have hindex' : 0 < (step cfg s raw).1.index := by
      rw [step_index]
      omega
    rw [piecesFrom_cons, closersEndComments_cons]
    cases hm : (Visit.mk s (trim raw)).marks cfg with
    | false =>
      obtain ⟨hin, hblock⟩ := unmarked_step hm
      obtain ⟨out, hout⟩ := unmarked_emits hm
      have hrest := ih (hin.trans (hs.trans (congrArg _ hblock.symm))) hindex'
      rw [hblock] at hrest
      -- no fence comes out, and the scan stays where it is
      have hcloser : role cfg s (trim raw) = .closer → s.inComment = true :=
        fun hr => absurd hr (not_marks_iff.mp hm).2
      rw [hout, alternates_text, hrest, and_iff_right hcloser]
    | true =>
      have hrest := ih (marked_step hm) hindex'
      rcases marks_iff.mp hm with hr | hr
      -- outside a comment a block is open, and the comment closes it
      · have hout : s.inComment = false := (role_eq_opener_iff.mp hr).2.2.2.1
        have hopen : s.blockOpen = true := by
          rw [hout] at hs
          simpa using hs
        have hcloser : role cfg s (trim raw) = .closer → s.inComment = true :=
          fun hc => absurd (hr.symm.trans hc) (by decide)
        have hfirst : ¬ s.index = 0 := by omega
        rw [step_of_opener hr] at hrest ⊢
        rw [and_iff_right hcloser, if_neg hfirst, hopen]
        exact hrest
      -- the fence that opens a block is right only in a comment, where none is open
      · rw [step_of_closer hr] at hrest ⊢
        have hwalk (ps : List Piece) : alternates s.blockOpen ([.text "", .opening] ++ ps) =
            (!s.blockOpen && alternates true ps) := rfl
        rw [hwalk, ← hs, Bool.and_eq_true]
        exact and_congr ⟨fun h _ => h, fun h => h hr⟩ hrest

/-! ## From outside of comments and blocks on -/

/-- The lines of a scan that begin or end a comment. -/
def marks (cfg : Settings) (s : State) (lines : List String) : List Visit :=
  (visits cfg s lines).filter fun v => v.marks cfg

theorem marks_cons_of_pos {raw : String} (h : (Visit.mk s (trim raw)).marks cfg = true)
    (rest : List String) :
    marks cfg s (raw :: rest) = ⟨s, trim raw⟩ :: marks cfg (step cfg s raw).1 rest := by
  rw [marks, visits_cons, List.filter_cons_of_pos h, marks]

theorem marks_cons_of_neg {raw : String} (h : (Visit.mk s (trim raw)).marks cfg = false)
    (rest : List String) :
    marks cfg s (raw :: rest) = marks cfg (step cfg s raw).1 rest := by
  rw [marks, visits_cons, List.filter_cons_of_neg (Bool.not_eq_true _ ▸ h), marks]

theorem closersEndComments_iff_marks {lines : List String} :
    ClosersEndComments cfg s lines ↔
      ∀ v ∈ marks cfg s lines, v.role cfg = .closer → v.state.inComment = true := by
  constructor
  · intro h v hv
    exact h v (List.mem_filter.mp hv).1
  · intro h v hv hr
    exact h v (List.mem_filter.mpr ⟨hv, marks_iff.mpr (.inr hr)⟩) hr

/-- The first line that begins or ends a comment ends one, or is the first line of the source, and
    every later line that ends a comment is met inside one. -/
def MarkedFromOutside (cfg : Settings) (s : State) (lines : List String) : Prop :=
  (∀ v ∈ (marks cfg s lines).head?, v.role cfg = .opener → v.state.index = 0) ∧
  ∀ v ∈ (marks cfg s lines).tail, v.role cfg = .closer → v.state.inComment = true

/-- Outside of comments and blocks, the fences alternate exactly if `MarkedFromOutside` holds. -/
theorem alternates_piecesFrom_outside_iff (hin : s.inComment = false) (hblock : s.blockOpen = false)
    (lines : List String) :
    alternates false (piecesFrom cfg s lines) = true ↔ MarkedFromOutside cfg s lines := by
  induction lines generalizing s with
  | nil =>
    rw [piecesFrom_nil, finish, if_neg (by rw [hblock]; exact Bool.false_ne_true)]
    exact iff_of_true rfl
      ⟨fun v hv => absurd hv (Option.not_mem_none v), fun v hv => absurd hv List.not_mem_nil⟩
  | cons raw rest ih =>
    rw [piecesFrom_cons]
    cases hm : (Visit.mk s (trim raw)).marks cfg with
    | false =>
      obtain ⟨hin', hblock'⟩ := unmarked_step hm
      obtain ⟨out, hout⟩ := unmarked_emits hm
      rw [hout, alternates_text, MarkedFromOutside, marks_cons_of_neg hm]
      exact ih (hin'.trans hin) (hblock'.trans hblock)
    | true =>
      -- from the first mark on the scan is in a comment or in a block
      have hindex : 0 < (step cfg s raw).1.index := by
        rw [step_index]
        omega
      have hrest : alternates (step cfg s raw).1.blockOpen
            (piecesFrom cfg (step cfg s raw).1 rest) = true ↔
          ClosersEndComments cfg (step cfg s raw).1 rest :=
        alternates_piecesFrom_iff (marked_step hm) hindex rest
      rw [closersEndComments_iff_marks] at hrest
      rw [MarkedFromOutside, marks_cons_of_pos hm, List.head?_cons, List.tail_cons]
      rcases marks_iff.mp hm with hr | hr
      · by_cases hfirst : s.index = 0
        · rw [step_of_opener hr] at hrest ⊢
          rw [if_pos hfirst, and_iff_right fun v hv _ => ?_]
          · exact hrest
          · cases hv
            exact hfirst
        -- the comment closes a block that nothing has opened
        · refine iff_of_false ?_ fun h => hfirst (h.1 ⟨s, trim raw⟩ rfl hr)
          rw [step_of_opener hr, if_neg hfirst]
          exact Bool.false_ne_true
      · rw [step_of_closer hr] at hrest ⊢
        rw [and_iff_right fun v hv ho => ?_]
        · exact hrest
        · cases hv
          exact absurd (ho.symm.trans hr) (by decide)

/-! ## Documents -/

/-- The pieces of a document with its first line read as a fence if the source opens in code. -/
def readFence : Opening → List Piece → List Piece
  | .code, _ :: ps => .opening :: ps
  | _, ps => ps

/-- Where a source begins and ends comments, by how it opens. -/
def WellMarked (cfg : Settings) : Opening → List String → Prop
  | .code, lines => ClosersEndComments cfg Opening.code.start lines
  | .comment, lines => MarkedFromOutside cfg Opening.comment.start lines

theorem alternates_of_comment (primed : List String) :
    alternates false (readFence .comment (weave cfg .comment primed)) = true ↔
      WellMarked cfg .comment primed :=
  alternates_piecesFrom_outside_iff rfl rfl primed

theorem alternates_of_code (hv : cfg.Valid) (hp : cfg.PlainFence) (rest : List String) :
    alternates false (readFence .code (weave cfg .code (cfg.fenceOpen :: rest))) = true ↔
      WellMarked cfg .code (cfg.fenceOpen :: rest) := by
  have hs := withinBlock_behindFence cfg
  rw [weave_code hv hp, WellMarked, closersEndComments_code hv hp]
  exact alternates_piecesFrom_iff rfl hs.index_pos rest

/-- The fence that is read for the first line is written as that line. -/
theorem render_readFence_code (hv : cfg.Valid) (hp : cfg.PlainFence) (rest : List String) :
    (readFence .code (weave cfg .code (cfg.fenceOpen :: rest))).map (Piece.render cfg) =
      (weave cfg .code (cfg.fenceOpen :: rest)).map (Piece.render cfg) := by
  rw [weave_code hv hp]
  rfl

/-- Every source of at least two lines has a document, and its fences are balanced exactly if the
    source is well marked. -/
theorem fences_balanced_iff (hv : cfg.Valid) (hp : cfg.PlainFence) {lines : List String}
    (hlen : 2 ≤ lines.length) :
    ∃ opening primed,
      primeHeader cfg lines = .ok (opening, primed) ∧
      convert cfg lines =
        .ok ⟨(readFence opening (weave cfg opening primed)).map (Piece.render cfg)⟩ ∧
      (Balanced (readFence opening (weave cfg opening primed)) ↔
        WellMarked cfg opening primed) ∧
      (alternates false (readFence opening (weave cfg opening primed)) = true ↔
        WellMarked cfg opening primed) := by
  obtain ⟨opening, first, rest, hprimed, hfence⟩ := exists_primed cfg hlen
  refine ⟨opening, first :: rest, hprimed, ?_⟩
  rw [convert_of_primed hprimed, balanced_iff, and_self_iff]
  -- the line that opens a block in the source itself counts as the fence that it is
  cases opening with
  | comment => exact ⟨rfl, alternates_of_comment (first :: rest)⟩
  | code =>
    rw [hfence rfl, render_readFence_code hv hp]
    exact ⟨rfl, alternates_of_code hv hp rest⟩

/-- A source with one comment, at its beginning. -/
theorem fences_balanced_of_first_comment :
    Settings.Valid {} ∧ Settings.PlainFence {} ∧ 2 ≤ ["/*", "T", "*/", "x;"].length ∧
      WellMarked {} .comment ["/*", "### T", "*/", "x;"] ∧
      Balanced (readFence .comment (weave {} .comment ["/*", "### T", "*/", "x;"])) := by
  have hv : Settings.Valid {} := Settings.valid_default
  have hp : Settings.PlainFence {} := ⟨rfl, rfl, rfl, rfl⟩
  have hlen : 2 ≤ ["/*", "T", "*/", "x;"].length := by decide
  have hmarked : WellMarked {} .comment ["/*", "### T", "*/", "x;"] :=
    ⟨by decide +kernel, by decide +kernel⟩
  obtain ⟨opening, primed, hprimed, -, hbalanced, -⟩ := fences_balanced_iff hv hp hlen
  have hcomment : primeHeader {} ["/*", "T", "*/", "x;"] =
      .ok (.comment, ["/*", "### T", "*/", "x;"]) := by rfl
  rw [hcomment] at hprimed
  cases hprimed
  exact ⟨hv, hp, hlen, hmarked, hbalanced.mpr hmarked⟩

/-- A comment that begins behind the first line of a source that does not open in code closes a
    block that nothing has opened, and a comment that ends twice opens two blocks. -/
theorem fences_not_balanced :
    (Settings.Valid {} ∧ Settings.PlainFence {}) ∧
    (primeHeader {} ["int a;", "int b;", "/*", "x", "*/", "y;"] =
        .ok (.comment, ["int a;", "### int b;", "/*", "x", "*/", "y;"]) ∧
      ¬ Balanced (readFence .comment
        (weave {} .comment ["int a;", "### int b;", "/*", "x", "*/", "y;"]))) ∧
    (primeHeader {} ["/*", "T", "*/", "x; /* c */", "y;"] =
        .ok (.comment, ["/*", "### T", "*/", "x; /* c */", "y;"]) ∧
      ¬ Balanced (readFence .comment
        (weave {} .comment ["/*", "### T", "*/", "x; /* c */", "y;"]))) := by
  refine ⟨⟨rfl, rfl, rfl, rfl, rfl⟩, ⟨rfl, ?_⟩, rfl, ?_⟩
  · rw [balanced_iff]
    decide +kernel
  · rw [balanced_iff]
    decide +kernel

end SourceWeaver.Scan
