/-
  The structure of a document.

  A source that keeps to the conventions, in which every line that ends a comment is met inside
  one, is a sequence of sections: the code behind the end of a comment, and the body of the next
  comment.  `cutComment` and `cutBlock` cut the lines of a source into sections by their shape
  alone, and `sectionPieces` says what comes out for them.  The document is the outline of the
  source (`convert_eq_outline`).
-/

import SourceWeaver.Proofs.Document.Priming

namespace SourceWeaver.Scan

open Text

variable {cfg : Settings} {s : State}

/-! ## Sections of a source -/

/-- The code behind the end of a comment, and the body of the comment behind it. -/
structure Section where
  code : List String
  comment : List String
deriving DecidableEq, Repr

/-- What is left behind the beginning of the next comment is shorter. -/
theorem length_nextComment_lt {lines behind : List String} {raw : String}
    (h : onward cfg.endsComment lines = raw :: behind) :
    (onward cfg.beginsComment (behind.dropWhile cfg.leadsBlock)).tail.length < lines.length := by
  have hbehind := length_onward_le cfg.endsComment lines
  have hblock := (List.dropWhile_sublist cfg.leadsBlock (l := behind)).length_le
  have hnext := length_onward_le cfg.beginsComment (behind.dropWhile cfg.leadsBlock)
  rw [h, List.length_cons] at hbehind
  rw [List.length_tail]
  omega

/-- The lines from the inside of a comment on: the rest of its body, and the sections behind. -/
def cutComment (cfg : Settings) (lines : List String) : List String × List Section :=
  match h : onward cfg.endsComment lines with
  | [] => (lines, [])
  | _ :: behind =>
    have := length_nextComment_lt h
    let block := behind.dropWhile cfg.leadsBlock
    let next := cutComment cfg (onward cfg.beginsComment block).tail
    (upTo cfg.endsComment lines, ⟨upTo cfg.beginsComment block, next.1⟩ :: next.2)
termination_by lines.length
decreasing_by assumption

/-- The lines from the inside of a block on: its section, and the sections behind. -/
def cutBlock (cfg : Settings) (lines : List String) : Section × List Section :=
  let next := cutComment cfg (onward cfg.beginsComment lines).tail
  (⟨upTo cfg.beginsComment lines, next.1⟩, next.2)

theorem cutComment_of_no_end {lines : List String}
    (h : onward cfg.endsComment lines = []) : cutComment cfg lines = (lines, []) := by
  rw [cutComment]
  split
  · rfl
  · rename_i hcons
    rw [h] at hcons
    cases hcons

theorem cutComment_of_end {lines behind : List String} {raw : String}
    (h : onward cfg.endsComment lines = raw :: behind) :
    cutComment cfg lines =
      (upTo cfg.endsComment lines,
        (cutBlock cfg (behind.dropWhile cfg.leadsBlock)).1 ::
          (cutBlock cfg (behind.dropWhile cfg.leadsBlock)).2) := by
  rw [cutComment]
  -- `onward` is what the definition branches on, and it is not empty here
  split
  · rename_i hnil
    rw [h] at hnil
    cases hnil
  · rename_i hcons
    rw [h] at hcons
    cases hcons
    rfl

/-! ## What comes out for a section -/

/-- What comes out for a section whose code begins in some nesting, from behind the fence that
    opens the block on, with what is left of the nesting behind the comment. -/
def Section.pieces (cfg : Settings) (s : State) (sec : Section) : State × List Piece :=
  let block := codeRun cfg s (cfg.kept sec.code)
  (block.1.behindComment,
    block.2.map .text ++ [.closing, .text ""] ++ (proseOf cfg sec.comment).map .text)

/-- What comes out for sections that follow the end of a comment. -/
def sectionPieces (cfg : Settings) (s : State) : List Section → List Piece
  | [] => []
  | sec :: more =>
    [.text "", .opening] ++ (sec.pieces cfg s).2 ++ sectionPieces cfg (sec.pieces cfg s).1 more

/-- Every section opens one block. -/
theorem count_opening_sectionPieces (sections : List Section) :
    (sectionPieces cfg s sections).count .opening = sections.length := by
  induction sections generalizing s with
  | nil => rfl
  | cons sec more ih =>
    rw [sectionPieces, List.count_append, List.count_append, ih, Section.pieces]
    simp only [List.count_append, count_opening_text, List.length_cons]
    exact Nat.add_comm 1 more.length

/-- Inside a comment, the rest of its body comes out as prose, and the sections behind as
    sections. -/
theorem piecesFrom_cutComment {s : State} (hs : s.WithinComment) (lines : List String)
    (hclosers : ClosersEndComments cfg s lines) :
    piecesFrom cfg s lines =
      (proseOf cfg (cutComment cfg lines).1).map .text ++
        sectionPieces cfg s.behindComment (cutComment cfg lines).2 := by
  have hsplit := upTo_append_onward cfg.endsComment lines
  cases hend : onward cfg.endsComment lines with
  | nil =>
    -- the comment runs to the end of the source
    rw [hend, List.append_nil] at hsplit
    have hopen : ∀ raw ∈ lines, cfg.endsComment raw = false := by
      rw [← hsplit]
      exact of_mem_upTo
    rw [cutComment_of_no_end hend, piecesFrom_of_no_end hs hopen, sectionPieces, List.append_nil]
  | cons raw behind =>
    rw [hend] at hsplit
    rw [← hsplit] at hclosers
    -- from this comment into the block behind it, and from there into the next comment
    obtain ⟨s₁, hs₁, hnesting, hclosers₁, hpieces⟩ :=
      piecesFrom_comment_end hs of_mem_upTo (of_onward_eq_cons hend) hclosers
    obtain ⟨s₂, hs₂, hbehind, hclosers₂, hblock⟩ := piecesFrom_block hs₁ hclosers₁
    have ih := piecesFrom_cutComment hs₂ _ hclosers₂
    rw [hsplit] at hpieces
    rw [hpieces, hblock, ih, cutComment_of_end hend, hbehind, hnesting, cutBlock, sectionPieces,
      Section.pieces]
    simp only [List.append_assoc]
termination_by lines.length
decreasing_by exact length_nextComment_lt hend

/-- Inside a block, the rest of its section comes out, and the sections behind as sections. -/
theorem piecesFrom_cutBlock (hs : s.WithinBlock) {lines : List String}
    (hclosers : ClosersEndComments cfg s lines) :
    piecesFrom cfg s lines =
      ((cutBlock cfg lines).1.pieces cfg s.nesting).2 ++
        sectionPieces cfg ((cutBlock cfg lines).1.pieces cfg s.nesting).1
          (cutBlock cfg lines).2 := by
  obtain ⟨s', hs', hbehind, hclosers', hpieces⟩ := piecesFrom_block hs hclosers
  rw [hpieces, piecesFrom_cutComment hs' _ hclosers', hbehind, cutBlock, Section.pieces]
  simp only [List.append_assoc]

/-! ## Documents -/

/-- The sections of a source behind its first line. -/
def sections (cfg : Settings) : Opening → List String → List Section
  | .comment, rest => (cutComment cfg rest).2
  | .code, rest => (cutBlock cfg rest).2

/-- What comes out for a source that keeps to the conventions, from the lines behind its first.
    If it opens in code, the first block is one that no comment ends. -/
def outline (cfg : Settings) : Opening → List String → List Piece
  | .comment, rest =>
    (proseOf cfg (cutComment cfg rest).1).map .text ++ sectionPieces cfg {} (cutComment cfg rest).2
  | .code, rest =>
    let block := (cutBlock cfg rest).1.pieces cfg {}
    [.opening] ++ block.2 ++ sectionPieces cfg block.1 (cutBlock cfg rest).2

theorem count_opening_piecesFrom_cutBlock (hs : s.WithinBlock) {lines : List String}
    (hclosers : ClosersEndComments cfg s lines) :
    (piecesFrom cfg s lines).count .opening = (cutBlock cfg lines).2.length := by
  rw [piecesFrom_cutBlock hs hclosers, List.count_append, count_opening_sectionPieces,
    Section.pieces]
  simp [count_opening_text]

theorem count_opening_piecesFrom_cutComment (hs : s.WithinComment) {lines : List String}
    (hclosers : ClosersEndComments cfg s lines) :
    (piecesFrom cfg s lines).count .opening = (cutComment cfg lines).2.length := by
  rw [piecesFrom_cutComment hs lines hclosers, List.count_append, count_opening_sectionPieces,
    count_opening_text, Nat.zero_add]

/-- The document of a source that opens with a comment. -/
theorem outline_of_comment {first : String} {rest : List String}
    (hfirst : role cfg Opening.comment.start (trim first) = .opener)
    (hclosers : ClosersEndComments cfg Opening.comment.start (first :: rest)) :
    weave cfg .comment (first :: rest) = outline cfg .comment rest ∧
      (sections cfg .comment rest).length =
        (terminators cfg Opening.comment.start (first :: rest)).length := by
  have hstep := step_of_opener hfirst
  have hs : Opening.comment.start.next.openComment.WithinComment := withinComment_openComment _
  -- the opener itself emits no piece: the body of the comment starts behind it
  have hpieces : piecesFrom cfg Opening.comment.start (first :: rest) =
      piecesFrom cfg Opening.comment.start.next.openComment rest := by
    rw [piecesFrom_cons, hstep]
    rfl
  rw [closersEndComments_cons, hstep] at hclosers
  constructor
  · rw [weave_eq, hpieces, piecesFrom_cutComment hs rest hclosers.2]
    rfl
  -- sections and terminators are both counted by the fences that open
  · rw [← count_opening_piecesFrom, hpieces, count_opening_piecesFrom_cutComment hs hclosers.2]
    rfl

/-- The document of a source that opens in code. -/
theorem outline_of_code (hv : cfg.Valid) (hp : cfg.PlainFence)
    (hbrace : opensBlock cfg.fenceOpen = false) {rest : List String}
    (hclosers : ClosersEndComments cfg Opening.code.start (cfg.fenceOpen :: rest)) :
    (weave cfg .code (cfg.fenceOpen :: rest)).map (Piece.render cfg) =
        (outline cfg .code rest).map (Piece.render cfg) ∧
      (sections cfg .code rest).length =
        (terminators cfg Opening.code.start (cfg.fenceOpen :: rest)).length := by
  have hs := withinBlock_behindFence cfg
  -- the fence line is scanned as code, so it has to leave the nesting at zero
  have hnesting : (behindFence cfg).nesting = {} := by
    rw [behindFence, hbrace]
    rfl
  rw [closersEndComments_code hv hp] at hclosers
  constructor
  · rw [weave_code hv hp, piecesFrom_cutBlock hs hclosers, hnesting]
    rfl
  -- the fence line is a text of the document and not a fence that the scan opens
  · have hfence : Piece.text cfg.fenceOpen ≠ .opening := by simp
    rw [← count_opening_piecesFrom, ← weave_eq, weave_code hv hp, List.count_cons_of_ne hfence,
      count_opening_piecesFrom_cutBlock hs hclosers]
    rfl

/-- Every source of at least two lines that opens in code or begins with a comment, and in which
    every line that ends a comment is met inside one, has its outline as its document, with one
    section for every line that ends a comment. -/
theorem convert_eq_outline (hv : cfg.Valid) (hp : cfg.PlainFence)
    (hbrace : opensBlock cfg.fenceOpen = false) {lines : List String} (hlen : 2 ≤ lines.length) :
    ∃ opening first rest,
      primeHeader cfg lines = .ok (opening, first :: rest) ∧
      ((opening = .code ∨ role cfg opening.start (trim first) = .opener) →
        ClosersEndComments cfg opening.start (first :: rest) →
          convert cfg lines = .ok ⟨(outline cfg opening rest).map (Piece.render cfg)⟩ ∧
          (sections cfg opening rest).length =
            (terminators cfg opening.start (first :: rest)).length) := by
  obtain ⟨opening, first, rest, hprimed, hfence⟩ := exists_primed cfg hlen
  refine ⟨opening, first, rest, hprimed, fun hopens hclosers => ?_⟩
  rw [convert_of_primed hprimed]
  cases opening with
  | comment =>
    have hfirst := hopens.resolve_left (by decide)
    obtain ⟨hweave, hcount⟩ := outline_of_comment hfirst hclosers
    exact ⟨by rw [hweave], hcount⟩
  | code =>
    -- without a header comment the first line has become the fence
    rw [hfence rfl] at hclosers ⊢
    obtain ⟨hweave, hcount⟩ := outline_of_code hv hp hbrace hclosers
    exact ⟨by rw [hweave], hcount⟩

/-- A source with one comment, behind code and before code. -/
theorem outline_of_comment_between_code :
    Settings.Valid {} ∧ Settings.PlainFence {} ∧ opensBlock (Settings.fenceOpen {}) = false ∧
      2 ≤ ["// a", "// b", "/*", "x", "*/", "", "y;"].length ∧
      ClosersEndComments {} Opening.code.start ["```", "// b", "/*", "x", "*/", "", "y;"] ∧
      convert {} ["// a", "// b", "/*", "x", "*/", "", "y;"] =
        .ok ⟨(outline {} .code ["// b", "/*", "x", "*/", "", "y;"]).map (Piece.render {})⟩ ∧
      (sections {} .code ["// b", "/*", "x", "*/", "", "y;"]).length = 1 := by
  have hv : Settings.Valid {} := Settings.valid_default
  have hp : Settings.PlainFence {} := ⟨rfl, rfl, rfl, rfl⟩
  have hbrace : opensBlock (Settings.fenceOpen {}) = false := rfl
  have hlen : 2 ≤ ["// a", "// b", "/*", "x", "*/", "", "y;"].length := by decide
  have hclosers : ClosersEndComments {} Opening.code.start
      ["```", "// b", "/*", "x", "*/", "", "y;"] := by decide +kernel
  obtain ⟨opening, first, rest, hprimed, houtline⟩ := convert_eq_outline hv hp hbrace hlen
  have hcode : primeHeader {} ["// a", "// b", "/*", "x", "*/", "", "y;"] =
      .ok (.code, "```" :: ["// b", "/*", "x", "*/", "", "y;"]) := by rfl
  rw [hcode] at hprimed
  cases hprimed
  obtain ⟨hconvert, hcount⟩ := houtline (.inl rfl) hclosers
  have hone : (terminators {} Opening.code.start
      ["```", "// b", "/*", "x", "*/", "", "y;"]).length = 1 := by decide +kernel
  exact ⟨hv, hp, hbrace, hlen, hclosers, hconvert, hcount.trans hone⟩

end SourceWeaver.Scan
