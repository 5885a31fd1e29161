/-
  The course of a scan.

  `visits` lists the lines of a scan, trimmed, each with the state that it meets, so that a law can
  speak of "every line that ends a comment" or "the lines since the last comment".
  `piecesFrom` is all that a scan still emits, the end of the document included.
-/

import SourceWeaver.Proofs.Scan.Steps

namespace SourceWeaver.Scan

open Text

variable {cfg : Settings} {s : State}

/-! ## Visits -/

/-- A trimmed line of a scan with the state that it meets. -/
structure Visit where
  state : State
  line : String
deriving DecidableEq, Repr

/-- What the line is to the scan. -/
def Visit.role (cfg : Settings) (v : Visit) : Role :=
  Scan.role cfg v.state v.line

/-- The lines of a scan with the states that they meet. -/
def visits (cfg : Settings) (s : State) : List String → List Visit
  | [] => []
  | raw :: rest => ⟨s, trim raw⟩ :: visits cfg (step cfg s raw).1 rest

theorem visits_nil : visits cfg s [] = [] := rfl

theorem visits_cons (raw : String) (rest : List String) :
    visits cfg s (raw :: rest) = ⟨s, trim raw⟩ :: visits cfg (step cfg s raw).1 rest := rfl

theorem visits_append (a b : List String) :
    visits cfg s (a ++ b) = visits cfg s a ++ visits cfg (run cfg s a).1 b := by
  induction a generalizing s with
  | nil => rfl
  | cons raw rest ih => rw [List.cons_append, visits_cons, visits_cons, ih, run_cons, List.cons_append]

/-- A scan visits each line in the state that the lines before it lead to. -/
theorem mem_visits_iff {v : Visit} {lines : List String} :
    v ∈ visits cfg s lines ↔
      ∃ pre raw post, lines = pre ++ raw :: post ∧ v = ⟨(run cfg s pre).1, trim raw⟩ := by
  induction lines generalizing s with
  | nil => simp [visits_nil]
  | cons raw rest ih =>
    rw [visits_cons, List.mem_cons, ih]
    constructor
    · rintro (rfl | ⟨pre, raw', post, rfl, rfl⟩)
      · exact ⟨[], raw, rest, rfl, rfl⟩
      · exact ⟨raw :: pre, raw', post, rfl, rfl⟩
    · rintro ⟨pre, raw', post, hsplit, rfl⟩
      -- with nothing before it the line is the first one
      cases pre with
      | nil =>
        obtain ⟨rfl, rfl⟩ := List.cons.inj hsplit
        exact .inl rfl
      | cons first pre =>
        obtain ⟨rfl, rfl⟩ := List.cons.inj hsplit
        exact .inr ⟨pre, raw', post, rfl, rfl⟩

/-! ## One line more -/

theorem run_concat (lines : List String) (raw : String) :
    run cfg s (lines ++ [raw]) =
      ((step cfg (run cfg s lines).1 raw).1,
        (run cfg s lines).2 ++ (step cfg (run cfg s lines).1 raw).2) := by
  rw [run_append, run_cons, run_nil, List.append_nil]

theorem visits_concat (lines : List String) (raw : String) :
    visits cfg s (lines ++ [raw]) = visits cfg s lines ++ [⟨(run cfg s lines).1, trim raw⟩] :=
  visits_append lines [raw]

/-- A scan counts its lines. -/
theorem run_index (cfg : Settings) (s : State) (lines : List String) :
    (run cfg s lines).1.index = s.index + lines.length := by
  induction lines generalizing s with
  | nil => rfl
  | cons raw rest ih =>
    rw [run_cons, ih, step_index, List.length_cons]
    omega

/-! ## What is still to come -/

/-- All pieces that come out from a state on, up to the end of the document. -/
def piecesFrom (cfg : Settings) (s : State) (lines : List String) : List Piece :=
  (run cfg s lines).2 ++ finish (run cfg s lines).1

theorem piecesFrom_nil : piecesFrom cfg s [] = finish s := rfl

theorem piecesFrom_append (a b : List String) :
    piecesFrom cfg s (a ++ b) = (run cfg s a).2 ++ piecesFrom cfg (run cfg s a).1 b := by
  rw [piecesFrom, run_append, piecesFrom, List.append_assoc]

theorem piecesFrom_cons (raw : String) (rest : List String) :
    piecesFrom cfg s (raw :: rest) =
      (step cfg s raw).2 ++ piecesFrom cfg (step cfg s raw).1 rest := by
  rw [piecesFrom, run_cons, piecesFrom, List.append_assoc]

/-! ## Ends of comments -/

/-- The lines that end a comment. -/
def terminators (cfg : Settings) (s : State) (lines : List String) : List Visit :=
  (visits cfg s lines).filter fun v => v.role cfg == .closer

theorem count_opening_text (lines : List String) :
    (lines.map Piece.text).count .opening = 0 := by
  rw [List.count_eq_zero]
  simp

/-- A fence opens a block exactly where a line ends a comment. -/
theorem count_opening_step (raw : String) :
    (step cfg s raw).2.count .opening = if role cfg s (trim raw) = .closer then 1 else 0 := by
  -- only the end of a comment emits such a fence
  cases hr : role cfg s (trim raw) with
  | wrapper => simp [step_of_wrapper hr]
  | skipped => simp [step_of_skipped hr]
  | closer => simp [step_of_closer hr]
  | prose =>
    rw [step_of_prose hr]
    exact count_opening_text _
  | opener =>
    rw [step_of_opener hr]
    split <;> simp
  | code =>
    rw [step_of_code hr]
    exact count_opening_text _

theorem count_opening_run (lines : List String) :
    (run cfg s lines).2.count .opening = (terminators cfg s lines).length := by
  induction lines generalizing s with
  | nil => rfl
  | cons raw rest ih =>
    rw [run_cons, List.count_append, count_opening_step, ih, terminators, terminators, visits_cons,
      List.filter_cons, Visit.role]
    by_cases hr : role cfg s (trim raw) = .closer
    · simp [hr, Nat.add_comm]
    · simp [hr]

/-- The end of a document closes a block if it does anything, so no fence opens there. -/
theorem count_opening_piecesFrom (lines : List String) :
    (piecesFrom cfg s lines).count .opening = (terminators cfg s lines).length := by
  rw [piecesFrom, List.count_append, count_opening_run, finish]
  split <;> simp

end SourceWeaver.Scan
