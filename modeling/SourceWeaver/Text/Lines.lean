/-
  Texts as lines.

  A line ends at a line feed, and a carriage return right before the line feed belongs to the
  ending; a last line without an ending counts if it is not empty.  `unlines` writes lines back,
  each with a line feed.
-/

namespace SourceWeaver.Text

/-- The characters of a terminated line, from those read so far in reverse: one carriage return
    right before the ending belongs to the ending. -/
def terminated : List Char → List Char
  | '\r' :: rest => rest.reverse
  | read => read.reverse

/-- The lines of a text of which `read`, in reverse, has been read since the last ending. -/
def linesFrom (read : List Char) : List Char → List (List Char)
  | [] => if read.isEmpty then [] else [read.reverse]
  | c :: rest =>
    if c = '\n' then terminated read :: linesFrom [] rest else linesFrom (c :: read) rest

/-- The lines of a text, without their endings. -/
def lines (s : String) : List String :=
  (linesFrom [] s.toList).map String.ofList

/-- Lines as a text, each ended by a line feed. -/
def unlines (ls : List String) : String :=
  String.join (ls.map (· ++ "\n"))

theorem unlines_cons (line : String) (rest : List String) :
    unlines (line :: rest) = line ++ "\n" ++ unlines rest := by
  rw [unlines, List.map_cons, String.join_cons, unlines]

theorem linesFrom_cons_of_ne {c : Char} (h : c ≠ '\n') (read rest : List Char) :
    linesFrom read (c :: rest) = linesFrom (c :: read) rest := by
  simp [linesFrom, h]

/-- What holds no line feed is read as a whole. -/
theorem linesFrom_of_no_feed (read rest : List Char) (h : '\n' ∉ rest) :
    linesFrom read rest = linesFrom (rest.reverse ++ read) [] := by
  induction rest generalizing read with
  | nil => rfl
  | cons c rest ih =>
    have hc : c ≠ '\n' := fun e => h (by simp [e])
    have hr : '\n' ∉ rest := fun m => h (by simp [m])
    rw [linesFrom_cons_of_ne hc, ih (c :: read) hr]
    simp

/-- A text without a line feed is one line, or none if it is empty. -/
theorem lines_of_no_feed (s : String) (h : '\n' ∉ s.toList) :
    lines s = if s = "" then [] else [s] := by
  rw [lines, linesFrom_of_no_feed [] s.toList h]
  by_cases he : s = ""
  · subst he
    rfl
  · have hl : s.toList ≠ [] := by simpa using he
    simp [linesFrom, he]

end SourceWeaver.Text
