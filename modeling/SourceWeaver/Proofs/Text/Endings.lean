/-
  How the lines of a text end.

  A line ends in a line feed, with or without a carriage return before it, and a last line may have
  no ending at all.  Texts that differ in nothing else (`SameButEndings`) have the same number of
  lines, and each pair of lines is the same up to one carriage return at its end.  So a property of
  lines that does not see it has the same values on both (`map_lines_eq`); trimming does not see it
  (`trim_of_readAs`), and neither does the beginning of a line by a marker that is not padded
  (`startsWith_of_readAs`).

  No line of a text holds a line feed (`feed_not_mem_of_mem_lines`).  Lines without line feeds that
  do not end in a carriage return are read back from the text that is written of them
  (`lines_unlines`).
-/

import SourceWeaver.Text.Blank
import SourceWeaver.Text.Lines
import Mathlib.Data.List.Infix

namespace SourceWeaver.Text

/-! ## White space at the end of a line -/

theorem trimmedEnd_concat {c : Char} (hc : isBlank c = true) (cs : List Char) :
    trimmedEnd (cs ++ [c]) = trimmedEnd cs := by
  rw [trimmedEnd, List.reverse_concat, List.dropWhile_cons_of_pos hc, trimmedEnd]

/-- One more character of white space at the end makes no difference to a trimmed text. -/
theorem trimmed_concat {c : Char} (hc : isBlank c = true) (cs : List Char) :
    trimmed (cs ++ [c]) = trimmed cs := by
  rw [trimmed, trimmed, List.dropWhile_append]
  cases hrest : cs.dropWhile isBlank with
  | nil =>
    rw [List.isEmpty_nil, if_pos rfl, List.dropWhile_cons_of_pos hc]
    rfl
  | cons d rest =>
    rw [List.isEmpty_cons, if_neg Bool.false_ne_true, trimmedEnd_concat hc]

/-- A marker that does not end in white space begins a text that does only if it begins the rest. -/
theorem prefix_of_prefix_concat {marker cs : List Char} {c : Char} (hc : isBlank c = true)
    (hm : trimmed marker = marker) (h : marker <+: cs ++ [c]) : marker <+: cs := by
  rcases List.prefix_concat_iff.mp h with rfl | h
  -- the marker would be the whole text, white space at its end included
  · have hne : trimmed (cs ++ [c]) ≠ [] := by
      rw [hm]
      exact List.concat_ne_nil c cs
    have hlast := isBlank_getLast_trimmed (cs ++ [c]) hne
    simp only [hm, List.getLast_concat] at hlast
    exact absurd (hc.symm.trans hlast) (by decide)
  · exact h

/-! ## Endings -/

/-- How a line ends. -/
inductive Ending where
  | feed
  | returnFeed
deriving DecidableEq, Repr

/-- The characters of an ending. -/
def Ending.chars : Ending → List Char
  | feed => ['\n']
  | returnFeed => ['\r', '\n']

/-- Texts that differ at most in how their lines end, and in whether a last line that is not empty
    has an ending. -/
inductive SameButEndings : List Char → List Char → Prop
  | nil : SameButEndings [] []
  | char {c : Char} {a b : List Char} (hc : c ≠ '\n') :
      SameButEndings a b → SameButEndings (c :: a) (c :: b)
  | ending (e e' : Ending) {a b : List Char} :
      SameButEndings a b → SameButEndings (e.chars ++ a) (e'.chars ++ b)
  | added {c : Char} (hc : c ≠ '\n') (e : Ending) : SameButEndings [c] (c :: e.chars)
  | removed {c : Char} (hc : c ≠ '\n') (e : Ending) : SameButEndings (c :: e.chars) [c]

/-- What a line may be whose characters have been read, in reverse: if the last one is a carriage
    return, it may belong to the ending. -/
def ReadAs (read line : List Char) : Prop :=
  line = read.reverse ∨ line = terminated read

theorem terminated_eq (read : List Char) :
    terminated read = read.reverse ∨ read.reverse = terminated read ++ ['\r'] := by
  unfold terminated
  split
  · rename_i rest
    exact .inr (List.reverse_cons ..)
  · exact .inl rfl

/-- Either ending ends the line that has been read. -/
theorem linesFrom_ending (e : Ending) (read rest : List Char) :
    ∃ line, ReadAs read line ∧ linesFrom read (e.chars ++ rest) = line :: linesFrom [] rest := by
  cases e with
  | feed => exact ⟨terminated read, .inr rfl, rfl⟩
  | returnFeed => exact ⟨read.reverse, .inl rfl, rfl⟩

/-- A last line without an ending is all that has been read. -/
theorem linesFrom_last {c : Char} (hc : c ≠ '\n') (read : List Char) :
    ∃ line, ReadAs (c :: read) line ∧ linesFrom read [c] = [line] := by
  refine ⟨(c :: read).reverse, .inl rfl, ?_⟩
  rw [linesFrom_cons_of_ne hc]
  rfl

theorem linesFrom_last_ending {c : Char} (hc : c ≠ '\n') (e : Ending) (read : List Char) :
    ∃ line, ReadAs (c :: read) line ∧ linesFrom read (c :: e.chars) = [line] := by
  obtain ⟨line, hline, hlines⟩ := linesFrom_ending e (c :: read) []
  refine ⟨line, hline, ?_⟩
  rw [linesFrom_cons_of_ne hc, ← List.append_nil e.chars, hlines]
  rfl

variable {β : Type}

/-- A property of lines that does not see a carriage return at their end has the same values on
    texts that are the same but for their endings. -/
theorem map_linesFrom_eq {f : List Char → β}
    (hf : ∀ read line, ReadAs read line → f line = f read.reverse) {a b : List Char}
    (h : SameButEndings a b) (read : List Char) :
    (linesFrom read a).map f = (linesFrom read b).map f := by
  -- two readings of the same characters
  have hsame {r x y : List Char} (hx : ReadAs r x) (hy : ReadAs r y) : f x = f y :=
    (hf r x hx).trans (hf r y hy).symm
  induction h generalizing read with
  | nil => rfl
  | char hc _ ih => rw [linesFrom_cons_of_ne hc, linesFrom_cons_of_ne hc, ih]
  | ending e e' _ ih =>
    -- each ending gives one reading of the same line, and then both start afresh
    obtain ⟨x, hx, hleft⟩ := linesFrom_ending e read _
    obtain ⟨y, hy, hright⟩ := linesFrom_ending e' read _
    rw [hleft, hright, List.map_cons, List.map_cons, hsame hx hy, ih]
  | added hc e =>
    obtain ⟨x, hx, hleft⟩ := linesFrom_last hc read
    obtain ⟨y, hy, hright⟩ := linesFrom_last_ending hc e read
    rw [hleft, hright, List.map_singleton, List.map_singleton, hsame hx hy]
  | removed hc e =>
    obtain ⟨x, hx, hleft⟩ := linesFrom_last_ending hc e read
    obtain ⟨y, hy, hright⟩ := linesFrom_last hc read
    rw [hleft, hright, List.map_singleton, List.map_singleton, hsame hx hy]

theorem map_lines_eq {f : String → β}
    (hf : ∀ read line, ReadAs read line →
      f (String.ofList line) = f (String.ofList read.reverse)) {a b : String}
    (h : SameButEndings a.toList b.toList) : (lines a).map f = (lines b).map f := by
  rw [lines, lines, List.map_map, List.map_map]
  exact map_linesFrom_eq hf h []

/-! ## What does not see the endings -/

theorem trim_of_readAs {read line : List Char} (h : ReadAs read line) :
    trim (String.ofList line) = trim (String.ofList read.reverse) := by
  rw [trim, trim, String.toList_ofList, String.toList_ofList]
  rcases h with rfl | rfl
  · rfl
  · rcases terminated_eq read with heq | heq
    · rw [heq]
    · rw [heq, trimmed_concat (by decide)]

theorem startsWith_of_readAs {marker : String} (hm : trim marker = marker) {read line : List Char}
    (h : ReadAs read line) :
    startsWith (String.ofList line) marker = startsWith (String.ofList read.reverse) marker := by
  have hself : trimmed marker.toList = marker.toList := by
    rw [← toList_trim, hm]
  rw [startsWith, startsWith, String.toList_ofList, String.toList_ofList, Bool.eq_iff_iff,
    List.isPrefixOf_iff_prefix, List.isPrefixOf_iff_prefix]
  -- a line is read as it is, or with a carriage return that ends it taken off
  rcases h with rfl | rfl
  · exact Iff.rfl
  · rcases terminated_eq read with heq | heq
    · rw [heq]
    · rw [heq]
      -- a trimmed marker cannot reach into the carriage return
      exact ⟨fun hp => hp.trans (List.prefix_append _ _),
        prefix_of_prefix_concat (by decide) hself⟩

/-! ## Lines and their endings apart -/

theorem mem_of_mem_terminated {c : Char} {read : List Char} (h : c ∈ terminated read) :
    c ∈ read := by
  unfold terminated at h
  split at h
  · exact List.mem_cons_of_mem _ (List.mem_reverse.mp h)
  · exact List.mem_reverse.mp h

theorem feed_not_mem_of_mem_linesFrom {read cs line : List Char} (hread : '\n' ∉ read)
    (h : line ∈ linesFrom read cs) : '\n' ∉ line := by
  -- what has been read of the line so far holds no line feed
  induction cs generalizing read with
  | nil =>
    rw [linesFrom] at h
    split at h
    · cases h
    · rw [List.mem_singleton.mp h]
      exact mt List.mem_reverse.mp hread
  | cons c rest ih =>
    rw [linesFrom] at h
    split at h
    · rcases List.mem_cons.mp h with rfl | h
      · exact mt mem_of_mem_terminated hread
      · exact ih List.not_mem_nil h
    · next hc => exact ih (by simp [Ne.symm hc, hread]) h

theorem feed_not_mem_of_mem_lines {s line : String} (h : line ∈ lines s) :
    '\n' ∉ line.toList := by
  obtain ⟨cs, hcs, rfl⟩ := List.mem_map.mp h
  rw [String.toList_ofList]
  exact feed_not_mem_of_mem_linesFrom List.not_mem_nil hcs

/-- Up to the first line feed a text is one line. -/
theorem linesFrom_append_feed {line : List Char} (h : '\n' ∉ line) (read rest : List Char) :
    linesFrom read (line ++ '\n' :: rest) =
      terminated (line.reverse ++ read) :: linesFrom [] rest := by
  induction line generalizing read with
  | nil => rfl
  | cons c line ih =>
    have hc : c ≠ '\n' := fun e => h (by simp [e])
    have hline : '\n' ∉ line := fun m => h (by simp [m])
    rw [List.cons_append, linesFrom_cons_of_ne hc, ih hline, List.reverse_cons,
      List.append_assoc, List.singleton_append]

/-- Only a carriage return at its end is lost from a line. -/
theorem terminated_reverse {line : List Char} (h : line.getLast? ≠ some '\r') :
    terminated line.reverse = line := by
  rcases terminated_eq line.reverse with heq | heq
  · rw [heq, List.reverse_reverse]
  · rw [List.reverse_reverse] at heq
    rw [heq, List.getLast?_concat] at h
    exact absurd rfl h

/-- Lines that hold no line feed and do not end in a carriage return are read back as they were
    written. -/
theorem lines_unlines {ls : List String} (hfeed : ∀ line ∈ ls, '\n' ∉ line.toList)
    (hreturn : ∀ line ∈ ls, line.toList.getLast? ≠ some '\r') : lines (unlines ls) = ls := by
  induction ls with
  | nil => rfl
  | cons line rest ih =>
    obtain ⟨hline, hrest⟩ := List.forall_mem_cons.mp hfeed
    obtain ⟨hend, hends⟩ := List.forall_mem_cons.mp hreturn
    -- the line is cut off at its feed, and no carriage return is lost with it
    have htext : (unlines (line :: rest)).toList =
        line.toList ++ '\n' :: (unlines rest).toList := by
      rw [unlines_cons, String.toList_append, String.toList_append, List.append_assoc]
      rfl
    rw [lines, htext, linesFrom_append_feed hline, List.append_nil, terminated_reverse hend,
      List.map_cons, String.ofList_toList, ← lines, ih hrest hends]

end SourceWeaver.Text
