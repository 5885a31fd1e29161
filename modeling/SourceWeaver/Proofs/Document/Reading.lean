/-
  When a source can be converted.

  A conversion has three outcomes, and the bytes of the source alone decide between them: they are
  no text, they are a text of fewer than two lines, or they are converted.  As a source is read to
  its end before anything is written, the first two leave the output as it is
  (`convertNamed_outcome`).
-/

import SourceWeaver.Failure
import Mathlib.Tactic.ByContra

namespace SourceWeaver

open Text

/-! ## Counting lines -/

/-- The number of lines of some bytes: one for each line feed, and one for what stands behind the
    last one, if anything does. -/
def lineCount (bytes : List UInt8) : Nat :=
  bytes.count feed + if bytes.getLast?.any (· != feed) then 1 else 0

theorem lineCount_feed_cons (rest : List UInt8) :
    lineCount (feed :: rest) = lineCount rest + 1 := by
  have hlast : (feed :: rest).getLast?.any (· != feed) = rest.getLast?.any (· != feed) := by
    cases rest with
    | nil => rfl
    | cons b rest => rw [List.getLast?_cons_cons]
  rw [lineCount, lineCount, List.count_cons_self, hlast]
  omega

/-- Bytes that end no line count only as a line that nothing ends. -/
theorem lineCount_append {part : List UInt8} (h : feed ∉ part) {rest : List UInt8}
    (hrest : rest ≠ []) : lineCount (part ++ rest) = lineCount rest := by
  rw [lineCount, lineCount, List.count_append, List.count_eq_zero.mpr h, Nat.zero_add,
    List.getLast?_append, List.getLast?_eq_some_getLast hrest, Option.some_or]

/-- Bytes are read as that many lines. -/
theorem length_rawLinesFrom {read : List UInt8} (hread : feed ∉ read) (bytes : List UInt8) :
    (rawLinesFrom read bytes).length = lineCount (read.reverse ++ bytes) := by
  induction bytes generalizing read with
  | nil =>
    -- at the end of the bytes there is one more line unless nothing has been read of it
    cases read with
    | nil => rfl
    | cons b read =>
      obtain ⟨hb, hread⟩ := not_or.mp (mt List.mem_cons.mpr hread)
      simp [rawLinesFrom, lineCount, Ne.symm hb, List.count_eq_zero.mpr hread]
  | cons b rest ih =>
    -- a feed ends the line that is being read, any other byte joins it
    by_cases hb : b = feed
    · subst hb
      rw [rawLinesFrom, if_pos rfl, List.length_cons, ih List.not_mem_nil, List.reverse_nil,
        List.nil_append, lineCount_append (by simpa using hread) (by simp), lineCount_feed_cons]
    · rw [rawLinesFrom, if_neg hb, ih (by simp [hread, Ne.symm hb]), List.reverse_cons,
        List.append_assoc, List.singleton_append]

theorem length_of_mapM_readLine? {raws : List (List UInt8)} {ls : List String}
    (h : raws.mapM readLine? = some ls) : ls.length = raws.length := by
  induction raws generalizing ls with
  | nil =>
    obtain rfl : [] = ls := Option.some.inj h
    rfl
  | cons raw raws ih =>
    obtain ⟨line, rest, -, hrest, rfl⟩ := mapM_cons_eq_some_iff.mp h
    rw [List.length_cons, List.length_cons, ih hrest]

theorem length_of_sourceLines? {bytes : ByteArray} {ls : List String}
    (h : sourceLines? bytes = some ls) : ls.length = lineCount bytes.data.toList := by
  rw [length_of_mapM_readLine? h, length_rawLinesFrom List.not_mem_nil]
  rfl

theorem sourceLines?_eq_none_iff {bytes : ByteArray} :
    sourceLines? bytes = none ↔ ¬ bytes.IsValidUTF8 := by
  rw [sourceLines?_eq, Option.map_eq_none_iff, String.fromUTF8?]
  split <;> simp [*]

/-! ## Outcomes -/

/-- Converts a source, by whose name a failure is reported, and writes its document behind what an
    output holds: the result, and what the output holds then. -/
def convertNamed (cfg : Settings) (name : String) (bytes : ByteArray) (out : String) :
    Except Failure Unit × String :=
  let (result, written) := (convertInto cfg bytes).run.run out
  (result.mapError (SourceError.failure name), written)

/-- The reports of the two errors differ, whatever the name. -/
theorem failure_notText_ne_failure_tooShort (name : String) (e : TooShort) :
    SourceError.failure name .notText ≠ SourceError.failure name (.tooShort e) := by
  intro h
  have hmessage : "failed to read lines of " ++ name = "cannot convert " ++ name :=
    congrArg Failure.message h
  rw [← String.toList_inj, String.toList_append, String.toList_append] at hmessage
  exact absurd (List.append_cancel_right hmessage) (by decide)

theorem convertNamed_eq (cfg : Settings) (name : String) (bytes : ByteArray) (out : String) :
    convertNamed cfg name bytes out =
      match convertLines cfg (sourceLines? bytes) with
      | .error e => (.error (SourceError.failure name e), out)
      | .ok document => (.ok (), out ++ unlines document.lines) := by
  rw [convertNamed, run_convertInto]
  cases convertLines cfg (sourceLines? bytes) <;> rfl

/-- Bytes that are no text, texts of fewer than two lines and all others: what a conversion comes
    to, and what it leaves in the output. -/
theorem convertNamed_cases (cfg : Settings) (name : String) (bytes : ByteArray) (out : String) :
    (¬ bytes.IsValidUTF8 ∧
      convertNamed cfg name bytes out = (.error (SourceError.failure name .notText), out)) ∨
    (bytes.IsValidUTF8 ∧ lineCount bytes.data.toList < 2 ∧
      convertNamed cfg name bytes out =
        (.error (SourceError.failure name (.tooShort ⟨lineCount bytes.data.toList⟩)), out)) ∨
    (bytes.IsValidUTF8 ∧ 2 ≤ lineCount bytes.data.toList ∧
      ∃ ls document, sourceLines? bytes = some ls ∧ convert cfg ls = .ok document ∧
        convertNamed cfg name bytes out = (.ok (), out ++ unlines document.lines)) := by
  rw [convertNamed_eq]
  cases hls : sourceLines? bytes with
  | none => exact .inl ⟨sourceLines?_eq_none_iff.mp hls, rfl⟩
  | some ls =>
    -- bytes that have lines are valid
    have hvalid : bytes.IsValidUTF8 := by
      by_contra h
      rw [sourceLines?_eq_none_iff.mpr h] at hls
      cases hls
    rw [← length_of_sourceLines? hls]
    refine .inr ?_
    -- two lines decide, and the number of lines can be told from the bytes
    by_cases hlength : ls.length < 2
    · refine .inl ⟨hvalid, hlength, ?_⟩
      match ls, hlength with
      | [], _ => rfl
      | [_], _ => rfl
    · obtain ⟨opening, first, rest, hprimed, -⟩ := exists_primed cfg (Nat.le_of_not_lt hlength)
      have hconvert := convert_of_primed hprimed
      refine .inr ⟨hvalid, Nat.le_of_not_lt hlength, ls, _, rfl, hconvert, ?_⟩
      rw [convertLines, hconvert]
      rfl

/-- A conversion reports bytes that are no text exactly if they are not valid UTF-8, and a source
    that is too short exactly if it is text of fewer than two lines; it succeeds on all others.
    Unless it succeeds nothing is written; if it does, what is written are the lines of the document
    of the lines of the source, each with a line feed. -/
theorem convertNamed_outcome (cfg : Settings) (name : String) (bytes : ByteArray) (out : String) :
    ((convertNamed cfg name bytes out).1 = .error (SourceError.failure name .notText) ↔
      ¬ bytes.IsValidUTF8) ∧
    ((convertNamed cfg name bytes out).1 =
        .error (SourceError.failure name (.tooShort ⟨lineCount bytes.data.toList⟩)) ↔
      bytes.IsValidUTF8 ∧ lineCount bytes.data.toList < 2) ∧
    ((convertNamed cfg name bytes out).1 = .ok () ↔
      bytes.IsValidUTF8 ∧ 2 ≤ lineCount bytes.data.toList) ∧
    ((convertNamed cfg name bytes out).1 ≠ .ok () → (convertNamed cfg name bytes out).2 = out) ∧
    ((convertNamed cfg name bytes out).1 = .ok () →
      ∃ ls document, sourceLines? bytes = some ls ∧ convert cfg ls = .ok document ∧
        (convertNamed cfg name bytes out).2 = out ++ unlines document.lines) := by
  have hdiffer := failure_notText_ne_failure_tooShort name ⟨lineCount bytes.data.toList⟩
  -- in each of the three cases the outcome is known and excludes the other two
  rcases convertNamed_cases cfg name bytes out with
    ⟨hvalid, h⟩ | ⟨hvalid, hcount, h⟩ | ⟨hvalid, hcount, ls, document, hls, hconvert, h⟩
  · simp [h, hvalid, hdiffer]
  · simp [h, hvalid, hdiffer.symm, hcount]
  · rw [h]
    refine ⟨⟨nofun, fun hnot => absurd hvalid hnot⟩, ⟨nofun, fun hshort => ?_⟩,
      ⟨fun _ => ⟨hvalid, hcount⟩, fun _ => rfl⟩, fun hfails => absurd rfl hfails,
      fun _ => ⟨ls, document, hls, hconvert, rfl⟩⟩
    exact absurd hshort.2 (Nat.not_lt.mpr hcount)

end SourceWeaver
