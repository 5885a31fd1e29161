/-
  What the document of a source depends on.

  A conversion reads the lines of its source trimmed; the second one alone is looked at as it
  stands, to see whether it is a one-line comment.  Sources that agree in this have the same
  document (`convertText_of_trim_eq`), and so do sources that differ in their line endings alone
  (`convertText_of_sameButEndings`).
-/

import SourceWeaver.Proofs.Scan.Independence
import SourceWeaver.Proofs.Document.Priming
import SourceWeaver.Proofs.Text.Endings

namespace SourceWeaver

open Text Scan

variable {cfg : Settings}

/-! ## From texts to lines -/

theorem sourceLines?_toUTF8 (source : String) :
    sourceLines? source.toUTF8 = some (lines source) := by
  have h : source.toUTF8.IsValidUTF8 := source.isValidUTF8
  rw [sourceLines?_eq, String.fromUTF8?, dif_pos h]
  rfl

/-- A text is always the bytes of some lines. -/
theorem convertText_eq (cfg : Settings) (source : String) :
    convertText cfg source =
      ((convert cfg (lines source)).mapError .tooShort).map Document.markdown := by
  rw [convertText, convertBytes_eq, sourceLines?_toUTF8, convertLines]

/-! ## Lines that agree when they are trimmed -/

theorem weave_of_trim_eq {opening : Opening} {a b : List String} (h : a.map trim = b.map trim) :
    weave cfg opening a = weave cfg opening b := by
  rw [weave, weave, run_of_trim_eq h]

/-- Lines that agree when they are trimmed, and whose second lines are both one-line comments or
    both none, have the same document. -/
theorem convert_of_trim_eq {a b : List String} (h : a.map trim = b.map trim)
    (hsecond : a[1]?.map cfg.isLineComment = b[1]?.map cfg.isLineComment) :
    convert cfg a = convert cfg b := by
  have hlength : a.length = b.length := by
    rw [← List.length_map trim, h, List.length_map]
  match a, b, hlength with
  | [], [], _ => rfl
  | [_], [_], _ => rfl
  | first :: second :: rest, first' :: second' :: rest', _ =>
    have hcomment : cfg.isLineComment second = cfg.isLineComment second' := by simpa using hsecond
    simp only [List.map_cons, List.cons.injEq] at h
    obtain ⟨hfirst, htrim, hrest⟩ := h
    cases hopens : cfg.isLineComment second' with
    | true =>
      -- the first line gives way to a fence, and the second one stays as it is
      rw [hopens] at hcomment
      rw [convert_of_primed (primeHeader_of_lineComment hcomment),
        convert_of_primed (primeHeader_of_lineComment hopens), weave_of_trim_eq]
      rw [List.map_cons, List.map_cons, List.map_cons, List.map_cons, htrim, hrest]
    | false =>
      rw [hopens] at hcomment
      rw [convert_of_primed (primeHeader_of_title hcomment),
        convert_of_primed (primeHeader_of_title hopens), htrim, weave_of_trim_eq]
      rw [List.map_cons, List.map_cons, List.map_cons, List.map_cons, hfirst, hrest]

/-! ## Sources -/

theorem convertText_of_trim_eq {a b : String} (h : (lines a).map trim = (lines b).map trim)
    (hsecond : (lines a)[1]?.map cfg.isLineComment = (lines b)[1]?.map cfg.isLineComment) :
    convertText cfg a = convertText cfg b := by
  rw [convertText_eq, convertText_eq, convert_of_trim_eq h hsecond]

/-- The endings of lines make no difference to a document. -/
theorem convertText_of_sameButEndings (hv : cfg.Valid) {a b : String}
    (h : SameButEndings a.toList b.toList) : convertText cfg a = convertText cfg b := by
  -- a valid marker is not padded, so no line begins with it because of its ending
  have hmarker : trim cfg.lineComment = cfg.lineComment := hv.trim_marker .lineComment
  have hcomment : (lines a).map cfg.isLineComment = (lines b).map cfg.isLineComment :=
    map_lines_eq (fun _ _ => startsWith_of_readAs hmarker) h
  refine convertText_of_trim_eq (map_lines_eq (fun _ _ => trim_of_readAs) h) ?_
  rw [← List.getElem?_map, ← List.getElem?_map, hcomment]

/-- Sources whose lines agree when they are trimmed, and whose second lines are both one-line
    comments or both none, are converted alike; and so are sources that differ at most in how their
    lines end, and in whether a last line that is not empty has an ending. -/
theorem convertText_congr (hv : cfg.Valid) (a b : String) :
    ((lines a).map trim = (lines b).map trim →
      (lines a)[1]?.map cfg.isLineComment = (lines b)[1]?.map cfg.isLineComment →
        convertText cfg a = convertText cfg b) ∧
      (SameButEndings a.toList b.toList → convertText cfg a = convertText cfg b) :=
  ⟨convertText_of_trim_eq, convertText_of_sameButEndings hv⟩

/-- A source with other white space around its lines, and one with other endings, the last of them
    added. -/
theorem convertText_congr_of_spaced_lines :
    Settings.Valid {} ∧
      convertText {} "/*\n\tT \n*/\n  x;\n" = convertText {} " /*\r\nT\n*/ \nx;" ∧
      convertText {} "/*\nT\r\n*/\nx;" = convertText {} "/*\r\nT\n*/\nx;\r\n" := by
  have hv : Settings.Valid {} := Settings.valid_default
  have htrim : (lines "/*\n\tT \n*/\n  x;\n").map trim = (lines " /*\r\nT\n*/ \nx;").map trim := by
    decide +kernel
  have hsecond : (lines "/*\n\tT \n*/\n  x;\n")[1]?.map (Settings.isLineComment {}) =
      (lines " /*\r\nT\n*/ \nx;")[1]?.map (Settings.isLineComment {}) := by decide +kernel
  have hendings : SameButEndings "/*\nT\r\n*/\nx;".toList "/*\r\nT\n*/\nx;\r\n".toList := by
    have hleft : "/*\nT\r\n*/\nx;".toList =
        ['/', '*', '\n', 'T', '\r', '\n', '*', '/', '\n', 'x', ';'] := by decide +kernel
    have hright : "/*\r\nT\n*/\nx;\r\n".toList =
        ['/', '*', '\r', '\n', 'T', '\n', '*', '/', '\n', 'x', ';', '\r', '\n'] := by
      decide +kernel
    rw [hleft, hright]
    -- character by character, with an ending wherever the two differ
    apply SameButEndings.char (by decide)
    apply SameButEndings.char (by decide)
    apply SameButEndings.ending .feed .returnFeed
    apply SameButEndings.char (by decide)
    apply SameButEndings.ending .returnFeed .feed
    apply SameButEndings.char (by decide)
    apply SameButEndings.char (by decide)
    apply SameButEndings.ending .feed .feed
    apply SameButEndings.char (by decide)
    exact SameButEndings.added (by decide) .returnFeed
  exact ⟨hv, (convertText_congr hv _ _).1 htrim hsecond, (convertText_congr hv _ _).2 hendings⟩

end SourceWeaver
