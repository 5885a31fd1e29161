/-
  Texts read from bytes, line by line.

  Bytes are cut behind every line feed, and each piece is decoded on its own: the first one that is
  not valid UTF-8 ends the reading.  No other character has the byte of a line feed in it
  (`eq_feed_of_mem_utf8EncodeChar`), so bytes can be read line by line exactly if they can be decoded
  at once, and the lines are those of the text (`readLines?_eq`).
-/

import SourceWeaver.Text.Lines

namespace SourceWeaver.Text

/-- The byte of a line feed. -/
def feed : UInt8 := 10

/-- Bytes cut behind every line feed; `read`, in reverse, has been read since the last one. -/
def rawLinesFrom (read : List UInt8) : List UInt8 → List (List UInt8)
  | [] => if read.isEmpty then [] else [read.reverse]
  | b :: rest =>
    if b = feed then (b :: read).reverse :: rawLinesFrom [] rest else rawLinesFrom (b :: read) rest

/-- The characters of a line without its ending, if it has one. -/
def withoutEnding (line : List Char) : List Char :=
  match line.reverse with
  | '\n' :: read => terminated read
  | _ => line

/-- The text of a line given as bytes, without its ending. -/
def readLine? (raw : List UInt8) : Option String :=
  (String.fromUTF8? raw.toByteArray).map fun line => String.ofList (withoutEnding line.toList)

/-- The lines of a text given as bytes, if each of them is text. -/
def readLines? (bytes : ByteArray) : Option (List String) :=
  (rawLinesFrom [] bytes.data.toList).mapM readLine?

/-! ## Bytes of characters -/

/-- The bytes of some characters. -/
def encode (cs : List Char) : List UInt8 :=
  cs.flatMap String.utf8EncodeChar

theorem encode_append (a b : List Char) : encode (a ++ b) = encode a ++ encode b :=
  List.flatMap_append

theorem encode_cons (c : Char) (cs : List Char) :
    encode (c :: cs) = String.utf8EncodeChar c ++ encode cs :=
  List.flatMap_cons

theorem toByteArray_encode (cs : List Char) : (encode cs).toByteArray = cs.utf8Encode := rfl

theorem utf8EncodeChar_feed : String.utf8EncodeChar '\n' = [feed] := by decide

/-- Only the line feed has its byte among its bytes: those of longer characters are 128 or more. -/
theorem eq_feed_of_mem_utf8EncodeChar {c : Char} (h : feed ∈ String.utf8EncodeChar c) :
    c = '\n' := by
  have hbyte (n : Nat) : feed = UInt8.ofNat n ↔ n % 256 = 10 := by
    rw [← UInt8.toNat_inj, UInt8.toNat_ofNat']
    exact eq_comm
  have hone : c.val.toNat = 10 := by
    revert h
    fun_cases String.utf8EncodeChar c <;>
      simp only [List.mem_cons, List.not_mem_nil, or_false, hbyte] <;> omega
  exact Char.toNat_inj.mp hone

/-! ## Lines of bytes -/

/-- What holds no line feed is read as a whole. -/
theorem rawLinesFrom_append {part : List UInt8} (h : feed ∉ part) (read rest : List UInt8) :
    rawLinesFrom read (part ++ rest) = rawLinesFrom (part.reverse ++ read) rest := by
  induction part generalizing read with
  | nil => rfl
  | cons b part ih =>
    have hb : b ≠ feed := fun e => h (by simp [e])
    have hpart : feed ∉ part := fun m => h (by simp [m])
    rw [List.cons_append, rawLinesFrom, if_neg hb, ih hpart]
    simp

/-- The lines of some bytes, put together again, are these bytes. -/
theorem flatten_rawLinesFrom (read bytes : List UInt8) :
    (rawLinesFrom read bytes).flatten = read.reverse ++ bytes := by
  induction bytes generalizing read with
  | nil =>
    rw [rawLinesFrom, List.append_nil]
    split
    · next hempty => simp [List.isEmpty_iff.mp hempty]
    · exact List.flatten_singleton
  | cons b rest ih =>
    rw [rawLinesFrom]
    split
    · rw [List.flatten_cons, ih, List.reverse_nil, List.nil_append, List.reverse_cons,
        List.append_assoc, List.singleton_append]
    · rw [ih, List.reverse_cons, List.append_assoc, List.singleton_append]

/-! ## Reading -/

theorem readLine?_encode (line : List Char) :
    readLine? (encode line) = some (String.ofList (withoutEnding line)) := by
  have hvalid : (encode line).toByteArray.IsValidUTF8 := .intro line rfl
  have htext : String.fromUTF8 _ hvalid = String.ofList line := by
    rw [← String.toByteArray_inj]
    exact (String.toByteArray_ofList).symm
  rw [readLine?, String.fromUTF8?, dif_pos hvalid, htext, Option.map_some, String.toList_ofList]

theorem exists_encode_of_readLine? {raw : List UInt8} {line : String}
    (h : readLine? raw = some line) : ∃ cs, raw = encode cs := by
  unfold readLine? String.fromUTF8? at h
  split at h
  · next hvalid =>
    obtain ⟨cs, hcs⟩ := hvalid
    exact ⟨cs, List.toByteArray_inj.mp hcs⟩
  · cases h

theorem withoutEnding_ended (read : List Char) :
    withoutEnding (read.reverse ++ ['\n']) = terminated read := by
  simp [withoutEnding]

theorem withoutEnding_of_no_feed {line : List Char} (h : '\n' ∉ line) :
    withoutEnding line = line := by
  unfold withoutEnding
  split
  · next read heq =>
    exact absurd (List.mem_reverse.mp (heq ▸ List.mem_cons_self ..)) h
  · rfl

theorem encode_eq_nil_iff {cs : List Char} : encode cs = [] ↔ cs = [] := by
  cases cs with
  | nil => simp [encode]
  | cons c cs => simp [encode_cons, String.utf8EncodeChar_ne_nil]

/-- The bytes of some characters are read as the lines of the characters, from the middle of a line
    on as well. -/
theorem mapM_readLine?_encode {read : List Char} (hread : '\n' ∉ read) {bytes : List UInt8}
    (hbytes : bytes.reverse = encode read.reverse) (cs : List Char) :
    (rawLinesFrom bytes (encode cs)).mapM readLine? =
      some ((linesFrom read cs).map String.ofList) := by
  induction cs generalizing read bytes with
  | nil =>
    have hempty : bytes = [] ↔ read = [] := by
      rw [← List.reverse_eq_nil_iff, hbytes, encode_eq_nil_iff, List.reverse_eq_nil_iff]
    rw [encode, List.flatMap_nil, rawLinesFrom, linesFrom]
    by_cases h : read = []
    · simp [h, hempty.mpr h]
    -- what is left at the end of the text is a line without an ending
    · have hline : readLine? bytes.reverse = some (String.ofList read.reverse) := by
        rw [hbytes, readLine?_encode, withoutEnding_of_no_feed (by simpa using hread)]
      simp [h, mt hempty.mp h, hline]
  | cons c cs ih =>
    rw [encode_cons]
    by_cases hc : c = '\n'
    · subst hc
      have hraw : (feed :: bytes).reverse = encode (read.reverse ++ ['\n']) := by
        rw [List.reverse_cons, hbytes, encode_append]
        rfl
      have hrest : (rawLinesFrom [] (encode cs)).mapM readLine? =
          some ((linesFrom [] cs).map String.ofList) := ih List.not_mem_nil rfl
      rw [utf8EncodeChar_feed, List.singleton_append, rawLinesFrom, if_pos rfl, linesFrom,
        if_pos rfl, hraw, List.mapM_cons, readLine?_encode, withoutEnding_ended, hrest]
      rfl
    -- no byte of another character is a line feed, so the line goes on behind all of them
    · have hpart : feed ∉ String.utf8EncodeChar c := fun h => hc (eq_feed_of_mem_utf8EncodeChar h)
      rw [rawLinesFrom_append hpart, linesFrom_cons_of_ne hc]
      refine ih (by simp [hread, Ne.symm hc]) ?_
      rw [List.reverse_append, hbytes, List.reverse_reverse, List.reverse_cons, encode_append]
      simp [encode]

/-- A line that is not text ends the reading. -/
theorem mapM_cons_eq_some_iff {raw : List UInt8} {raws : List (List UInt8)} {ls : List String} :
    (raw :: raws).mapM readLine? = some ls ↔
      ∃ line rest, readLine? raw = some line ∧ raws.mapM readLine? = some rest ∧
        line :: rest = ls := by
  simp [List.mapM_cons, Option.bind_eq_some_iff]

theorem exists_encode_of_mapM_readLine? {raws : List (List UInt8)} {ls : List String}
    (h : raws.mapM readLine? = some ls) : ∃ cs, raws.flatten = encode cs := by
  induction raws generalizing ls with
  | nil => exact ⟨[], rfl⟩
  | cons raw raws ih =>
    obtain ⟨line, rest, hline, hrest, -⟩ := mapM_cons_eq_some_iff.mp h
    obtain ⟨a, rfl⟩ := exists_encode_of_readLine? hline
    obtain ⟨b, hb⟩ := ih hrest
    exact ⟨a ++ b, by rw [List.flatten_cons, hb, encode_append]⟩

/-- Reading bytes line by line comes to decoding them at once and taking the lines of the text. -/
theorem readLines?_eq (bytes : ByteArray) :
    readLines? bytes = (String.fromUTF8? bytes).map lines := by
  by_cases hvalid : bytes.IsValidUTF8
  · obtain ⟨cs, rfl⟩ := hvalid
    have htext : String.fromUTF8? cs.utf8Encode = some (String.ofList cs) := by
      rw [String.fromUTF8?, dif_pos ByteArray.isValidUTF8_utf8Encode, Option.some_inj,
        ← String.toByteArray_inj]
      exact (String.toByteArray_ofList).symm
    rw [htext, Option.map_some, lines, String.toList_ofList, readLines?, ← toByteArray_encode,
      List.data_toByteArray, mapM_readLine?_encode List.not_mem_nil rfl]
  · rw [String.fromUTF8?, dif_neg hvalid, Option.map_none]
    -- lines that are text make up a text, so one of them is not
    cases hread : readLines? bytes with
    | none => rfl
    | some ls =>
      obtain ⟨cs, hcs⟩ := exists_encode_of_mapM_readLine? hread
      rw [flatten_rawLinesFrom, List.reverse_nil, List.nil_append] at hcs
      refine absurd ⟨cs, ?_⟩ hvalid
      rw [← toByteArray_encode, ← hcs]
      exact ByteArray.ext (by simp)

end SourceWeaver.Text
