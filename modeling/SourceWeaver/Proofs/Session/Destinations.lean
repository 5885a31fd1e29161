/-
  The four destinations of a source.

  With a settings file that the command line names, the Markdown of a source depends on nothing but
  the settings and the bytes of the source (`markdownFor?`).  Printing it, writing it to another
  file, putting it in the place of the source, and printing what the standard input holds all come
  to that Markdown, or all fail (`destinations_agree`).  A source is put in its place through a
  temporary file, whose path must not be too long: `replace_needs_shorter_path` is a source that can
  be printed and not replaced.
-/

import SourceWeaver.Proofs.Session.Delivery

namespace SourceWeaver

open Files

/-! ## Bytes of contents -/

namespace Files.Content

/-- The bytes of a content: a hole reads as zeros. -/
def data : Content → ByteArray
  | bytes data => data
  | hole n => (List.replicate n 0).toByteArray

theorem size_data (c : Content) : c.data.size = c.size := by
  cases c with
  | bytes data => rfl
  | hole n =>
    rw [data, ByteArray.size, List.data_toByteArray, List.size_toArray, List.length_replicate]
    rfl

theorem utf8Encode_replicate {c : Char} (h : c.utf8Size = 1) (n : Nat) :
    (List.replicate n c).utf8Encode = (List.replicate n c.val.toUInt8).toByteArray := by
  induction n with
  | zero => rfl
  | succ n ih =>
    rw [List.replicate_succ', List.replicate_succ', List.utf8Encode_append, ih,
      List.toByteArray_append, List.utf8Encode_singleton,
      String.utf8EncodeChar_eq_singleton h]

theorem toUTF8_zeros (n : Nat) : ("".pushn '\x00' n).toUTF8 = (hole n).data := by
  have hzeros : "".pushn '\x00' n = String.ofList (List.replicate n '\x00') := by
    rw [← String.toList_inj, toList_zeros, String.toList_ofList]
  rw [String.toUTF8, hzeros, String.toByteArray_ofList,
    utf8Encode_replicate (by decide)]
  rfl

/-- The text of a content is that of its bytes. -/
theorem text?_eq_fromUTF8? (c : Content) : c.text? = String.fromUTF8? c.data := by
  cases c with
  | bytes data => rfl
  | hole n =>
    rw [← toUTF8_zeros]
    exact (text?_ofText ("".pushn '\x00' n)).symm

end Files.Content

namespace Session

open CommandLine (Arguments)
open SourceWeaver.Path Workspace

variable {w : Workspace} {v : HomeVariables} {a : Arguments} {p target c : Path} {cfg : Settings}
  {content : Content} {mode : Nat} {ls : Option (List String)} {handOn : String → Outcome}
  {d : Destination}

theorem contentLines?_eq_sourceLines? (c : Content) : contentLines? c = sourceLines? c.data := by
  rw [contentLines?_eq, c.text?_eq_fromUTF8?, sourceLines?_eq]

/-! ## Settings from one file -/

/-- What a source becomes with the settings of a file, adjusted by the command line: nothing if
    there are none, if they have a problem, or if the source cannot be converted. -/
def markdownFor? (w : Workspace) (a : Arguments) (c : Path) (source : ByteArray) : Option String :=
  match Discovery.ofFile w c with
  | .error _ => none
  | .ok base =>
    if (a.adjust base).Valid then (convertBytes (a.adjust base) source).toOption else none

theorem markdownFor?_congr {b : Arguments} (h : b.adjust = a.adjust) (w : Workspace) (c : Path)
    (source : ByteArray) : markdownFor? w b c source = markdownFor? w a c source := by
  rw [markdownFor?, markdownFor?, h]

theorem settingsFor_of_markdownFor? {source : ByteArray} {markdown : String}
    (hconfig : a.config = some c) (h : markdownFor? w a c source = some markdown)
    (file : Option Path) :
    ∃ cfg, settingsFor w v a file = .ok cfg ∧ convertBytes cfg source = .ok markdown := by
  -- with a settings file on the command line, the settings are the same for every input
  rw [settingsFor_of_config hconfig]
  unfold markdownFor? at h
  cases hbase : Discovery.ofFile w c with
  | error fault =>
    rw [hbase] at h
    cases h
  | ok base =>
    simp only [hbase] at h
    split at h
    · rename_i hvalid
      refine ⟨a.adjust base, checked_eq_ok_iff.mpr ⟨rfl, hvalid⟩, ?_⟩
      cases hconvert : convertBytes (a.adjust base) source with
      | error e =>
        rw [hconvert] at h
        cases h
      | ok text =>
        rw [hconvert] at h
        obtain rfl := Option.some.inj h
        rfl
    · cases h

theorem settingsFor_of_markdownFor?_eq_none {source : ByteArray} (hconfig : a.config = some c)
    (h : markdownFor? w a c source = none) (file : Option Path) :
    (∃ f, settingsFor w v a file = .error f) ∨
      ∃ cfg e, settingsFor w v a file = .ok cfg ∧ convertBytes cfg source = .error e := by
  cases hsettings : settingsFor w v a file with
  | error f => exact .inl ⟨f, rfl⟩
  | ok cfg =>
    -- the settings are valid, so the conversion has to be what fails
    refine .inr ⟨cfg, ?_⟩
    rw [settingsFor_of_config hconfig] at hsettings
    unfold markdownFor? at h
    cases hbase : Discovery.ofFile w c with
    | error fault =>
      rw [hbase] at hsettings
      cases hsettings
    | ok base =>
      simp only [hbase] at h hsettings
      obtain ⟨rfl, hvalid⟩ := checked_eq_ok_iff.mp hsettings
      rw [if_pos hvalid] at h
      cases hconvert : convertBytes (a.adjust base) source with
      | error e => exact ⟨e, rfl, rfl⟩
      | ok markdown =>
        rw [hconvert] at h
        cases h

/-! ## Conversions of bytes -/

theorem convertLines_of_convertBytes {source : ByteArray} {markdown : String}
    (h : convertBytes cfg source = .ok markdown) :
    ∃ document, convertLines cfg (sourceLines? source) = .ok document ∧
      document.markdown = markdown := by
  rw [convertBytes_eq] at h
  cases hlines : convertLines cfg (sourceLines? source) with
  | error e =>
    rw [hlines] at h
    cases h
  | ok document =>
    rw [hlines] at h
    exact ⟨document, rfl, Except.ok.inj h⟩

theorem convertLines_of_convertBytes_error {source : ByteArray} {e : SourceError}
    (h : convertBytes cfg source = .error e) : convertLines cfg (sourceLines? source) = .error e := by
  rw [convertBytes_eq] at h
  cases hlines : convertLines cfg (sourceLines? source) with
  | error e' =>
    rw [hlines] at h
    exact congrArg Except.error (Except.error.inj h)
  | ok document =>
    rw [hlines] at h
    cases h

theorem convertSource_of_ok {document : Document} (h : convertLines cfg ls = .ok document)
    (name : String) (handOn : String → Outcome) :
    convertSource w cfg name ls handOn =
      (handOn document.markdown).after (notesLog cfg name ls) := by
  rw [convertSource, h]

theorem failure_convertSource {e : SourceError} (h : convertLines cfg ls = .error e) (name : String)
    (handOn : String → Outcome) :
    (convertSource w cfg name ls handOn).failure = some (e.failure name) := by
  rw [convertSource, h, failure_after]

section File

variable (hread : w.read p = .ok (content, mode)) (hsize : content.size ≤ maxSourceSize)

include hread hsize

theorem convertFile_of_ok {markdown : String} (h : convertBytes cfg content.data = .ok markdown)
    (d : Destination) :
    ∃ log, convertFile w d cfg p = (deliver w d p mode markdown).after log := by
  obtain ⟨document, hlines, rfl⟩ := convertLines_of_convertBytes h
  rw [← contentLines?_eq_sourceLines?] at hlines
  unfold convertFile
  rw [hread]
  dsimp only
  rw [if_neg (Nat.not_lt.mpr hsize), convertSource_of_ok hlines, after_after]
  exact ⟨_, rfl⟩

theorem failure_convertFile {e : SourceError} (h : convertBytes cfg content.data = .error e)
    (d : Destination) : (convertFile w d cfg p).failure ≠ none := by
  have hlines := convertLines_of_convertBytes_error h
  rw [← contentLines?_eq_sourceLines?] at hlines
  unfold convertFile
  rw [hread]
  dsimp only
  rw [if_neg (Nat.not_lt.mpr hsize), failure_after, failure_convertSource hlines]
  exact Option.some_ne_none _

/-- A file with Markdown is delivered as such. -/
theorem runFile_of_markdownFor? {markdown : String} (hconfig : a.config = some c)
    (h : markdownFor? w a c content.data = some markdown) :
    ∃ log, runFile w v a none p = (deliver w (destinationOf a) p mode markdown).after log := by
  obtain ⟨cfg, hsettings, hconvert⟩ := settingsFor_of_markdownFor? (v := v) hconfig h (some p)
  obtain ⟨log, hfile⟩ := convertFile_of_ok hread hsize hconvert (destinationOf a)
  rw [runFile_of_settings hsettings, hfile, after_after]
  exact ⟨_, rfl⟩

theorem failure_runFile (hconfig : a.config = some c)
    (h : markdownFor? w a c content.data = none) : (runFile w v a none p).failure ≠ none := by
  rcases settingsFor_of_markdownFor?_eq_none (v := v) hconfig h (some p) with
    ⟨f, hsettings⟩ | ⟨cfg, e, hsettings, hconvert⟩
  · rw [runFile_of_fault hsettings]
    exact Option.some_ne_none f
  · rw [runFile_of_settings hsettings, failure_after]
    exact failure_convertFile hread hsize hconvert (destinationOf a)

end File

/-! ## The standard input -/

theorem runInput_of_markdownFor? {source : ByteArray} {markdown : String}
    (hsize : source.size ≤ maxSourceSize) (hconfig : a.config = some c)
    (h : markdownFor? w a c source = some markdown) :
    (runInput w v a source).failure = none ∧ (runInput w v a source).printed = markdown := by
  obtain ⟨cfg, hsettings, hconvert⟩ := settingsFor_of_markdownFor? (v := v) hconfig h none
  obtain ⟨document, hlines, rfl⟩ := convertLines_of_convertBytes hconvert
  rw [runInput_of_settings source hsettings, convertInput, if_neg (Nat.not_lt.mpr hsize),
    convertSource_of_ok hlines]
  exact ⟨rfl, rfl⟩

theorem failure_runInput {source : ByteArray} (hsize : source.size ≤ maxSourceSize)
    (hconfig : a.config = some c) (h : markdownFor? w a c source = none) :
    (runInput w v a source).failure ≠ none := by
  rcases settingsFor_of_markdownFor?_eq_none (v := v) hconfig h none with
    ⟨f, hsettings⟩ | ⟨cfg, e, hsettings, hconvert⟩
  · rw [runInput_of_fault source hsettings]
    exact Option.some_ne_none f
  · rw [runInput_of_settings source hsettings, failure_after, convertInput,
      if_neg (Nat.not_lt.mpr hsize),
      failure_convertSource (convertLines_of_convertBytes_error hconvert)]
    exact Option.some_ne_none _

/-! ## Runs -/

section Run

variable {arguments : List String} {markdown : String}
  (hparse : CommandLine.parse arguments = .ok a) (hconfig : a.config = some c)
  (hmark : a.input.text ≠ inputMark) (hread : w.read a.input = .ok (content, mode))
  (hsize : content.size ≤ maxSourceSize) (input : ByteArray)

include hparse hmark hread in
theorem run_of_file :
    run w v input arguments = (runFile w v a none a.input).exit (thresholdOf a) := by
  rw [run_of_parse hparse, perform, if_neg hmark, if_pos (isFile_of_read hread)]

include hparse in
theorem run_of_input (hmark : a.input.text = inputMark) :
    run w v input arguments = (runInput w v a input).exit (thresholdOf a) := by
  rw [run_of_parse hparse, perform, if_pos hmark]

include hparse hconfig hmark hread hsize

theorem status_run_of_no_markdown (h : markdownFor? w a c content.data = none) :
    (run w v input arguments).status ≠ 0 := by
  rw [run_of_file hparse hmark hread, ne_eq, status_exit_eq_zero_iff]
  exact failure_runFile hread hsize hconfig h

variable (h : markdownFor? w a c content.data = some markdown)

include h

/-- A run on a file with Markdown ends as its delivery does. -/
theorem run_of_markdownFor? :
    ∃ log, run w v input arguments =
      ((deliver w (destinationOf a) a.input mode markdown).after log).exit (thresholdOf a) := by
  obtain ⟨log, hfile⟩ := runFile_of_markdownFor? (v := v) hread hsize hconfig h
  exact ⟨log, by rw [run_of_file hparse hmark hread, hfile]⟩

theorem run_printing (hstdout : a.stdout = true) :
    (run w v input arguments).status = 0 ∧ (run w v input arguments).stdout = markdown := by
  obtain ⟨log, hrun⟩ := run_of_markdownFor? hparse hconfig hmark hread hsize input h (v := v)
  have hprint : destinationOf a = .print := by rw [destinationOf, if_pos hstdout]
  rw [hrun, hprint]
  exact ⟨rfl, rfl⟩

theorem run_writing (hw : w.Grounded) {l : Location} (hstdout : a.stdout = false)
    (houtput : a.output = some target) (htarget : w.locateForWriting target = .ok l) :
    (run w v input arguments).status = 0 ∧
      (run w v input arguments).workspace.read target = .ok (.ofText markdown, w.modeAt l) := by
  obtain ⟨log, hrun⟩ := run_of_markdownFor? hparse hconfig hmark hread hsize input h (v := v)
  have hwrite : destinationOf a = .write target := by rw [destinationOf, hstdout, houtput]; rfl
  rw [hrun, hwrite, deliver_write_of_locate htarget]
  exact ⟨rfl, read_write hw htarget _⟩

theorem run_replacing (hw : w.Grounded) (hstdout : a.stdout = false) (houtput : a.output = none)
    (hplace : (w.temporaryPath a.input).text.utf8ByteSize ≤ maxPathSize) :
    (run w v input arguments).status = 0 ∧
      (run w v input arguments).workspace.read a.input = .ok (.ofText markdown, mode) := by
  obtain ⟨log, hrun⟩ := run_of_markdownFor? hparse hconfig hmark hread hsize input h (v := v)
  have hreplace : destinationOf a = .replace := by rw [destinationOf, hstdout, houtput]; rfl
  obtain ⟨l, hlocate, hfile⟩ := read_eq_ok_iff.mp hread
  have hl : w.root.sign l = .file := Node.sign_eq_file_iff.mpr ⟨content, mode, hfile⟩
  obtain ⟨before, directory, name, hway⟩ := exists_way hw hlocate hl
  rw [hrun, hreplace, deliver_replace hway, if_neg (Nat.not_lt.mpr hplace)]
  exact ⟨rfl, hway.read_replace hw hlocate hl _ _⟩

end Run

/-- Printing a source, writing it to a file, putting it in the place of the source and printing what
    the standard input holds give the same Markdown, or all fail. -/
theorem destinations_agree (hw : w.Grounded) (v : HomeVariables) (hconfig : a.config = some c)
    (hmark : p.text ≠ inputMark) (hread : w.read p = .ok (content, mode))
    (hsize : content.size ≤ maxSourceSize) {l : Location}
    (htarget : w.locateForWriting target = .ok l)
    (hplace : (w.temporaryPath p).text.utf8ByteSize ≤ maxPathSize)
    {printing writing replacing reading : List String}
    (hprinting : CommandLine.parse printing =
      .ok { a with input := p, stdout := true, output := none })
    (hwriting : CommandLine.parse writing =
      .ok { a with input := p, stdout := false, output := some target })
    (hreplacing : CommandLine.parse replacing =
      .ok { a with input := p, stdout := false, output := none })
    (hreading : CommandLine.parse reading = .ok { a with input := ⟨inputMark⟩ })
    (other : ByteArray) :
    let printed := run w v other printing
    let written := run w v other writing
    let replaced := run w v other replacing
    let answered := run w v content.data reading
    (∀ markdown, markdownFor? w a c content.data = some markdown →
      (printed.status = 0 ∧ printed.stdout = markdown) ∧
        (written.status = 0 ∧
          written.workspace.read target = .ok (.ofText markdown, w.modeAt l)) ∧
        (replaced.status = 0 ∧ replaced.workspace.read p = .ok (.ofText markdown, mode)) ∧
        answered.status = 0 ∧ answered.stdout = markdown) ∧
      (markdownFor? w a c content.data = none →
        printed.status ≠ 0 ∧ written.status ≠ 0 ∧ replaced.status ≠ 0 ∧ answered.status ≠ 0) := by
  intro printed written replaced answered
  have hdata : content.data.size ≤ maxSourceSize := content.size_data ▸ hsize
  have hanswered : answered = _ := run_of_input hreading content.data rfl
  -- the runs differ in nothing that the Markdown depends on
  have hsame {b : Arguments} (hb : b.adjust = a.adjust) := markdownFor?_congr hb w c content.data
  refine ⟨fun markdown hmarkdown => ⟨?_, ?_, ?_, ?_⟩, fun hnone => ⟨?_, ?_, ?_, ?_⟩⟩
  · exact run_printing hprinting hconfig hmark hread hsize other ((hsame rfl).trans hmarkdown) rfl
  · exact run_writing hwriting hconfig hmark hread hsize other ((hsame rfl).trans hmarkdown) hw
      rfl rfl htarget
  · exact run_replacing hreplacing hconfig hmark hread hsize other ((hsame rfl).trans hmarkdown)
      hw rfl rfl hplace
  · rw [hanswered, status_exit_eq_zero_iff, stdout_exit]
    exact runInput_of_markdownFor? hdata hconfig ((hsame rfl).trans hmarkdown)
  · exact status_run_of_no_markdown hprinting hconfig hmark hread hsize other
      ((hsame rfl).trans hnone)
  · exact status_run_of_no_markdown hwriting hconfig hmark hread hsize other
      ((hsame rfl).trans hnone)
  · exact status_run_of_no_markdown hreplacing hconfig hmark hread hsize other
      ((hsame rfl).trans hnone)
  · rw [hanswered, ne_eq, status_exit_eq_zero_iff]
    exact failure_runInput hdata hconfig ((hsame rfl).trans hnone)

/-- A source that is named through a link, and a settings file. -/
def configuredSource : Workspace where
  root := .directory
    [("notes.c", .link "lib/real.c"),
      ("lib", .directory [("real.c", .file (.ofText "/*\nTitle\n*/\nint x;\n") 0o600)]),
      ("own.toml", .file (.ofText "fence = \"~~~\"\n") 0o644)]
  here := []

/-- What a command line asks for that names the source, the settings file and an info word. -/
def configuredArguments : Arguments where
  input := ⟨"notes.c"⟩
  config := some ⟨"own.toml"⟩
  fenceInfo := some "c"

/-- The options of that command line as they are written. -/
def configuredOptions : List String :=
  ["-c", "own.toml", "--fence-info", "c"]

theorem destinations_agree_of_link :
    let w := configuredSource
    let markdown := "### Title\n\n~~~c\nint x;\n~~~\n\n"
    let source := Content.ofText "/*\nTitle\n*/\nint x;\n"
    let printed := run w {} .empty (configuredOptions ++ ["-s", "notes.c"])
    let written := run w {} .empty (configuredOptions ++ ["-o", "out.md", "notes.c"])
    let replaced := run w {} .empty (configuredOptions ++ ["notes.c"])
    let answered := run w {} source.data (configuredOptions ++ ["-"])
    w.Grounded ∧ w.read ⟨"notes.c"⟩ = .ok (source, 0o600) ∧
      (printed.status = 0 ∧ printed.stdout = markdown) ∧
      (written.status = 0 ∧ written.workspace.read ⟨"out.md"⟩ = .ok (.ofText markdown, 0o644)) ∧
      (replaced.status = 0 ∧ replaced.workspace.read ⟨"notes.c"⟩ = .ok (.ofText markdown, 0o600)) ∧
      answered.status = 0 ∧ answered.stdout = markdown := by
  intro w markdown source printed written replaced answered
  have hw : w.Grounded := by decide +kernel
  have hread : w.read ⟨"notes.c"⟩ = .ok (source, 0o600) := by decide +kernel
  have hmark : (⟨"notes.c"⟩ : Path).text ≠ inputMark := by decide
  have hsize : source.size ≤ maxSourceSize := by decide +kernel
  have htarget : w.locateForWriting ⟨"out.md"⟩ = .ok ["out.md"] := by decide +kernel
  have hmode : w.modeAt ["out.md"] = 0o644 := by decide +kernel
  have hplace : (w.temporaryPath ⟨"notes.c"⟩).text.utf8ByteSize ≤ maxPathSize := by decide +kernel
  have hprinting : CommandLine.parse (configuredOptions ++ ["-s", "notes.c"]) =
      .ok { configuredArguments with stdout := true } := by decide +kernel
  have hwriting : CommandLine.parse (configuredOptions ++ ["-o", "out.md", "notes.c"]) =
      .ok { configuredArguments with output := some ⟨"out.md"⟩ } := by decide +kernel
  have hreplacing : CommandLine.parse (configuredOptions ++ ["notes.c"]) =
      .ok { configuredArguments with stdout := false } := by decide +kernel
  have hreading : CommandLine.parse (configuredOptions ++ ["-"]) =
      .ok { configuredArguments with input := ⟨inputMark⟩ } := by decide +kernel
  have hmarkdown : markdownFor? w configuredArguments ⟨"own.toml"⟩ source.data = some markdown := by
    decide +kernel
  have hagree := @destinations_agree w configuredArguments ⟨"notes.c"⟩ ⟨"out.md"⟩ ⟨"own.toml"⟩ source
    0o600 hw {} rfl hmark hread hsize ["out.md"] htarget hplace _ _ _ _ hprinting hwriting hreplacing
    hreading .empty
  obtain ⟨hprinted, ⟨hstatus, hwritten⟩, hreplaced, hanswered⟩ := hagree.1 markdown hmarkdown
  rw [hmode] at hwritten
  exact ⟨hw, hread, hprinted, ⟨hstatus, hwritten⟩, hreplaced, hanswered⟩

/-! ## A source with a long path -/

/-- A path behind options is the input. -/
theorem parse_concat {options : List String} {text : String} {q settled : CommandLine.Progress}
    (hoptions : options.foldlM CommandLine.Progress.read {} = .ok q)
    (hfirst : q.positionals = 0) (hopen : q.onlyPositionals = false)
    (hwaits : ∀ f, q.pending ≠ some (.field f none)) (hsettled : q.settle = .ok settled)
    (hne : text ≠ "") (hdash : text.toList.head? ≠ some '-') :
    CommandLine.parse (options ++ [text]) =
      { settled.taken with input := some ⟨text⟩ }.arguments := by
  obtain ⟨first, rest, htext⟩ := List.exists_cons_of_ne_nil (l := text.toList) (by simpa using hne)
  have hfirstne : first ≠ '-' := fun h => hdash (by rw [htext, h]; rfl)
  have hread : q.read text = .ok { settled with pending := some (.input text), positionals := 1 } := by
    -- no option waits for a value, so the text is not taken as one
    have hplain : q.readPlain text = q.readPositional text := by
      unfold CommandLine.Progress.readPlain
      split
      · rename_i f hpending
        exact absurd hpending (hwaits f)
      · rfl
    -- no dash in front, so the text is not read as an option either
    have hoption : q.read text = q.readPlain text := by
      rw [CommandLine.Progress.read, hopen, if_neg Bool.false_ne_true, htext]
      split
      · rename_i h
        exact absurd (List.cons.inj h).1 hfirstne
      · rename_i h
        exact absurd (List.cons.inj h).1 hfirstne
      · rename_i h
        exact absurd (List.cons.inj h).1 hfirstne
      · rfl
    rw [hoption, hplain, CommandLine.Progress.readPositional, hfirst, hsettled]
    rfl
  have hcheck : CommandLine.Taken.checkPath text = .ok ⟨text⟩ := if_neg hne
  rw [CommandLine.parse, List.foldlM_append, hoptions]
  simp only [List.foldlM_cons, List.foldlM_nil, hread, bind, Except.bind, pure, Except.pure,
    CommandLine.Progress.settle, CommandLine.Taken.takePending, hcheck, Except.map]

section Parse

variable (hne : p.text ≠ "") (hdash : p.text.toList.head? ≠ some '-')

include hne hdash

theorem parse_printing :
    CommandLine.parse ["-c", "c.toml", "-s", p.text] =
      .ok { input := p, config := some ⟨"c.toml"⟩, stdout := true } := by
  have hoptions : ["-c", "c.toml", "-s"].foldlM CommandLine.Progress.read {} =
      .ok { taken := { config := some ⟨"c.toml"⟩, flags := [.stdout] } } := by decide +kernel
  exact parse_concat hoptions rfl rfl nofun rfl hne hdash

theorem parse_replacing :
    CommandLine.parse ["-c", "c.toml", p.text] =
      .ok { input := p, config := some ⟨"c.toml"⟩ } := by
  have hoptions : ["-c", "c.toml"].foldlM CommandLine.Progress.read {} =
      .ok { pending := some (.field .config (some "c.toml")) } := by decide +kernel
  exact parse_concat hoptions rfl rfl nofun rfl hne hdash

end Parse

theorem utf8ByteSize_join_ge {below : String} (h : below.toList.head? ≠ some '/') (p : Path) :
    p.text.utf8ByteSize + below.utf8ByteSize ≤ (p.join below).text.utf8ByteSize := by
  have hhead : ¬(below.toList.head? == some '/') = true := by simpa using h
  rw [Path.join, if_neg hhead]
  split
  · rw [String.utf8ByteSize_append]
  · rw [String.utf8ByteSize_append, String.utf8ByteSize_append]
    omega

/-- How a path begins that goes into a directory and, behind some separators, out of it. -/
def detour (n : Nat) : String :=
  "a" ++ String.ofList (List.replicate n '/') ++ "/.."

/-- The path of a source behind a detour. -/
def sourceBehind (n : Nat) : Path :=
  ⟨detour n ++ "/doc.c"⟩

theorem toList_detour (n : Nat) :
    (detour n).toList = ('a' :: List.replicate n '/') ++ '/' :: ['.', '.'] := by
  simp [detour]

theorem toList_sourceBehind (n : Nat) :
    (sourceBehind n).text.toList = (detour n).toList ++ '/' :: "doc.c".toList := by
  simp [sourceBehind]

theorem utf8ByteSize_detour (n : Nat) : (detour n).utf8ByteSize = n + 4 := by
  have hseparators : (String.ofList (List.replicate n '/')).utf8ByteSize = n := by
    rw [← String.size_toByteArray, String.toByteArray_ofList,
      Content.utf8Encode_replicate (by decide), ByteArray.size, List.data_toByteArray,
      List.size_toArray, List.length_replicate]
  rw [detour, String.utf8ByteSize_append, String.utf8ByteSize_append, hseparators]
  have ha : "a".utf8ByteSize = 1 := by decide
  have hup : "/..".utf8ByteSize = 3 := by decide
  omega

theorem partsOf_detour (n : Nat) :
    partsOf (detour n).toList = (['a'] :: List.replicate n []) ++ [['.', '.']] := by
  have hfirst : partsOf ('a' :: List.replicate n '/') = ['a'] :: List.replicate n [] :=
    partsOf_cons (by decide) (partsOf_replicate n)
  rw [toList_detour, partsOf_append_separator, hfirst]
  rfl

theorem partsOf_sourceBehind (n : Nat) :
    partsOf (sourceBehind n).text.toList =
      ((['a'] :: List.replicate n []) ++ [['.', '.']]) ++ ["doc.c".toList] := by
  rw [toList_sourceBehind, partsOf_append_separator, partsOf_detour]
  rfl

theorem hops_sourceBehind (n : Nat) : hops (sourceBehind n).text = ["a", "..", "doc.c"] := by
  have hnone : hopsOf (List.replicate n []) = [] := by
    rw [hopsOf, List.filter_replicate_of_neg (by simp), List.map_nil]
  have hfirst : hopsOf (['a'] :: List.replicate n []) = ["a"] := by
    rw [← List.singleton_append, hopsOf_append, hnone]
    rfl
  rw [hops_of_concat (partsOf_sourceBehind n) (by decide), hopsOf_append, hfirst]
  rfl

theorem directoryOf_sourceBehind (n : Nat) : directoryOf (sourceBehind n) = ⟨detour n⟩ := by
  have hname : component? "doc.c".toList = some (.name "doc.c") := by decide
  obtain ⟨q, hparent, hq⟩ := parent?_of_component hname (partsOf_sourceBehind n) (by decide)
  rw [← partsOf_detour, joinParts_partsOf, String.toList_inj] at hq
  have hne : q.text ≠ "" := by
    rw [hq, ← String.toList_inj.ne, toList_detour]
    exact List.cons_ne_nil _ _
  rw [directoryOf_of_parent hparent hne, ← hq]

/-- A source, a directory beside it to go into, and an empty settings file. -/
def detouredWorkspace : Workspace where
  root := .directory
    [("a", .directory []), ("doc.c", .file (.ofText "/*\nDoc\n*/\nx\n") 0o644),
      ("c.toml", .file (.ofText "") 0o644)]
  here := []

theorem usable_sourceBehind {n : Nat} (h : n + 10 ≤ maxPathSize) :
    Usable (sourceBehind n).text := by
  refine ⟨?_, ?_, ?_⟩
  · rw [toList_sourceBehind, toList_detour]
    simp [List.mem_replicate]
  · rw [← String.toList_inj.ne, toList_sourceBehind, toList_detour]
    exact List.cons_ne_nil _ _
  · have hname : "/doc.c".utf8ByteSize = 6 := by decide
    rw [sourceBehind, String.utf8ByteSize_append, utf8ByteSize_detour]
    omega

theorem read_sourceBehind {n : Nat} (h : n + 10 ≤ maxPathSize) :
    detouredWorkspace.read (sourceBehind n) = .ok (.ofText "/*\nDoc\n*/\nx\n", 0o644) := by
  -- the separators make no hops of their own: the detour leads into a directory and out again
  have hleads : follow detouredWorkspace.root false (maxLinks + 1) [] ["a", "..", "doc.c"] =
      .ok ["doc.c"] := by decide +kernel
  have hfile : detouredWorkspace.root.faceAt? ["doc.c"] =
      some (.file (.ofText "/*\nDoc\n*/\nx\n") 0o644) := by decide +kernel
  refine read_eq_ok_iff.mpr ⟨["doc.c"], locate_eq_ok_iff.mpr ⟨usable_sourceBehind h, ?_⟩, hfile⟩
  rw [hops_sourceBehind]
  have hstart : startOf (sourceBehind n).text detouredWorkspace.here = [] := by
    rw [startOf, toList_sourceBehind, toList_detour]
    rfl
  rw [hstart]
  exact follow_eq_ok_iff.mp hleads

theorem temporaryPath_sourceBehind (n : Nat) :
    n + 14 ≤ (detouredWorkspace.temporaryPath (sourceBehind n)).text.utf8ByteSize := by
  rw [temporaryPath, directoryOf_sourceBehind]
  have hrelative : (detour n).toList.head? ≠ some '/' := by
    rw [toList_detour]
    exact (by decide : some 'a' ≠ some '/')
  have hnamed : (temporaryName 0).toList.head? ≠ some '/' := by decide +kernel
  -- joining takes nothing off either side, so the sizes add up
  have hdirectory := utf8ByteSize_join_ge hrelative detouredWorkspace.herePath
  have htemporary := utf8ByteSize_join_ge hnamed (detouredWorkspace.herePath.join (detour n))
  have hname : (temporaryName 0).utf8ByteSize = 10 := by decide +kernel
  rw [utf8ByteSize_detour] at hdirectory
  dsimp only
  omega

/-- A source whose path is almost as long as paths may be is printed and not replaced: the path of a
    temporary file beside it would be too long. -/
theorem replace_needs_shorter_path :
    let w := detouredWorkspace
    let p := sourceBehind 4083
    w.Grounded ∧ w.read p = .ok (.ofText "/*\nDoc\n*/\nx\n", 0o644) ∧
      CommandLine.parse ["-c", "c.toml", "-s", p.text] =
        .ok { input := p, config := some ⟨"c.toml"⟩, stdout := true } ∧
      CommandLine.parse ["-c", "c.toml", p.text] =
        .ok { input := p, config := some ⟨"c.toml"⟩ } ∧
      (run w {} .empty ["-c", "c.toml", "-s", p.text]).status = 0 ∧
      (run w {} .empty ["-c", "c.toml", p.text]).status = 1 := by
  intro w p
  have hshort : 4083 + 10 ≤ maxPathSize := by decide +kernel
  have hread : w.read p = .ok (.ofText "/*\nDoc\n*/\nx\n", 0o644) := read_sourceBehind hshort
  have hw : w.Grounded := by decide +kernel
  have hchars := toList_sourceBehind 4083
  rw [toList_detour] at hchars
  have hne : p.text ≠ "" := (usable_sourceBehind hshort).nonempty
  have hdash : p.text.toList.head? ≠ some '-' := by
    rw [hchars]
    exact (by decide : some 'a' ≠ some '-')
  have hmark : p.text ≠ inputMark := by
    intro h
    rw [h] at hdash
    exact hdash (by decide +kernel)
  have hprinting := parse_printing hne hdash
  have hreplacing := parse_replacing hne hdash
  have hmarkdown : markdownFor? w { input := ⟨"doc.c"⟩ } ⟨"c.toml"⟩
      (Content.ofText "/*\nDoc\n*/\nx\n").data = some "### Doc\n\n```\nx\n```\n\n" := by
    decide +kernel
  have hsize : (Content.ofText "/*\nDoc\n*/\nx\n").size ≤ maxSourceSize := by decide +kernel
  have hprinted := run_printing (v := {}) hprinting rfl hmark hread hsize .empty
    ((markdownFor?_congr rfl _ _ _).trans hmarkdown) rfl
  obtain ⟨log, hreplaced⟩ := run_of_markdownFor? (v := {}) hreplacing rfl hmark hread hsize .empty
    ((markdownFor?_congr rfl _ _ _).trans hmarkdown)
  -- the file can be read, but the temporary file beside it has too long a path
  obtain ⟨l, hlocate, hfile⟩ := read_eq_ok_iff.mp hread
  obtain ⟨before, directory, name, hway⟩ :=
    exists_way hw hlocate (Node.sign_eq_file_iff.mpr ⟨_, _, hfile⟩)
  have hlong : maxPathSize < (w.temporaryPath p).text.utf8ByteSize :=
    Nat.lt_of_lt_of_le (by decide +kernel) (temporaryPath_sourceBehind 4083)
  have hdestination : destinationOf { input := p, config := some ⟨"c.toml"⟩ } = .replace := rfl
  refine ⟨hw, hread, hprinting, hreplacing, hprinted.1, ?_⟩
  rw [hreplaced, hdestination, deliver_replace hway, if_pos hlong]
  rfl

end Session

end SourceWeaver
