/-
  Settings from several files.

  Each settings file says something about some keys (`said?`): nothing if it cannot be read, if it
  is no TOML or if it gives a key a value of the wrong kind, and else what its table says.  For each
  key the last file that says something counts, and the default if there is none
  (`get_foldl_applyFile`).  The files are listed from the home directory over the outermost
  directory above the start to the innermost, each once (`Listing`).  The command line has the last
  word, and a run uses what results only if it has no problem; all this is `layered_settings`.
-/

import SourceWeaver.Proofs.Path.Parts
import SourceWeaver.Proofs.Settings.Keys
import SourceWeaver.Session.Run

namespace SourceWeaver

open Files Toml

namespace Discovery

variable {w : Workspace} {v : HomeVariables} {p start directory : Path}

/-! ## What a file says -/

/-- What a settings file sets a key to. -/
def said? (w : Workspace) (k : Key) (p : Path) : Option Value :=
  match w.readText p with
  | .error _ => none
  | .ok text =>
    match parse? text with
    | none => none
    | some es => if es.WellKinded then es.value? k else none

theorem get_applyFile (w : Workspace) (s : Settings) (p : Path) (k : Key) :
    (applyFile w s p).get k = (said? w k p).getD (s.get k) := by
  unfold applyFile layer said?
  cases w.readText p with
  | error e => rfl
  | ok text =>
    dsimp only [Layer.ofToml?]
    cases parse? text with
    | none => rfl
    | some es =>
      have hlayer : (some es >>= Layer.ofEntries?) = Layer.ofEntries? es := rfl
      rw [hlayer]
      -- a document is read as a layer exactly if each of its values has the kind of its key
      cases hl : Layer.ofEntries? es with
      | none =>
        have hkinds : ¬es.WellKinded := fun h => by
          have hsome := Layer.isSome_ofEntries?_iff.mpr h
          rw [hl] at hsome
          cases hsome
        simp only [if_neg hkinds, Option.getD_none]
      | some l =>
        have hkinds : es.WellKinded := Layer.isSome_ofEntries?_iff.mp (by rw [hl]; rfl)
        simp only [if_pos hkinds, Settings.get_apply, Layer.get?_of_ofEntries? hl]

/-- The last file that says something about a key counts. -/
theorem get_foldl_applyFile (w : Workspace) (ps : List Path) (s : Settings) (k : Key) :
    (ps.foldl (applyFile w) s).get k = ((ps.filterMap (said? w k)).getLast?).getD (s.get k) := by
  induction ps generalizing s with
  | nil => rfl
  | cons p rest ih =>
    rw [List.foldl_cons, ih, get_applyFile, List.filterMap_cons]
    cases said? w k p with
    | none => rfl
    | some value => rw [Option.getD_some, List.getLast?_cons, Option.getD_some]

/-! ## Which files are listed -/

/-- Paths in the order in which a search lists settings files for a start. -/
structure Listing (w : Workspace) (v : HomeVariables) (start : Path) (ps : List Path) : Prop where
  isFile : ∀ p ∈ ps, w.isFile p = true
  distinct : ps.Pairwise fun p q => p.same q = false
  /-- The file of the home directory comes first, and the others keep the order of the search. -/
  ordered : ∃ below, ps = (homeFile? w v).toList ++ below ∧ below.Sublist (candidates w start)
  complete : ∀ p ∈ candidates w start, w.isFile p = true → ∃ q ∈ ps, q.same p = true

theorem same_self (p : Path) : p.same p = true :=
  beq_self_eq_true p.components

theorem isFile_of_mem_homeFile? (h : p ∈ (homeFile? w v).toList) : w.isFile p = true := by
  rw [Option.mem_toList, homeFile?, Option.filter_eq_some_iff] at h
  exact h.2

theorem addFile_of_new {found : List Path} (hfile : w.isFile p = true)
    (hnew : ∀ q ∈ found, q.same p = false) : addFile w found p = found ++ [p] := by
  have hany : found.any (·.same p) = false := by simpa using hnew
  rw [addFile, hfile, hany]
  rfl

theorem addFile_of_not_new {found : List Path}
    (h : ¬(w.isFile p = true ∧ ∀ q ∈ found, q.same p = false)) : addFile w found p = found := by
  rw [addFile, if_neg]
  simpa using h

/-- Going on with a list of files keeps them and adds, in their order, the files among the paths
    that are not listed yet. -/
theorem exists_added {found : List Path} (ps : List Path)
    (hfile : ∀ p ∈ found, w.isFile p = true)
    (hdistinct : found.Pairwise fun p q => p.same q = false) :
    ∃ added, ps.foldl (addFile w) found = found ++ added ∧ added.Sublist ps ∧
      (∀ p ∈ found ++ added, w.isFile p = true) ∧
      ((found ++ added).Pairwise fun p q => p.same q = false) ∧
      ∀ p ∈ ps, w.isFile p = true → ∃ q ∈ found ++ added, q.same p = true := by
  -- what is found so far stays a list of distinct files, and each file of `ps` gets into it
  induction ps generalizing found with
  | nil =>
    refine ⟨[], (List.append_nil found).symm, .slnil, ?_, ?_, nofun⟩
    · rwa [List.append_nil]
    · rwa [List.append_nil]
  | cons p rest ih =>
    rw [List.foldl_cons]
    by_cases hnew : w.isFile p = true ∧ ∀ q ∈ found, q.same p = false
    · have hfile' : ∀ q ∈ found ++ [p], w.isFile q = true :=
        List.forall_mem_append.mpr ⟨hfile, List.forall_mem_singleton.mpr hnew.1⟩
      have hdistinct' : (found ++ [p]).Pairwise fun p q => p.same q = false := by
        simpa [List.pairwise_append] using ⟨hdistinct, hnew.2⟩
      obtain ⟨added, hfold, hsublist, hfiles, hpairwise, hcomplete⟩ := ih hfile' hdistinct'
      rw [List.append_assoc, List.singleton_append] at hfold hfiles hpairwise hcomplete
      rw [addFile_of_new hnew.1 hnew.2]
      refine ⟨p :: added, hfold, hsublist.cons_cons p, hfiles, hpairwise, ?_⟩
      intro q hq hqfile
      rcases List.mem_cons.mp hq with rfl | hq
      · exact ⟨q, List.mem_append_right _ (List.mem_cons_self ..), same_self q⟩
      · exact hcomplete q hq hqfile
    · obtain ⟨added, hfold, hsublist, hfiles, hpairwise, hcomplete⟩ := ih hfile hdistinct
      rw [addFile_of_not_new hnew]
      refine ⟨added, hfold, hsublist.cons p, hfiles, hpairwise, ?_⟩
      intro q hq hqfile
      rcases List.mem_cons.mp hq with rfl | hq
      -- a file that is not added is listed already, in some spelling
      · have hlisted : ∃ r ∈ found, r.same q = true := by
          by_contra hnone
          push Not at hnone
          exact hnew ⟨hqfile, fun r hr => Bool.eq_false_iff.mpr (hnone r hr)⟩
        obtain ⟨r, hr, hsame⟩ := hlisted
        exact ⟨r, List.mem_append_left _ hr, hsame⟩
      · exact hcomplete q hq hqfile

theorem listing_files (w : Workspace) (v : HomeVariables) (start : Path) :
    Listing w v start (files w v start) := by
  obtain ⟨added, hfiles, hsublist, hfile, hdistinct, hcomplete⟩ :=
    exists_added (w := w) (candidates w start) (fun p => isFile_of_mem_homeFile? (v := v))
      (by cases homeFile? w v <;> simp)
  rw [← files] at hfiles
  rw [← hfiles] at hfile hdistinct hcomplete
  exact ⟨hfile, hdistinct, ⟨added, hfiles, hsublist⟩, hcomplete⟩

/-! ## Where a search looks -/

/-- Directories from one that lies in no other down to a given one, each in the one before. -/
structure RunsDownTo (directories : List Path) (innermost : Path) : Prop where
  outermost : ∀ top ∈ directories.head?, top.parent? = none
  below : directories.IsChain fun outer inner => inner.parent? = some outer
  innermost : directories.getLast? = some innermost

theorem runsDownTo_ancestors (p : Path) : RunsDownTo p.ancestors.reverse p := by
  refine ⟨?_, ?_, ?_⟩
  · intro top htop
    have hlast := List.getLast?_eq_some_getLast (Path.ancestorsUpTo_ne_nil p.text.length p)
    rw [List.head?_reverse, Path.ancestors, hlast] at htop
    obtain rfl := Option.some.inj htop
    exact Path.parent?_getLast_ancestors p
  · exact List.isChain_reverse.mpr (Path.isChain_ancestors p)
  · rw [List.getLast?_reverse]
    exact Path.head_ancestorsUpTo _ p

/-- A search looks from the outermost directory above the start down to the start's own. -/
theorem exists_directories (w : Workspace) (start : Path) :
    startDirectory? w start = none ∧ candidates w start = [] ∨
      ∃ innermost directories, startDirectory? w start = some innermost ∧
        RunsDownTo directories innermost ∧
        candidates w start = directories.map (·.join settingsFileName) := by
  unfold candidates
  cases startDirectory? w start with
  | none => exact .inl ⟨rfl, rfl⟩
  | some innermost => exact .inr ⟨innermost, _, rfl, runsDownTo_ancestors innermost, rfl⟩

end Discovery

/-! ## The command line -/

/-- What a command line sets a key to. -/
def CommandLine.Arguments.value? (a : CommandLine.Arguments) : Key → Option Value
  | .keepEntryPoint => if a.keepEntryPoint then some (.truth true) else none
  | .indentWidth => a.indentWidth.map .count
  | .fenceInfo => a.fenceInfo.map .text
  | .marker _ => none
  | .fence => none

theorem CommandLine.Arguments.get_adjust (a : CommandLine.Arguments) (s : Settings) (k : Key) :
    (a.adjust s).get k = (a.value? k).getD (s.get k) := by
  cases k with
  | keepEntryPoint =>
    -- the flag can only switch the setting on
    have hget : (a.adjust s).get .keepEntryPoint = .truth (s.keepEntryPoint || a.keepEntryPoint) :=
      rfl
    rw [hget, value?]
    cases a.keepEntryPoint with
    | true => rw [Bool.or_true]; rfl
    | false => rw [Bool.or_false]; rfl
  | marker m => cases m <;> rfl
  | indentWidth =>
    rw [value?]
    cases hwidth : a.indentWidth <;> simp [Settings.get, adjust, hwidth]
  | fence => rfl
  | fenceInfo =>
    rw [value?]
    cases hinfo : a.fenceInfo <;> simp [Settings.get, adjust, hinfo]

namespace Session

open CommandLine (Arguments)

variable {w : Workspace} {v : HomeVariables} {a : Arguments} {file : Option Path}

/-- Without a settings file on the command line, the settings that are found are checked with those
    of the command line on top. -/
theorem settingsFor_of_no_config (hconfig : a.config = none) :
    settingsFor w v a file = checked (a.adjust (Discovery.settings w v (searchStart w file))) := by
  rw [settingsFor, fileSettings, hconfig]

theorem exists_checked_error {s : Settings} (h : ¬s.Valid) : ∃ f, checked s = .error f := by
  cases hchecked : checked s with
  | error f => exact ⟨f, rfl⟩
  | ok t => exact absurd (checked_eq_ok_iff.mp hchecked).2 h

/-- Whether an outcome comes from converting with some settings or, if they have a problem, is a
    failure that leaves everything as it is; either way something is logged before. -/
structure ConvertsWith (w : Workspace) (s : Settings) (log : List Entry)
    (convert : Settings → Outcome) (o : Outcome) : Prop where
  of_valid : s.Valid → o = (convert s).after log
  of_problem : ¬s.Valid → ∃ f, o = { workspace := w, log, failure := some f }

theorem convertsWith_runFile {s : Settings} {p : Path}
    (h : settingsFor w v a (some p) = checked s) :
    ConvertsWith w s (settingsLog w v a (some p)) (convertFile w (destinationOf a) · p)
      (runFile w v a none p) := by
  constructor
  · intro hvalid
    exact runFile_of_settings (h.trans (checked_eq_ok_iff.mpr ⟨rfl, hvalid⟩))
  · intro hproblem
    obtain ⟨f, hf⟩ := exists_checked_error hproblem
    exact ⟨f, runFile_of_fault (h.trans hf)⟩

theorem convertsWith_runInput {s : Settings} (h : settingsFor w v a none = checked s)
    (input : ByteArray) :
    ConvertsWith w s (settingsLog w v a none) (convertInput w · input) (runInput w v a input) := by
  constructor
  · intro hvalid
    exact runInput_of_settings input (h.trans (checked_eq_ok_iff.mpr ⟨rfl, hvalid⟩))
  · intro hproblem
    obtain ⟨f, hf⟩ := exists_checked_error hproblem
    exact ⟨f, runInput_of_fault input (h.trans hf)⟩

end Session

open Session Discovery in
/-- For each key the settings for a start are what the last settings file says that says something,
    and the default if none does; the files are listed each once, that of the home directory first
    and the others from the outermost directory above the start to the innermost.  A run that names
    no settings file converts with these settings, changed by what the command line says, if they
    have no problem, and else fails. -/
theorem layered_settings (w : Workspace) (v : HomeVariables) (start : Path) :
    (∀ k, (settings w v start).get k =
      (((files w v start).filterMap (said? w k)).getLast?).getD (({} : Settings).get k)) ∧
    Listing w v start (files w v start) ∧
    (startDirectory? w start = none ∧ candidates w start = [] ∨
      ∃ innermost directories, startDirectory? w start = some innermost ∧
        RunsDownTo directories innermost ∧
        candidates w start = directories.map (·.join settingsFileName)) ∧
    ∀ (a : CommandLine.Arguments) (input : ByteArray), a.config = none →
      let adjusted := a.adjust (settings w v start)
      (∀ k, adjusted.get k = (a.value? k).getD ((settings w v start).get k)) ∧
      (a.input.text = inputMark → start = w.herePath →
        ConvertsWith w adjusted (settingsLog w v a none) (convertInput w · input)
          (perform w v input a)) ∧
      (a.input.text ≠ inputMark → w.isFile start = true → a.input = start →
        ConvertsWith w adjusted (settingsLog w v a (some start))
          (convertFile w (destinationOf a) · start) (perform w v input a)) ∧
      commonSettings w v a = .ok none ∧
      ConvertsWith w adjusted (settingsLog w v a (some start))
        (convertFile w (destinationOf a) · start) (runFile w v a none start) := by
  refine ⟨fun k => get_foldl_applyFile w _ _ k, listing_files w v start,
    exists_directories w start, ?_⟩
  intro a input hconfig adjusted
  -- without a settings file on the command line, discovery gives the settings to adjust
  have hsettings : settingsFor w v a (some start) = checked adjusted :=
    settingsFor_of_no_config hconfig
  have hfile := convertsWith_runFile hsettings
  refine ⟨a.get_adjust _, ?_, ?_, commonSettings_of_no_config hconfig, hfile⟩
  · rintro hmark rfl
    rw [perform, if_pos hmark]
    exact convertsWith_runInput (settingsFor_of_no_config hconfig) input
  · rintro hmark hstart rfl
    rw [perform, if_neg hmark, if_pos hstart]
    exact hfile

/-- A project with a settings file, a broken one below it, and one in the home directory. -/
def layeredProject : Workspace where
  root := .directory
    [("home", .directory
        [("code2md.toml", .file (.ofText "indent_width = 2\nfence = \"~~~\"\n") 0o644)]),
      ("project", .directory
        [("code2md.toml", .file (.ofText "indent_width = 4\n") 0o644),
          ("sub", .directory
            [("code2md.toml", .file (.ofText "indent_width = 8\nfence = 3\n") 0o644),
              ("notes.c", .file (.ofText "/*\nTitle\n*/\nint x;\n") 0o644)])])]
  here := ["project"]

open Session Discovery in
/-- The project sets the width to its default, which counts against the home directory's; the broken
    file sets nothing; and the command line adds an info word. -/
theorem layered_settings_of_project :
    let w := layeredProject
    let v : HomeVariables := { home := some "/home" }
    let start : Path := ⟨"/project/sub/notes.c"⟩
    let a : CommandLine.Arguments := { input := start, fenceInfo := some "c" }
    let adjusted := a.adjust (settings w v start)
    files w v start = [⟨"/home/code2md.toml"⟩, ⟨"/project/code2md.toml"⟩,
      ⟨"/project/sub/code2md.toml"⟩] ∧
      (settings w v start).get .indentWidth = .count 4 ∧
      (settings w v start).get .fence = .text "~~~" ∧
      (a.config = none ∧ a.input.text ≠ inputMark ∧ w.isFile start = true ∧ adjusted.Valid) ∧
      adjusted.get .fenceInfo = .text "c" ∧
      perform w v .empty a =
        (convertFile w .replace adjusted start).after (settingsLog w v a (some start)) := by
  intro w v start a adjusted
  obtain ⟨hget, -, -, hruns⟩ := layered_settings w v start
  obtain ⟨hadjusted, -, hperform, -⟩ := hruns a .empty rfl
  have hfiles : files w v start = [⟨"/home/code2md.toml"⟩, ⟨"/project/code2md.toml"⟩,
      ⟨"/project/sub/code2md.toml"⟩] := by decide +kernel
  have hmark : a.input.text ≠ inputMark := by decide
  have hfile : w.isFile start = true := by decide +kernel
  have hvalid : adjusted.Valid := by decide +kernel
  refine ⟨hfiles, ?_, ?_, ⟨rfl, hmark, hfile, hvalid⟩, ?_, (hperform hmark hfile rfl).of_valid hvalid⟩
  · rw [hget, hfiles]
    decide +kernel
  · rw [hget, hfiles]
    decide +kernel
  · rw [hadjusted]
    rfl

end SourceWeaver
