/-
  Settings from the nearest file.

  Read from the inside out, a search takes for each key what the first file says that says something
  (`nearest?`).  The files are those of the directories above the start, without that of the home
  directory; what the latter says comes behind them all (`get_settings`).  So where the home directory
  is one of the directories above the start, its file gives way to those above it as well
  (`nearest_file_wins_iff`).
-/

import SourceWeaver.Proofs.Discovery.Layers
import SourceWeaver.Proofs.Files.Spelling

namespace SourceWeaver.Discovery

open Files Toml
open SourceWeaver.Path Workspace

variable {w : Workspace} {v : HomeVariables} {p q start directory : Path} {k : Key}
  {value : Value}

/-! ## Which files are added -/

theorem same_eq_false_iff : p.same q = false ↔ p.components ≠ q.components := by
  rw [same, beq_eq_false_iff_ne]

theorem isName_settingsFileName : IsName settingsFileName := by decide +kernel

/-- The settings file of a directory has one component more than the directory. -/
theorem components_settingsFile (directory : Path) :
    (directory.join settingsFileName).components =
      directory.components ++ [.name settingsFileName] :=
  isName_settingsFileName.components_join directory

/-- Paths of which no two are the same are added if they are files that are not there yet. -/
theorem foldl_addFile {ps : List Path} (h : ps.Pairwise fun p q => p.same q = false)
    (found : List Path) :
    ps.foldl (addFile w) found =
      found ++ ps.filter fun p => w.isFile p && !found.any (·.same p) := by
  induction ps generalizing found with
  | nil => simp
  | cons p rest ih =>
    obtain ⟨hp, hrest⟩ := List.pairwise_cons.mp h
    rw [List.foldl_cons, ih hrest, List.filter_cons, addFile]
    by_cases hadded : (w.isFile p && !found.any (·.same p)) = true
    -- the path that has been added is the same as none behind it
    · have hbehind : (rest.filter fun q => w.isFile q && !(found ++ [p]).any (·.same q)) =
          rest.filter fun q => w.isFile q && !found.any (·.same q) := by
        refine List.filter_congr fun q hq => ?_
        rw [List.any_append, List.any_cons, hp q hq, List.any_nil, Bool.or_false, Bool.or_false]
      rw [if_pos hadded, if_pos hadded, hbehind, List.append_assoc, List.singleton_append]
    · rw [if_neg hadded, if_neg hadded]

/-- The directories in which a search looks, the innermost first. -/
def searched (w : Workspace) (start : Path) : List Path :=
  match startDirectory? w start with
  | some directory => directory.ancestors
  | none => []

theorem searched_of_isFile (hfile : w.isFile start = true) (h : start.parent? = some directory) :
    searched w start = directory.ancestors := by
  rw [searched, startDirectory?, if_pos hfile, h]

theorem candidates_eq (w : Workspace) (start : Path) :
    candidates w start = (searched w start).reverse.map (·.join settingsFileName) := by
  unfold candidates searched
  cases startDirectory? w start <;> rfl

theorem pairwise_candidates (w : Workspace) (start : Path) :
    (candidates w start).Pairwise fun p q => p.same q = false := by
  have hdirectories : (searched w start).Pairwise fun a b => a.components ≠ b.components := by
    unfold searched
    cases startDirectory? w start with
    | none => exact .nil
    | some directory => exact pairwise_ancestors directory
  rw [candidates_eq, List.pairwise_map, List.pairwise_reverse]
  refine hdirectories.imp fun hne => ?_
  rw [same_eq_false_iff, components_settingsFile, components_settingsFile]
  exact fun heq => hne (List.append_cancel_right heq).symm

/-! ## What the nearest file says -/

/-- What the settings file of the first of some directories says that says something. -/
def nearest? (w : Workspace) (k : Key) (directories : List Path) : Option Value :=
  directories.findSome? fun directory => said? w k (directory.join settingsFileName)

/-- What the settings file of the home directory says. -/
def homeSaid? (w : Workspace) (v : HomeVariables) (k : Key) : Option Value :=
  (homeFile? w v).bind (said? w k)

/-- Whether the settings file of a directory is that of the home directory. -/
def isHome (w : Workspace) (v : HomeVariables) (directory : Path) : Bool :=
  (homeFile? w v).any (·.same (directory.join settingsFileName))

theorem said?_of_not_isFile (h : w.isFile p = false) : said? w k p = none := by
  unfold said? readText
  cases hread : w.read p with
  | error e => rfl
  | ok read =>
    obtain ⟨content, mode⟩ := read
    rw [isFile_of_read hread] at h
    cases h

theorem isFile_of_said? (h : said? w k p = some value) : w.isFile p = true := by
  by_contra hnot
  rw [said?_of_not_isFile (Bool.eq_false_iff.mpr hnot)] at h
  cases h

/-- Directories without a settings file make no difference to what the nearest one says. -/
theorem nearest?_filter_isFile (keep : Path → Bool) (directories : List Path) :
    nearest? w k (directories.filter fun d => w.isFile (d.join settingsFileName) && keep d) =
      nearest? w k (directories.filter keep) := by
  induction directories with
  | nil => rfl
  | cons d rest ih =>
    by_cases hfile : w.isFile (d.join settingsFileName) = true
    · have hkeep : (w.isFile (d.join settingsFileName) && keep d) = keep d := by rw [hfile, Bool.true_and]
      rw [List.filter_cons, List.filter_cons, hkeep]
      split
      · rw [nearest?, nearest?, List.findSome?_cons, List.findSome?_cons, ← nearest?, ← nearest?, ih]
      · exact ih
    · have hdropped : (w.isFile (d.join settingsFileName) && keep d) = false := by
        rw [Bool.eq_false_iff.mpr hfile, Bool.false_and]
      -- where no settings file lies, nothing is said, so dropping the directory is harmless
      have hsaid : said? w k (d.join settingsFileName) = none :=
        said?_of_not_isFile (Bool.eq_false_iff.mpr hfile)
      rw [List.filter_cons_of_neg (by rw [hdropped]; exact Bool.false_ne_true), ih, List.filter_cons]
      split
      · rw [nearest?, nearest?, List.findSome?_cons, hsaid]
      · rfl

/-- For each key the settings for a start are what the nearest file says, that of the home directory
    left out, or else what that one says, or else the default. -/
theorem get_settings (w : Workspace) (v : HomeVariables) (start : Path) (k : Key) :
    (settings w v start).get k =
      ((nearest? w k ((searched w start).filter (!isHome w v ·))).or (homeSaid? w v k)).getD
        (({} : Settings).get k) := by
  have hhome : (((homeFile? w v).toList.filterMap (said? w k)).getLast?) = homeSaid? w v k := by
    unfold homeSaid?
    cases homeFile? w v with
    | none => rfl
    | some h => cases hsaid : said? w k h <;> simp [hsaid]
  have hany (p : Path) :
      (homeFile? w v).toList.any (·.same p) = (homeFile? w v).any (·.same p) := by
    cases homeFile? w v <;> simp
  -- the files are listed from the outermost directory on, and the last one counts
  have hothers : (((candidates w start).filter fun p =>
      w.isFile p && !(homeFile? w v).toList.any (·.same p)).filterMap (said? w k)).getLast? =
        nearest? w k ((searched w start).filter (!isHome w v ·)) := by
    rw [← nearest?_filter_isFile, candidates_eq, List.filter_map, List.filterMap_map,
      List.filter_reverse, List.filterMap_reverse, List.getLast?_reverse, List.head?_filterMap]
    simp only [hany]
    rfl
  rw [settings, merged, get_foldl_applyFile, files, foldl_addFile (pairwise_candidates w start),
    List.filterMap_append, List.getLast?_append, hhome, hothers]

/-! ## What is said by components -/

/-- What the file at a place says. -/
def saidAt? (w : Workspace) (k : Key) (l : Location) : Option Value :=
  match w.root.at? l with
  | some (.file content _) =>
    (content.text?.bind parse?).bind fun es => if es.WellKinded then es.value? k else none
  | _ => none

theorem said?_eq (w : Workspace) (k : Key) (p : Path) :
    said? w k p = (w.locate p).toOption.bind (saidAt? w k) := by
  -- a key is said where the file is there, is text and parses
  unfold said? readText Workspace.read
  cases w.locate p with
  | error e => rfl
  | ok l =>
    dsimp only [Except.toOption, Option.bind_some]
    unfold saidAt?
    cases w.root.at? l with
    | none => rfl
    | some node =>
      cases node with
      | file content mode =>
        dsimp only
        cases content.text? with
        | none => rfl
        | some text =>
          dsimp only [Option.bind_some]
          cases parse? text <;> rfl
      | directory es => rfl
      | link target => rfl

/-- What the settings file of a directory says, by the components of the directory. -/
def saidBelow? (w : Workspace) (k : Key) (cs : List Component) : Option Value :=
  (follow w.root false (maxLinks + 1) (if cs.head? == some .root then [] else w.here)
    (cs.filterMap hop? ++ [settingsFileName])).toOption.bind (saidAt? w k)

/-- However a directory is spelled, its components decide what its settings file says. -/
theorem said?_settingsFile (husable : Usable (directory.join settingsFileName).text) :
    said? w k (directory.join settingsFileName) = saidBelow? w k directory.components := by
  have hparts : partsOf settingsFileName.toList = [] ++ [settingsFileName.toList] :=
    partsOf_of_not_mem isName_settingsFileName.2
  -- the name of the settings file is the last hop, and a name never stays in place
  have hlast : ∀ hop ∈ (hops (directory.join settingsFileName).text).getLast?, stays hop = false := by
    rw [getLast?_hops_join isName_settingsFileName (isAbsolute_of_isName isName_settingsFileName)
      hparts]
    rintro hop ⟨⟩
    exact stays_of_isName isName_settingsFileName
  -- whether the path starts at the root can be read off its first component
  have hstart : startOf (directory.join settingsFileName).text w.here =
      if directory.components.head? == some .root then [] else w.here := by
    rw [startOf_eq, isAbsolute_eq, components_settingsFile]
    cases directory.components <;> rfl
  rw [said?_eq, toOption_locate husable hlast, hstart, components_settingsFile,
    List.filterMap_append]
  rfl

theorem usable_of_isFile (h : w.isFile p = true) : Usable p.text := by
  obtain ⟨l, hlocate, -⟩ := isFile_iff.mp h
  exact (locate_eq_ok_iff.mp hlocate).1

/-- What the settings file of the home directory says under another spelling it says under its
    own. -/
theorem homeSaid?_of_isHome (hhome : isHome w v directory = true)
    (hsaid : said? w k (directory.join settingsFileName) = some value) :
    homeSaid? w v k = some value := by
  unfold isHome at hhome
  unfold homeSaid?
  cases hfile : homeFile? w v with
  | none =>
    rw [hfile] at hhome
    cases hhome
  | some h =>
    rw [hfile, Option.any_some, same, beq_iff_eq] at hhome
    rw [homeFile?, Option.filter_eq_some_iff, Option.map_eq_some_iff] at hfile
    obtain ⟨⟨home, -, rfl⟩, hisFile⟩ := hfile
    -- the two spellings have the same components, and these decide what is said
    rw [components_settingsFile, components_settingsFile] at hhome
    rw [Option.bind_some, said?_settingsFile (usable_of_isFile hisFile),
      List.append_cancel_right hhome,
      ← said?_settingsFile (usable_of_isFile (isFile_of_said? hsaid)), hsaid]

/-! ## The nearest file -/

/-- What the nearest file says is what the settings are, unless it is the file of the home directory
    and the nearest of the others says something else. -/
theorem get_settings_eq_iff (hnearest : nearest? w k (searched w start) = some value) :
    (settings w v start).get k = value ↔
      ∀ other, nearest? w k ((searched w start).filter (!isHome w v ·)) = some other →
        other = value := by
  rw [get_settings]
  cases hothers : nearest? w k ((searched w start).filter (!isHome w v ·)) with
  | some other => simp
  | none =>
    -- the nearest file has been left out, so it is that of the home directory
    obtain ⟨d, hd, hsaid⟩ := List.exists_of_findSome?_eq_some hnearest
    have hhome : isHome w v d = true := by
      by_contra hnot
      have hkept : d ∈ (searched w start).filter (!isHome w v ·) :=
        List.mem_filter.mpr ⟨hd, by simpa using hnot⟩
      rw [List.findSome?_eq_none_iff.mp hothers d hkept] at hsaid
      cases hsaid
    rw [homeSaid?_of_isHome hhome hsaid]
    simp

/-- The settings for a file take from the nearest settings file above it what it says about a key,
    unless that file is the one of the home directory and the nearest of the others says something
    else. -/
theorem nearest_file_wins_iff (hfile : w.isFile start = true)
    (hdirectory : start.parent? = some directory)
    (hnearest : nearest? w k directory.ancestors = some value) :
    (settings w v start).get k = value ↔
      ∀ other, nearest? w k (directory.ancestors.filter (!isHome w v ·)) = some other →
        other = value := by
  have hsearched := searched_of_isFile hfile hdirectory
  rw [← hsearched] at hnearest ⊢
  exact get_settings_eq_iff hnearest

/-- A settings file in a home directory, and another one in the directory above it. -/
def homeBelowSettings : Workspace where
  root := .directory
    [("home", .directory
        [("code2md.toml", .file (.ofText "indent_width = 2\n") 0o644),
          ("user", .directory
            [("code2md.toml", .file (.ofText "indent_width = 8\nfence = \"~~~\"\n") 0o644),
              ("notes.c", .file (.ofText "/*\nTitle\n*/\nint x;\n") 0o644)])])]
  here := []

/-- The fence is set in the home directory alone, so that its file counts. -/
theorem nearest_file_wins_for_fence :
    let w := homeBelowSettings
    let v : HomeVariables := { home := some "/home/user" }
    let start : Path := ⟨"/home/user/notes.c"⟩
    (w.isFile start = true ∧ start.parent? = some ⟨"/home/user"⟩ ∧
      nearest? w .fence (ancestors ⟨"/home/user"⟩) = some (.text "~~~")) ∧
      (settings w v start).get .fence = .text "~~~" := by
  intro w v start
  have hfile : w.isFile start = true := by decide +kernel
  have hdirectory : start.parent? = some ⟨"/home/user"⟩ := by decide +kernel
  have hnearest : nearest? w .fence (ancestors ⟨"/home/user"⟩) = some (.text "~~~") := by
    decide +kernel
  have hothers : nearest? w .fence ((ancestors ⟨"/home/user"⟩).filter (!isHome w v ·)) = none := by
    decide +kernel
  refine ⟨⟨hfile, hdirectory, hnearest⟩,
    (nearest_file_wins_iff hfile hdirectory hnearest).mpr fun other h => ?_⟩
  rw [hothers] at h
  cases h

/-- The width is set in the directory above as well, and what the nearest file says about it is
    overruled. -/
theorem nearest_file_overruled :
    let w := homeBelowSettings
    let v : HomeVariables := { home := some "/home/user" }
    let start : Path := ⟨"/home/user/notes.c"⟩
    start.isAbsolute = true ∧ w.isFile start = true ∧ start.parent? = some ⟨"/home/user"⟩ ∧
      nearest? w .indentWidth (ancestors ⟨"/home/user"⟩) = some (.count 8) ∧
      (settings w v start).get .indentWidth = .count 2 := by
  decide +kernel

end SourceWeaver.Discovery
