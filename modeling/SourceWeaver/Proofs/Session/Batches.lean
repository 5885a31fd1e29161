/-
  Batches, in any order.

  A run on one file of a batch leaves the other files and their settings files alone, so that every
  file is converted as it is by itself (`batch_eq`), and the order makes no difference
  (`runFiles_of_perm`).  A batch that prints changes nothing (`batch_of_print`).  The main result is
  `batch_order_irrelevant`.
-/

import SourceWeaver.Proofs.Path.Order
import SourceWeaver.Proofs.Session.Confinement
import SourceWeaver.Proofs.Session.Revision

namespace SourceWeaver.Session

open CommandLine (Arguments)
open Files Workspace

variable {w z : Workspace} {changed : Location → Prop} {v : HomeVariables} {a : Arguments}
  {p : Path} {common : Option Settings} {ps : List Path}

/-! ## All files -/

theorem locate_of_isFile (hplain : w.root.Plain) (hp : w.isFile p = true) :
    w.locate p = .ok (w.placeOf p) ∧ w.root.sign (w.placeOf p) = .file := by
  obtain ⟨l, hlocate, hl⟩ := isFile_iff.mp hp
  obtain rfl := placeOf_of_locate hplain hlocate
  exact ⟨hlocate, hl⟩

/-- A batch converts each file as a run on the file alone does. -/
theorem batch_eq (hw : w.Grounded) (hplain : w.root.Plain) (h : w.Revises z changed)
    (hdestination : destinationOf a = .replace) (common : Option Settings)
    (hfile : ∀ p ∈ ps, w.isFile p = true) (hplaces : (ps.map w.placeOf).Nodup)
    (hfresh : ∀ p ∈ ps, ¬changed (w.placeOf p))
    (hconsulted : ∀ p ∈ ps, ConsultsNone w v a p fun l =>
      changed l ∨ ∃ q ∈ ps, l = w.placeOf q) :
    (batch z v a common ps).workspace =
        adoptAll w.placeOf (fun p => (runFile w v a common p).workspace) ps z ∧
      (batch z v a common ps).printed =
        String.join (ps.map fun p => (runFile w v a common p).printed) ∧
      (batch z v a common ps).failures =
        ps.countP fun p => (runFile w v a common p).failure.isSome := by
  induction ps generalizing z changed with
  | nil => exact ⟨rfl, rfl, rfl⟩
  | cons p rest ih =>
    rw [List.map_cons, List.nodup_cons] at hplaces
    have hp := List.mem_cons_self (a := p) (l := rest)
    have hrest {q : Path} (hq : q ∈ rest) : q ∈ p :: rest := List.mem_cons_of_mem _ hq
    obtain ⟨hlocate, hl⟩ := locate_of_isFile hplain (hfile p hp)
    have hone : runFile z v a common p = (runFile w v a common p).carried z (w.placeOf p) :=
      runFile_revision hw hplain h hlocate hl (hfresh p hp) hdestination
        ((hconsulted p hp).mono fun l => .inl) common
    -- the place of the first file is one more that has changed, and the others can do without it
    have hnext := h.adopt hl (runFile w v a common p).workspace
    obtain ⟨hworkspace, hprinted, hfailures⟩ := ih hnext (fun q hq => hfile q (hrest hq)) hplaces.2
      (fun q hq hc => hc.elim (fun heq => hplaces.1 (heq ▸ List.mem_map_of_mem hq))
        (hfresh q (hrest hq)))
      (fun q hq => (hconsulted q (hrest hq)).mono fun l hc => by
        rcases hc with (rfl | hc) | ⟨r, hr, rfl⟩
        · exact .inr ⟨p, hp, rfl⟩
        · exact .inl hc
        · exact .inr ⟨r, hrest hr, rfl⟩)
    rw [workspace_batch_cons, printed_batch_cons, failures_batch_cons, hone]
    refine ⟨hworkspace, ?_, ?_⟩
    · rw [List.map_cons, String.join_cons]
      exact congrArg _ hprinted
    · rw [List.countP_cons, Nat.add_comm]
      exact congrArg (· + _) hfailures

/-! ## Batches that print -/

theorem workspace_runFile_of_print (hw : w.Grounded) (hdestination : destinationOf a = .print)
    (v : HomeVariables) (common : Option Settings) (p : Path) :
    (runFile w v a common p).workspace = w := by
  have hconfined := runFile_confined hw v a common p
  rw [hdestination] at hconfined
  by_cases hfailure : (runFile w v a common p).failure = none
  · rcases hconfined.of_success hfailure with h | ⟨l, content, mode, hallowed, -⟩
    · exact h
    · exact hallowed.elim
  · exact (hconfined.of_failure hfailure).1

theorem batch_of_print (hw : w.Grounded) (hdestination : destinationOf a = .print)
    (v : HomeVariables) (common : Option Settings) (ps : List Path) :
    (batch w v a common ps).workspace = w ∧
      (batch w v a common ps).printed =
        String.join (ps.map fun p => (runFile w v a common p).printed) ∧
      (batch w v a common ps).failures =
        ps.countP fun p => (runFile w v a common p).failure.isSome := by
  -- no run changes the workspace, so each of them starts from `w`
  induction ps with
  | nil => exact ⟨rfl, rfl, rfl⟩
  | cons p rest ih =>
    rw [workspace_batch_cons, printed_batch_cons, failures_batch_cons,
      workspace_runFile_of_print hw hdestination]
    refine ⟨ih.1, ?_, ?_⟩
    · rw [List.map_cons, String.join_cons, ih.2.1]
    · rw [List.countP_cons, Nat.add_comm, ih.2.2]

/-! ## Settings in common -/

theorem commonSettings_of_config {c : Path} (hconfig : a.config = some c) (file : Option Path) :
    commonSettings w v a = (settingsFor w v a file).map some := by
  rw [commonSettings, hconfig, Option.isSome_some, if_pos rfl, settingsFor_of_config hconfig,
    settingsFor_of_config hconfig]

/-- Settings that a batch has in common are those that each file would have by itself. -/
theorem exists_log_of_common (hcommon : commonSettings w v a = .ok common) (p : Path) :
    ∃ log, runFile w v a none p = (runFile w v a common p).after log := by
  -- with a settings file on the command line the batch reads it once and a run alone reads it again
  cases hconfig : a.config with
  | none =>
    rw [commonSettings_of_no_config hconfig] at hcommon
    obtain rfl := Except.ok.inj hcommon
    exact ⟨[], rfl⟩
  | some c =>
    rw [commonSettings_of_config hconfig (some p)] at hcommon
    cases hown : settingsFor w v a (some p) with
    | error f =>
      rw [hown] at hcommon
      cases hcommon
    | ok cfg =>
      rw [hown] at hcommon
      obtain rfl := Except.ok.inj hcommon
      exact ⟨settingsLog w v a (some p), runFile_of_settings hown⟩

theorem failure_of_common_error {f : Failure} (hcommon : commonSettings w v a = .error f)
    (p : Path) : (runFile w v a none p).failure = some f := by
  cases hconfig : a.config with
  | none =>
    rw [commonSettings_of_no_config hconfig] at hcommon
    cases hcommon
  | some c =>
    rw [commonSettings_of_config hconfig (some p)] at hcommon
    cases hown : settingsFor w v a (some p) with
    | error f' =>
      rw [hown] at hcommon
      rw [runFile_of_fault hown]
      exact congrArg some (Except.error.inj hcommon)
    | ok cfg =>
      rw [hown] at hcommon
      cases hcommon

/-! ## One file alone -/

/-- What a command line does with one path for its input. -/
def alone (w : Workspace) (v : HomeVariables) (input : ByteArray) (a : Arguments) (p : Path) :
    Outcome :=
  perform w v input { a with input := p }

theorem alone_eq (hfile : w.isFile p = true) (hseparator : '/' ∈ p.text.toList)
    (input : ByteArray) : alone w v input a p = runFile w v a none p := by
  have hmark : p.text ≠ inputMark := by
    intro h
    rw [h] at hseparator
    exact absurd hseparator (by decide)
  rw [alone, perform, if_neg hmark, if_pos hfile]
  rfl

/-- With settings in common, what a file comes to by itself is what it comes to in the batch. -/
theorem alone_of_common (hcommon : commonSettings w v a = .ok common) (hfile : w.isFile p = true)
    (hseparator : '/' ∈ p.text.toList) (input : ByteArray) :
    (alone w v input a p).workspace = (runFile w v a common p).workspace ∧
      (alone w v input a p).printed = (runFile w v a common p).printed ∧
      (alone w v input a p).failure = (runFile w v a common p).failure := by
  obtain ⟨log, hlog⟩ := exists_log_of_common hcommon p
  rw [alone_eq hfile hseparator, hlog]
  exact ⟨rfl, rfl, rfl⟩

/-! ## Runs on directories -/

theorem runFiles_eq (w : Workspace) (v : HomeVariables) (a : Arguments) (common : Option Settings)
    (ps : List Path) :
    (runFiles w v a common ps).workspace = (batch w v a common ps).workspace ∧
      (runFiles w v a common ps).printed = (batch w v a common ps).printed ∧
      ((runFiles w v a common ps).failure = none ↔ (batch w v a common ps).failures = 0) := by
  unfold runFiles
  cases ps with
  | nil => exact ⟨rfl, rfl, by simp [batch_nil]⟩
  | cons p rest => exact ⟨rfl, rfl, batchFailure_eq_none_iff⟩

theorem perform_directory (hmark : a.input.text ≠ inputMark)
    (hdirectory : w.isDirectory a.input = true) (houtput : a.output = none) (input : ByteArray) :
    perform w v input a = runDirectory w v a := by
  -- a path cannot lead to a file and to a directory
  have hfile : w.isFile a.input = false := by
    rw [Bool.eq_false_iff]
    intro hfile
    obtain ⟨l, hlocate, hl⟩ := isFile_iff.mp hfile
    obtain ⟨m, hlocate', hm⟩ := isDirectory_iff.mp hdirectory
    obtain rfl := Except.ok.inj (hlocate.symm.trans hlocate')
    rw [hl] at hm
    cases hm
  rw [perform, if_neg hmark, hfile, hdirectory, houtput]
  rfl

theorem runDirectory_of_common (hcommon : commonSettings w v a = .ok common) :
    runDirectory w v a =
      (runFiles w v a common ((selectionOf a).files w a.input)).after
        (commonLog w v a ++ patternLog a) := by
  rw [runDirectory, hcommon]

theorem runDirectory_of_error {f : Failure} (hcommon : commonSettings w v a = .error f) :
    runDirectory w v a = { workspace := w, log := commonLog w v a, failure := some f } := by
  rw [runDirectory, hcommon]

theorem revises_runFile (hw : w.Grounded) (hplain : w.root.Plain)
    (hdestination : destinationOf a = .replace) (v : HomeVariables) (common : Option Settings)
    (hp : w.isFile p = true) :
    w.Revises (runFile w v a common p).workspace fun m => m = w.placeOf p ∨ False := by
  obtain ⟨hlocate, hl⟩ := locate_of_isFile hplain hp
  have hnone : w.Revises w fun _ => False := revises_self w _
  have hself : (runFile w v a common p).workspace =
      w.adopt (w.placeOf p) (runFile w v a common p).workspace := congrArg Outcome.workspace <|
    runFile_revision hw hplain hnone hlocate hl id hdestination (fun _ _ _ _ => id) common
  have hadopt := hnone.adopt hl (runFile w v a common p).workspace
  rwa [← hself] at hadopt

section Replace

variable (hw : w.Grounded) (hplain : w.root.Plain) (hdestination : destinationOf a = .replace)
  (common : Option Settings) (hfound : w.Found [] ps)
  (hconsulted : ∀ p ∈ ps, ConsultsNone w v a p fun l => ∃ q ∈ ps, w.locate q = .ok l)

include hw hplain hdestination hfound hconsulted

/-- Whatever their order, the files of a batch end as each does by itself. -/
theorem runFiles_of_perm {order : List Path} (horder : order.Perm ps) :
    (runFiles w v a common order).workspace =
        adoptAll w.placeOf (fun p => (runFile w v a common p).workspace) ps w ∧
      ((runFiles w v a common order).failure = none ↔
        ∀ p ∈ ps, (runFile w v a common p).failure = none) ∧
      (batch w v a common order).failures =
        ps.countP fun p => (runFile w v a common p).failure.isSome := by
  -- the places are distinct in every order, so no run meets what another one wrote
  have hplaces := ((horder.map w.placeOf).nodup_iff).mpr hfound.distinct
  have hnone : w.Revises w fun _ => False := revises_self w _
  obtain ⟨hworkspace, -, hfailures⟩ := batch_eq (v := v) hw hplain hnone hdestination common
    (fun p hp => hfound.isFile p (horder.subset hp)) hplaces (fun _ _ => id) (fun p hp => by
      refine (hconsulted p (horder.subset hp)).mono fun l hl => ?_
      rcases hl with hl | ⟨q, hq, rfl⟩
      · exact hl.elim
      · have hq := horder.subset hq
        exact ⟨q, hq, (locate_of_isFile hplain (hfound.isFile q hq)).1⟩)
  -- the run of the program is the batch with its failures counted into one
  obtain ⟨hworkspace', -, hfailure⟩ := runFiles_eq w v a common order
  refine ⟨?_, ?_, ?_⟩
  · rw [hworkspace', hworkspace, adoptAll_perm horder hplaces]
  · rw [hfailure, hfailures, List.countP_eq_zero]
    constructor
    · intro h p hp
      simpa using h p (horder.symm.subset hp)
    · intro h p hp
      simp [h p (horder.subset hp)]
  · rw [hfailures, horder.countP_eq]

omit hconsulted in
theorem read_adoptAll (v : HomeVariables) (hp : p ∈ ps) :
    (adoptAll w.placeOf (fun p => (runFile w v a common p).workspace) ps w).read p =
      (runFile w v a common p).workspace.read p := by
  have hsign (q : Path) (hq : q ∈ ps) := (locate_of_isFile hplain (hfound.isFile q hq)).2
  have hown (q : Path) (hq : q ∈ ps) :=
    revises_runFile hw hplain hdestination v common (hfound.isFile q hq)
  have hnone : w.Revises w fun _ => False := revises_self w _
  refine (hnone.adoptAll hsign _).read_congr (hown p hp)
    (locate_of_isFile hplain (hfound.isFile p hp)).1 ?_
  exact faceAt?_adoptAll_of_mem hfound.distinct hsign
    (fun q hq => ((hown q hq).sign_eq _).trans (hsign q hq)) hp

end Replace

/-- Whether files end as they do by themselves, those that fail as they were, and all else stays. -/
structure Isolated (w z : Workspace) (alone : Path → Outcome) (ps : List Path) : Prop where
  read_eq : ∀ p ∈ ps, z.read p = (alone p).workspace.read p
  kept : ∀ p ∈ ps, (alone p).failure.isSome = true → z.read p = w.read p
  others : ∀ l, (∀ p ∈ ps, w.locate p ≠ .ok l) → z.root.faceAt? l = w.root.faceAt? l

section Directory

variable {input : ByteArray} {f : Failure} (hw : w.Grounded) (hfound : w.Found [] ps)

include hfound in
theorem alone_of_error (hw : w.Grounded) (hcommon : commonSettings w v a = .error f) (hp : p ∈ ps) :
    (alone w v input a p).failure = some f ∧ (alone w v input a p).workspace = w := by
  have hfailure := failure_of_common_error hcommon p
  have hconfined := runFile_confined hw v a none p
  rw [alone_eq (hfound.isFile p hp) (hfound.separator p hp)]
  refine ⟨hfailure, (hconfined.of_failure ?_).1⟩
  rw [hfailure]
  exact Option.some_ne_none f

include hfound in
/-- Without settings in common that can be used, no file is converted in a batch or alone. -/
theorem isolated_of_error (hw : w.Grounded) (hcommon : commonSettings w v a = .error f) :
    Isolated w w (alone w v input a) ps := by
  refine ⟨fun p hp => ?_, fun _ _ _ => rfl, fun _ _ => rfl⟩
  rw [(alone_of_error hfound hw hcommon hp).2]

include hw hfound in
theorem isolated_of_common (hplain : w.root.Plain) (hdestination : destinationOf a = .replace)
    (hcommon : commonSettings w v a = .ok common) :
    Isolated w (adoptAll w.placeOf (fun p => (runFile w v a common p).workspace) ps w)
      (alone w v input a) ps := by
  have hread (p : Path) (hp : p ∈ ps) := read_adoptAll hw hplain hdestination common hfound v hp
  have hown (p : Path) (hp : p ∈ ps) :=
    alone_of_common hcommon (hfound.isFile p hp) (hfound.separator p hp) input
  have hsign (p : Path) (hp : p ∈ ps) := locate_of_isFile hplain (hfound.isFile p hp)
  refine ⟨fun p hp => ?_, fun p hp hfails => ?_, fun l hl => ?_⟩
  · rw [hread p hp, (hown p hp).1]
  -- a run that fails has changed nothing, so the file is as it was
  · have hfailure : (runFile w v a common p).failure ≠ none := by
      rw [← (hown p hp).2.2, ← Option.isSome_iff_ne_none]
      exact hfails
    rw [hread p hp, ((runFile_confined hw v a common p).of_failure hfailure).1]
  · have hnone : w.Revises w fun _ => False := revises_self w _
    -- every run revises its own place, and no other
    have hrevises := hnone.adoptAll (fun p hp => (hsign p hp).2)
      fun p => (runFile w v a common p).workspace
    refine hrevises.faceAt?_eq l ?_
    rintro (hfalse | ⟨p, hp, rfl⟩)
    · exact hfalse
    · exact hl p hp (hsign p hp).1

end Directory

/-- Whether the settings in common cannot be used or a file fails. -/
def DirectoryFails (w : Workspace) (v : HomeVariables) (input : ByteArray) (a : Arguments)
    (ps : List Path) : Prop :=
  (∃ f, commonSettings w v a = .error f) ∨ ∃ p ∈ ps, (alone w v input a p).failure.isSome = true

theorem directoryFails_iff {input : ByteArray} {o : Outcome} (hfound : w.Found [] ps)
    (hcommon : commonSettings w v a = .ok common)
    (hfailure : o.failure = none ↔ ∀ p ∈ ps, (runFile w v a common p).failure = none) :
    o.failure ≠ none ↔ DirectoryFails w v input a ps := by
  have hown (p : Path) (hp : p ∈ ps) :=
    (alone_of_common hcommon (hfound.isFile p hp) (hfound.separator p hp) input).2.2
  rw [ne_eq, hfailure, DirectoryFails, hcommon]
  -- the settings that all runs share have been read, so only a run can fail
  simp only [reduceCtorEq, exists_false, false_or, not_forall, ← ne_eq]
  constructor
  · rintro ⟨p, hp, hne⟩
    exact ⟨p, hp, by rwa [hown p hp, Option.isSome_iff_ne_none]⟩
  · rintro ⟨p, hp, hsome⟩
    rw [hown p hp, Option.isSome_iff_ne_none] at hsome
    exact ⟨p, hp, hsome⟩

theorem status_exit_congr {o o' : Outcome} (h : o.failure = none ↔ o'.failure = none)
    (threshold : Level) : (o.exit threshold).status = (o'.exit threshold).status := by
  unfold Outcome.exit
  cases hfailure : o.failure <;> cases hfailure' : o'.failure <;> simp_all

/-- Files that fail print nothing, so they can be left out. -/
theorem join_printed_filter {own : Path → Outcome}
    (h : ∀ p ∈ ps, (own p).failure ≠ none → (own p).printed = "") :
    String.join (ps.map fun p => (own p).printed) =
      String.join ((ps.filter fun p => (own p).failure.isNone).map fun p => (own p).printed) := by
  induction ps with
  | nil => rfl
  | cons p rest ih =>
    have hrest := ih fun q hq => h q (List.mem_cons_of_mem _ hq)
    rw [List.map_cons, String.join_cons, hrest]
    cases hfailure : (own p).failure with
    | none =>
      rw [List.filter_cons_of_pos (by rw [hfailure]; rfl), List.map_cons, String.join_cons]
    | some f =>
      -- a run that fails prints nothing, so it may as well be left out
      have hempty := h p (List.mem_cons_self ..) (by rw [hfailure]; exact Option.some_ne_none f)
      rw [List.filter_cons_of_neg (by rw [hfailure]; exact Bool.false_ne_true), hempty,
        String.empty_append]

section Common

variable (input : ByteArray) (hw : w.Grounded) (hfound : w.Found [] ps)
  (hcommon : commonSettings w v a = .ok common)

include hw hfound hcommon

/-- A batch that replaces its files does so one by one, in whatever order. -/
theorem replaced_of_common (hplain : w.root.Plain) (hdestination : destinationOf a = .replace)
    (hconsulted : ∀ p ∈ ps, ConsultsNone w v a p fun l => ∃ q ∈ ps, w.locate q = .ok l) :
    let o := runFiles w v a common ps
    Isolated w o.workspace (alone w v input a) ps ∧
      (o.failure ≠ none ↔ DirectoryFails w v input a ps) ∧
      ∀ order : List Path, order.Perm ps →
        (runFiles w v a common order).workspace = o.workspace ∧
          ((runFiles w v a common order).failure = none ↔ o.failure = none) ∧
          (batch w v a common order).failures =
            ps.countP fun p => (alone w v input a p).failure.isSome := by
  intro o
  -- the order the program takes is one of them
  have horders {order : List Path} (horder : order.Perm ps) :=
    runFiles_of_perm (v := v) hw hplain hdestination common hfound hconsulted horder
  obtain ⟨hworkspace, hfailure, -⟩ := horders (List.Perm.refl ps)
  refine ⟨?_, directoryFails_iff hfound hcommon hfailure, fun order horder => ?_⟩
  · rw [hworkspace]
    exact isolated_of_common hw hfound hplain hdestination hcommon
  · obtain ⟨hworkspace', hfailure', hfailures⟩ := horders horder
    refine ⟨hworkspace'.trans hworkspace.symm, hfailure'.trans hfailure.symm, ?_⟩
    rw [hfailures]
    refine List.countP_congr fun p hp => ?_
    rw [(alone_of_common hcommon (hfound.isFile p hp) (hfound.separator p hp) input).2.2]

/-- A batch that prints leaves the files alone and prints what the runs on them print. -/
theorem printed_of_common (hdestination : destinationOf a = .print) :
    let o := runFiles w v a common ps
    o.workspace = w ∧ (o.failure ≠ none ↔ DirectoryFails w v input a ps) ∧
      o.printed = String.join ((ps.filter fun p => (alone w v input a p).failure.isNone).map
        fun p => (alone w v input a p).printed) := by
  intro o
  have hown (p : Path) (hp : p ∈ ps) :=
    alone_of_common hcommon (hfound.isFile p hp) (hfound.separator p hp) input
  obtain ⟨hworkspace, hprinted, hfailures⟩ := batch_of_print hw hdestination v common ps
  obtain ⟨hworkspace', hprinted', hfailure⟩ := runFiles_eq w v a common ps
  have hnone : o.failure = none ↔ ∀ p ∈ ps, (runFile w v a common p).failure = none := by
    rw [hfailure, hfailures, List.countP_eq_zero]
    simp
  have hsame : ps.map (fun p => (runFile w v a common p).printed) =
      ps.map fun p => (alone w v input a p).printed :=
    List.map_congr_left fun p hp => (hown p hp).2.1.symm
  refine ⟨hworkspace'.trans hworkspace, directoryFails_iff hfound hcommon hnone, ?_⟩
  rw [hprinted', hprinted, hsame]
  refine join_printed_filter fun p hp hfails => ?_
  -- a file that fails prints nothing, in the batch as alone
  rw [(hown p hp).2.2] at hfails
  rw [(hown p hp).2.1, ((runFile_confined hw v a common p).of_failure hfails).2]

end Common

/-- In a tree without links, where no file of a directory counts as a settings file for another,
    each file of a run on the directory ends as a run on it alone leaves it, a file whose run fails
    stays as it is, no other file changes, and the run fails if a file does or if the settings in
    common cannot be used; the order of the files makes no difference.  A run that prints changes
    no file, and prints what the runs on the single files print, in the order of the paths. -/
theorem batch_order_irrelevant (hw : w.Grounded) (hplain : w.root.Plain) (v : HomeVariables)
    (input : ByteArray) {arguments : List String}
    (hparse : CommandLine.parse arguments = .ok a) (hmark : a.input.text ≠ inputMark)
    (hdirectory : w.isDirectory a.input = true) (houtput : a.output = none) :
    let files := (selectionOf a).files w a.input
    let e := run w v input arguments
    (a.stdout = false →
      (∀ p ∈ files, ConsultsNone w v a p fun l => ∃ q ∈ files, w.locate q = .ok l) →
        Isolated w e.workspace (alone w v input a) files ∧
        (e.status ≠ 0 ↔ DirectoryFails w v input a files) ∧
        ∀ common, commonSettings w v a = .ok common →
          ∀ order : List Path, order.Perm files →
            (runFiles w v a common order).workspace = e.workspace ∧
              ((runFiles w v a common order).exit (thresholdOf a)).status = e.status ∧
              (batch w v a common order).failures =
                files.countP fun p => (alone w v input a p).failure.isSome) ∧
    (a.stdout = true →
      e.workspace = w ∧ (e.status ≠ 0 ↔ DirectoryFails w v input a files) ∧
        (files.Pairwise fun p q => p.le q = true) ∧
        e.stdout = String.join ((files.filter fun p => (alone w v input a p).failure.isNone).map
          fun p => (alone w v input a p).printed)) := by
  intro files e
  have hfound : w.Found [] files := found_files hplain _ _
  have he : e = (runDirectory w v a).exit (thresholdOf a) := by
    rw [← perform_directory hmark hdirectory houtput input]
    exact run_of_parse hparse input
  have hsorted : files.Pairwise fun p q => p.le q = true := Path.pairwise_mergeSort_le _
  rw [he]
  simp only [ne_eq, status_exit_eq_zero_iff, workspace_exit, stdout_exit]
  cases hcommon : commonSettings w v a with
  | error f =>
    -- nothing is converted, neither in the batch nor alone
    have hfails : DirectoryFails w v input a files := .inl ⟨f, hcommon⟩
    have hstatus : some f ≠ none ↔ DirectoryFails w v input a files :=
      iff_of_true (Option.some_ne_none f) hfails
    rw [runDirectory_of_error hcommon]
    refine ⟨fun _ _ => ⟨isolated_of_error hfound hw hcommon, hstatus, nofun⟩,
      fun _ => ⟨rfl, hstatus, hsorted, ?_⟩⟩
    have hnone : (files.filter fun p => (alone w v input a p).failure.isNone) = [] := by
      refine List.filter_eq_nil_iff.mpr fun p hp => ?_
      rw [(alone_of_error hfound hw hcommon hp).1]
      exact Bool.false_ne_true
    rw [hnone]
    rfl
  | ok common =>
    rw [runDirectory_of_common hcommon]
    simp only [workspace_after, printed_after, failure_after]
    constructor
    · intro hstdout hconsulted
      have hdestination : destinationOf a = .replace := by
        rw [destinationOf, hstdout, houtput]
        rfl
      obtain ⟨hisolated, hstatus, horders⟩ :=
        replaced_of_common input hw hfound hcommon hplain hdestination hconsulted
      refine ⟨hisolated, hstatus, fun common' hcommon' order horder => ?_⟩
      obtain rfl := Except.ok.inj hcommon'
      obtain ⟨hworkspace, hfailure, hfailures⟩ := horders order horder
      refine ⟨hworkspace, status_exit_congr ?_ _, hfailures⟩
      rw [failure_after]
      exact hfailure
    · intro hstdout
      have hdestination : destinationOf a = .print := by
        rw [destinationOf, hstdout]
        rfl
      obtain ⟨hworkspace, hstatus, hprinted⟩ :=
        printed_of_common input hw hfound hcommon hdestination
      exact ⟨hworkspace, hstatus, hsorted, hprinted⟩

/-- A directory with settings of its own, a source that can be converted and one that is too
    short. -/
def unevenFolder : Workspace where
  root := .directory
    [("src", .directory
        [("code2md.toml", .file (.ofText "fence_info = \"c\"\n") 0o644),
          ("long.c", .file (.ofText "/*\nTitle\n*/\nint x;\n") 0o600),
          ("short.c", .file (.ofText "int y;\n") 0o644)])]
  here := []

/-- The short source makes the run fail, but does not keep the long one from being converted, in
    whichever order they come. -/
theorem batch_order_irrelevant_of_failure :
    let w := unevenFolder
    let a : Arguments := { input := ⟨"src"⟩ }
    let long : Path := ⟨"src/long.c"⟩
    let short : Path := ⟨"src/short.c"⟩
    let e := run w {} .empty ["src"]
    (w.Grounded ∧ w.root.Plain ∧ CommandLine.parse ["src"] = .ok a ∧
      w.isDirectory a.input = true ∧ (selectionOf a).files w a.input = [long, short] ∧
      ∀ p ∈ [long, short], ConsultsNone w {} a p fun l => ∃ q ∈ [long, short], w.locate q = .ok l) ∧
    e.status ≠ 0 ∧ e.workspace.read short = w.read short ∧
      e.workspace.read long = .ok (.ofText "### Title\n\n```c\nint x;\n```\n\n", 0o600) ∧
      (runFiles w {} a none [short, long]).workspace = e.workspace := by
  intro w a long short e
  have hw : w.Grounded := by decide +kernel
  have hplain : w.root.Plain := by
    refine .directory (by decide +kernel) (by decide +kernel) fun e he => ?_
    obtain rfl := List.mem_singleton.mp he
    refine .directory (by decide +kernel) (by decide +kernel) fun e he => ?_
    simp only [List.mem_cons, List.not_mem_nil, or_false] at he
    obtain rfl | rfl | rfl := he <;> exact .file _ _
  have hparse : CommandLine.parse ["src"] = .ok a := by decide +kernel
  have hdirectory : w.isDirectory a.input = true := by decide +kernel
  have hfiles : (selectionOf a).files w a.input = [long, short] := by
    have hbelow : (w.filesBelow (selectionOf a).depth a.input).filter ((selectionOf a).selects w) =
        [long, short] := by decide +kernel
    rw [Selection.files, hbelow]
    exact List.mergeSort_of_pairwise (by decide +kernel)
  have hconsulted (p : Path) (hp : p ∈ [long, short]) :
      ConsultsNone w {} a p fun l => ∃ q ∈ [long, short], w.locate q = .ok l := by
    have hone : ∀ p ∈ [long, short], consulted w {} a p = [⟨"src/code2md.toml"⟩] := by
      decide +kernel
    intro q hq l hl
    rw [hone p hp, List.mem_singleton] at hq
    subst hq
    have h : ∀ r ∈ [long, short], w.locate r ≠ w.locate ⟨"src/code2md.toml"⟩ := by decide +kernel
    rintro ⟨r, hr, hlocate⟩
    exact h r hr (hlocate.trans hl.symm)
  have hmain := batch_order_irrelevant hw hplain {} .empty hparse (by decide) hdirectory rfl
  dsimp only at hmain
  rw [hfiles] at hmain
  obtain ⟨hisolated, hstatus, horders⟩ := hmain.1 rfl hconsulted
  have hfails : (alone w {} .empty a short).failure.isSome = true := by decide +kernel
  have hshort : short ∈ [long, short] := by decide
  refine ⟨⟨hw, hplain, hparse, hdirectory, hfiles, hconsulted⟩, ?_, ?_, ?_, ?_⟩
  · exact hstatus.mpr (.inr ⟨short, hshort, hfails⟩)
  · exact hisolated.kept short hshort hfails
  · rw [hisolated.read_eq long (by decide)]
    decide +kernel
  · exact (horders none rfl [short, long] (List.Perm.swap ..)).1

end SourceWeaver.Session
