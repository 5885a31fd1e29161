/-
  What a run on a single source can change.

  Everything that fails does so before the first write, so a failure leaves the files as they are
  and prints nothing; a success changes one file at most, and which one only the destination
  decides.  `Outcome.Confined` says both, and each stage hands it on to the next.  The main result
  is `run_confined`.
-/

import SourceWeaver.Proofs.Session.Delivery

namespace SourceWeaver.Session

open CommandLine (Arguments)
open Files Workspace

/-- Whether a failure leaves all as it is, and a success changes at most one file: at a location,
    and to a mode, that are allowed. -/
structure Outcome.Confined (w : Workspace) (allowed : Location → Nat → Prop) (o : Outcome) :
    Prop where
  of_failure : o.failure ≠ none → o.workspace = w ∧ o.printed = ""
  of_success : o.failure = none → o.workspace = w ∨
    ∃ l content mode, allowed l mode ∧ SameBut w o.workspace l ∧
      o.workspace.root.faceAt? l = some (.file content mode)

/-- The location and mode of the file that goes to a destination: none if it is printed, any mode
    where the file to write is, and the mode of the source at the entry of its path. -/
def Destination.Allows (w : Workspace) (p : Path) : Destination → Location → Nat → Prop
  | print, _, _ => False
  | write target, l, _ => w.locateForWriting target = .ok l
  | replace, l, mode => w.entryOf? p = some l ∧ ∃ content, w.read p = .ok (content, mode)

variable {w : Workspace} {v : HomeVariables} {a : Arguments} {o : Outcome} {p : Path}
  {allowed : Location → Nat → Prop} {cfg : Settings}

/-! ## Outcomes -/

theorem Outcome.Confined.after (h : o.Confined w allowed) (log : List Entry) :
    (o.after log).Confined w allowed :=
  ⟨h.of_failure, h.of_success⟩

theorem confined_failure (f : Failure) (log : List Entry) :
    Outcome.Confined w allowed { workspace := w, log, failure := some f } :=
  ⟨fun _ => ⟨rfl, rfl⟩, nofun⟩

theorem confined_printed (printed : String) (log : List Entry) :
    Outcome.Confined w allowed { workspace := w, printed, log } :=
  ⟨fun h => absurd rfl h, fun _ => .inl rfl⟩

theorem confined_change {z : Workspace} {l : Location} {content : Content} {mode : Nat}
    (hallowed : allowed l mode) (hsame : SameBut w z l)
    (hfile : z.root.faceAt? l = some (.file content mode)) :
    Outcome.Confined w allowed { workspace := z } :=
  ⟨fun h => absurd rfl h, fun _ => .inr ⟨l, content, mode, hallowed, hsame, hfile⟩⟩

/-! ## One source -/

theorem deliver_confined (hw : w.Grounded) {content : Content} {mode : Nat}
    (hread : w.read p = .ok (content, mode)) (d : Destination) (markdown : String) :
    (deliver w d p mode markdown).Confined w (d.Allows w p) := by
  cases d with
  | print => exact confined_printed markdown []
  | write target =>
    cases hlocate : w.locateForWriting target with
    | error e =>
      rw [deliver_write_of_error hlocate]
      exact confined_failure _ _
    | ok l =>
      rw [deliver_write_of_locate hlocate]
      exact confined_change hlocate (sameBut_write hw hlocate _) (faceAt?_withFile ..)
  | replace =>
    obtain ⟨l, hlocate, hfile⟩ := read_eq_ok_iff.mp hread
    -- the file was read, so there is a way to its entry, and this is what is replaced
    obtain ⟨before, directory, name, hway⟩ :=
      exists_way hw hlocate (Node.sign_eq_file_iff.mpr ⟨content, mode, hfile⟩)
    rw [deliver_replace hway]
    split
    · exact confined_failure _ _
    · exact confined_change ⟨hway.entryOf?_eq, content, hread⟩ (hway.sameBut_replace _ _)
        (faceAt?_withFile ..)

theorem convertSource_confined {handOn : String → Outcome}
    (h : ∀ markdown, (handOn markdown).Confined w allowed) (cfg : Settings) (name : String)
    (ls : Option (List String)) : (convertSource w cfg name ls handOn).Confined w allowed := by
  unfold convertSource
  cases convertLines cfg ls with
  | error e => exact (confined_failure _ _).after _
  | ok document => exact (h document.markdown).after _

theorem convertFile_confined (hw : w.Grounded) (d : Destination) (cfg : Settings) (p : Path) :
    (convertFile w d cfg p).Confined w (d.Allows w p) := by
  unfold convertFile
  cases hread : w.read p with
  | error e => exact confined_failure _ _
  | ok found =>
    dsimp only
    split
    · exact confined_printed _ _
    · exact (convertSource_confined (deliver_confined hw hread d) _ _ _).after _

theorem runFile_confined (hw : w.Grounded) (v : HomeVariables) (a : Arguments)
    (common : Option Settings) (p : Path) :
    (runFile w v a common p).Confined w ((destinationOf a).Allows w p) := by
  unfold runFile
  cases common with
  | some cfg => exact convertFile_confined hw _ cfg p
  | none =>
    cases settingsFor w v a (some p) with
    | error f => exact confined_failure f _
    | ok cfg => exact (convertFile_confined hw _ cfg p).after _

theorem runInput_confined (w : Workspace) (v : HomeVariables) (a : Arguments) (input : ByteArray)
    (allowed : Location → Nat → Prop) : (runInput w v a input).Confined w allowed := by
  unfold runInput
  cases settingsFor w v a none with
  | error f => exact confined_failure f _
  | ok cfg =>
    dsimp only
    refine Outcome.Confined.after ?_ _
    unfold convertInput
    split
    · exact confined_failure _ _
    · exact convertSource_confined (fun markdown => confined_printed markdown []) _ _ _

/-! ## Runs -/

/-- A run on a file or on the standard input that fails leaves all files as they are and prints
    nothing.  A run that succeeds changes at most one file: none if it reads the standard input or
    prints, the one that the path of the output leads to, or else the one that the path of the input
    names, whose mode is that of the source. -/
theorem run_confined (hw : w.Grounded) {arguments : List String} (input : ByteArray)
    (hparse : CommandLine.parse arguments = .ok a)
    (hsingle : a.input.text = inputMark ∨ w.isDirectory a.input = false) :
    let e := run w v input arguments
    (e.status ≠ 0 → e.workspace = w ∧ e.stdout = "") ∧
      (e.status = 0 → e.workspace = w ∨
        a.input.text ≠ inputMark ∧
          ∃ l content mode, (destinationOf a).Allows w a.input l mode ∧
            SameBut w e.workspace l ∧
              e.workspace.root.faceAt? l = some (.file content mode)) := by
  have hrun : run w v input arguments = (perform w v input a).exit (thresholdOf a) :=
    run_of_parse hparse input
  -- a confined run has to be shown once for the file and once for standard input
  have hconfined : (perform w v input a).Confined w fun l mode =>
      a.input.text ≠ inputMark ∧ (destinationOf a).Allows w a.input l mode := by
    unfold perform
    by_cases hmark : a.input.text = inputMark
    · rw [if_pos hmark]
      exact runInput_confined w v a input _
    · have hdirectory : w.isDirectory a.input = false := hsingle.resolve_left hmark
      rw [if_neg hmark, hdirectory]
      split
      -- a file: what is allowed is what the destination allows
      · have hfile := runFile_confined hw v a none a.input
        exact ⟨hfile.of_failure, fun h => (hfile.of_success h).imp_right
          fun ⟨l, content, mode, hallowed, hrest⟩ => ⟨l, content, mode, ⟨hmark, hallowed⟩, hrest⟩⟩
      · exact confined_failure _ _
  simp only [hrun, status_exit_eq_zero_iff, workspace_exit, stdout_exit, ne_eq]
  refine ⟨hconfined.of_failure, fun h => (hconfined.of_success h).imp_right ?_⟩
  rintro ⟨l, content, mode, ⟨hmark, hallowed⟩, hrest⟩
  exact ⟨hmark, l, content, mode, hallowed, hrest⟩

/-- A source that is named through a link. -/
def linkedSource : Workspace where
  root := .directory
    [("notes.c", .link "lib/real.c"),
      ("lib", .directory [("real.c", .file (.ofText "/*\nTitle\n*/\nint x;\n") 0o600)])]
  here := []

/-- Where the input is a link, it is the link that gives way, and the file behind it stays. -/
theorem run_confined_of_link :
    linkedSource.Grounded ∧ CommandLine.parse ["notes.c"] = .ok { input := ⟨"notes.c"⟩ } ∧
      linkedSource.isDirectory ⟨"notes.c"⟩ = false ∧
      let e := run linkedSource {} .empty ["notes.c"]
      e.status = 0 ∧ SameBut linkedSource e.workspace ["notes.c"] := by
  have hw : linkedSource.Grounded := by decide +kernel
  have hparse : CommandLine.parse ["notes.c"] = .ok { input := ⟨"notes.c"⟩ } := by decide +kernel
  have hsingle : linkedSource.isDirectory ⟨"notes.c"⟩ = false := by decide +kernel
  have hstatus : (run linkedSource {} .empty ["notes.c"]).status = 0 := by decide +kernel
  have hchanged : (run linkedSource {} .empty ["notes.c"]).workspace.read ⟨"notes.c"⟩ ≠
      linkedSource.read ⟨"notes.c"⟩ := by decide +kernel
  have hconfined := run_confined (v := {}) hw .empty hparse (.inr hsingle)
  refine ⟨hw, hparse, hsingle, hstatus, ?_⟩
  rcases hconfined.2 hstatus with hsame | ⟨-, l, content, mode, ⟨hentry, -⟩, hsame, -⟩
  · exact absurd (congrArg (·.read ⟨"notes.c"⟩) hsame) hchanged
  · have hl : linkedSource.entryOf? ⟨"notes.c"⟩ = some ["notes.c"] := by decide +kernel
    rw [hl] at hentry
    obtain rfl := Option.some.inj hentry
    exact hsame

end SourceWeaver.Session
