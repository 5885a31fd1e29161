/-
  Notes, settings and deliveries of runs, case by case.

  The last note on a source tells the size of the document that comes out (`getLast?_notes`).
  Where a destination can be reached, delivering comes down to putting a file at one location
  (`deliver_write_of_locate`, `deliver_replace`); where it cannot, the workspace stays as it is.
-/

import SourceWeaver.Proofs.Files.Writing
import SourceWeaver.Session.Run

namespace SourceWeaver.Session

open CommandLine (Arguments)
open Files Workspace

variable {w : Workspace} {v : HomeVariables} {a : Arguments} {p target c : Path} {mode : Nat}
  {markdown : String}

/-! ## Outcomes -/

section After

variable (o : Outcome) (log : List Entry)

@[simp]
theorem workspace_after : (o.after log).workspace = o.workspace := rfl

@[simp]
theorem printed_after : (o.after log).printed = o.printed := rfl

@[simp]
theorem failure_after : (o.after log).failure = o.failure := rfl

theorem after_after (more : List Entry) : (o.after log).after more = o.after (more ++ log) := by
  rw [Outcome.after, Outcome.after, Outcome.after, List.append_assoc]

end After

theorem run_of_parse {arguments : List String} (hparse : CommandLine.parse arguments = .ok a)
    (input : ByteArray) :
    run w v input arguments = (perform w v input a).exit (thresholdOf a) := by
  rw [run, hparse]

/-! ## Notes -/

/-- The last note on a source that is converted tells the size of the source and of its document. -/
theorem getLast?_notes {cfg : Settings} {ls : List String} {document : Document}
    (h : convert cfg ls = .ok document) (name : String) :
    (notes cfg name ls).getLast? =
      some (name ++ ": " ++ toString ls.length ++ " source lines -> " ++ toString document.size
        ++ " markdown lines") := by
  cases hprimed : primeHeader cfg ls with
  | error e =>
    -- a source that is too short has no document
    rw [convert, hprimed] at h
    cases h
  | ok primed =>
    obtain ⟨opening, primed⟩ := primed
    rw [convert_of_primed hprimed] at h
    cases h
    rw [notes, hprimed]
    dsimp only
    rw [List.getLast?_concat, Document.size, List.length_map]

/-! ## Settings from one file -/

/-- Settings from one file do not depend on what is converted with them. -/
theorem settingsFor_of_config (hconfig : a.config = some c) (file : Option Path) :
    settingsFor w v a file =
      match Discovery.ofFile w c with
      | .error fault => .error ⟨"failed to load config " ++ c.text, some fault.message⟩
      | .ok base => checked (a.adjust base) := by
  rw [settingsFor, fileSettings, hconfig]
  dsimp only
  cases Discovery.ofFile w c with
  | error fault => rfl
  | ok base => rfl

/-! ## Destinations -/

theorem deliver_write_of_locate {l : Location} (h : w.locateForWriting target = .ok l) :
    deliver w (.write target) p mode markdown =
      { workspace := w.withFile l (.ofText markdown) (w.modeAt l) } := by
  unfold deliver
  dsimp only
  rw [write_of_locate h]

theorem deliver_write_of_error {e : FileError} (h : w.locateForWriting target = .error e) :
    deliver w (.write target) p mode markdown =
      { workspace := w
        failure := some ⟨"failed to write " ++ target.text, some e.message⟩ } := by
  have hwrite : w.write target (.ofText markdown) = .error e := by rw [write, h]
  unfold deliver
  dsimp only
  rw [hwrite]

/-- The failure where the path of a temporary file would be too long. -/
def placeFailure (p : Path) : Failure :=
  ⟨"failed to create a temporary file in " ++ (directoryOf p).text,
    some FileError.nameTooLong.message⟩

theorem deliver_replace {l directory : Location} {before : List String} {name : String}
    (h : w.Way p l before directory name) :
    deliver w .replace p mode markdown =
      if maxPathSize < (w.temporaryPath p).text.utf8ByteSize then
        { workspace := w, failure := some (placeFailure p) }
      else { workspace := w.withFile (directory ++ [name]) (.ofText markdown) mode } := by
  unfold deliver
  dsimp only
  rw [h.replace_eq]
  by_cases hlong : maxPathSize < (w.temporaryPath p).text.utf8ByteSize
  · rw [if_pos hlong, if_pos hlong]
    rfl
  · rw [if_neg hlong, if_neg hlong]

end SourceWeaver.Session
