/-
  Runs in a revision.

  A run on a file reads the file and the settings files that count for it, and changes nothing but
  the file.  So in a revision of a workspace that leaves all these alone it does what it does in the
  workspace itself (`runFile_revision`).
-/

import SourceWeaver.Proofs.Files.Plain
import SourceWeaver.Proofs.Files.Revision
import SourceWeaver.Proofs.Session.Delivery

namespace SourceWeaver

open Files

/-! ## Settings in a revision -/

namespace Discovery

variable {w z : Workspace} {changed : Location → Prop} {ps : List Path} {p : Path}

theorem files_revision (h : w.Revises z changed) (v : HomeVariables) (start : Path) :
    files z v start = files w v start := by
  have hadd : addFile z = addFile w := by
    funext found p
    rw [addFile, addFile, h.isFile_eq]
  have hstart : startDirectory? z start = startDirectory? w start := by
    rw [startDirectory?, startDirectory?, h.isFile_eq, h.isDirectory_eq, h.herePath_eq]
  rw [files, files, homeFile?, homeFile?, candidates, candidates, hadd, hstart, h.isFile_eq]

theorem layer_congr (h : z.readText p = w.readText p) : layer z p = layer w p := by
  rw [layer, layer, h]

theorem merged_congr (h : ∀ p ∈ ps, z.readText p = w.readText p) : merged z ps = merged w ps := by
  have hfold (s : Settings) : ps.foldl (applyFile z) s = ps.foldl (applyFile w) s := by
    induction ps generalizing s with
    | nil => rfl
    | cons p rest ih =>
      have hp : applyFile z s p = applyFile w s p := by
        rw [applyFile, applyFile, layer_congr (h p (List.mem_cons_self ..))]
      rw [List.foldl_cons, List.foldl_cons, hp, ih fun q hq => h q (List.mem_cons_of_mem _ hq)]
  exact hfold {}

theorem warnings_congr (h : ∀ p ∈ ps, z.readText p = w.readText p) :
    warnings z ps = warnings w ps :=
  List.filterMap_congr fun p hp => by rw [layer_congr (h p hp)]

end Discovery

namespace Session

open CommandLine (Arguments)
open Workspace

variable {w z : Workspace} {changed : Location → Prop} {v : HomeVariables} {a : Arguments}
  {p : Path} {l : Location}

/-- The settings files that count for a file. -/
def consulted (w : Workspace) (v : HomeVariables) (a : Arguments) (p : Path) : List Path :=
  match a.config with
  | some c => [c]
  | none => Discovery.files w v p

/-- Whether none of the settings files that count for a file are at some locations. -/
def ConsultsNone (w : Workspace) (v : HomeVariables) (a : Arguments) (p : Path)
    (changed : Location → Prop) : Prop :=
  ∀ q ∈ consulted w v a p, ∀ l, w.locate q = .ok l → ¬changed l

theorem ConsultsNone.mono {other : Location → Prop} (h : ConsultsNone w v a p changed)
    (hother : ∀ l, other l → changed l) : ConsultsNone w v a p other :=
  fun q hq l hl hl' => h q hq l hl (hother l hl')

section Settings

variable (h : w.Revises z changed) (hconsulted : ConsultsNone w v a p changed)

include h hconsulted

theorem readText_consulted {q : Path} (hq : q ∈ consulted w v a p) : z.readText q = w.readText q :=
  h.readText_eq (hconsulted q hq)

theorem fileSettings_revision : fileSettings z v a (some p) = fileSettings w v a (some p) := by
  have hread := fun q => readText_consulted h hconsulted (q := q)
  -- the settings read only the files that are consulted, and none of them was changed
  unfold fileSettings
  unfold consulted at hread
  cases hconfig : a.config with
  | some c =>
    rw [hconfig] at hread
    simp only [Discovery.ofFile, Discovery.layer_congr (hread c (List.mem_singleton_self c))]
  | none =>
    rw [hconfig] at hread
    simp only [searchStart, Option.getD_some, Discovery.settings, Discovery.files_revision h,
      Discovery.merged_congr hread]

theorem settingsFor_revision : settingsFor z v a (some p) = settingsFor w v a (some p) := by
  rw [settingsFor, settingsFor, fileSettings_revision h hconsulted]

theorem settingsLog_revision : settingsLog z v a (some p) = settingsLog w v a (some p) := by
  have hread := fun q => readText_consulted h hconsulted (q := q)
  unfold consulted at hread
  -- the log of the search names the same files and gives the same warnings
  have hsearch : searchLog z v a (some p) = searchLog w v a (some p) := by
    unfold searchLog
    cases hconfig : a.config with
    | some c => rfl
    | none =>
      rw [hconfig] at hread
      have hwarnings := Discovery.warnings_congr hread
      dsimp only [searchStart, Option.getD_some]
      rw [Discovery.files_revision h, hwarnings]
  rw [settingsLog, settingsLog, hsearch, fileSettings_revision h hconsulted]

end Settings

/-! ## One file in a revision -/

/-- An outcome with what it makes of one file carried over to another workspace. -/
def Outcome.carried (o : Outcome) (z : Workspace) (l : Location) : Outcome :=
  { o with workspace := z.adopt l o.workspace }

theorem carried_after (o : Outcome) (log : List Entry) (z : Workspace) (l : Location) :
    (o.after log).carried z l = (o.carried z l).after log :=
  rfl

theorem convertSource_carried {handOn handOn' : String → Outcome} (hsame : z.adopt l w = z)
    (h : ∀ markdown, handOn' markdown = (handOn markdown).carried z l) (cfg : Settings)
    (name : String) (ls : Option (List String)) :
    convertSource z cfg name ls handOn' = (convertSource w cfg name ls handOn).carried z l := by
  rw [convertSource, convertSource, carried_after]
  cases convertLines cfg ls with
  | error e =>
    dsimp only
    rw [Outcome.carried, hsame]
  | ok document =>
    dsimp only
    rw [h]

section File

variable (hw : w.Grounded) (hplain : w.root.Plain) (h : w.Revises z changed)
  (hlocate : w.locate p = .ok l) (hfile : w.root.sign l = .file) (hl : ¬changed l)

include h hfile hl in
theorem adopt_revision : z.adopt l w = z :=
  adopt_of_faceAt?_eq ((h.sign_eq l).trans hfile) (h.faceAt?_eq l hl).symm

include hw hplain h hlocate hfile hl

theorem deliver_revision (mode : Nat) (markdown : String) :
    deliver z .replace p mode markdown = (deliver w .replace p mode markdown).carried z l := by
  have hz : z.Grounded := by rw [Grounded, h.here_eq, h.sign_eq, hw]
  obtain ⟨before, directory, name, hway⟩ := exists_way hw hlocate hfile
  obtain ⟨before', directory', name', hway'⟩ :=
    exists_way hz ((h.locate_eq p).trans hlocate) ((h.sign_eq l).trans hfile)
  -- without links the entry that is replaced is the file that was read
  have hentry : l = directory ++ [name] := hway.eq_concat hplain.sign_ne_link
  have hentry' : l = directory' ++ [name'] := hway'.eq_concat fun m target => by
    rw [h.sign_eq]
    exact hplain.sign_ne_link m target
  rw [deliver_replace hway, deliver_replace hway', h.temporaryPath_eq, ← hentry, ← hentry']
  split
  · rw [Outcome.carried, adopt_revision h hfile hl]
  · rw [Outcome.carried, adopt_withFile ((h.sign_eq l).trans hfile)]

theorem convertFile_revision (cfg : Settings) :
    convertFile z .replace cfg p = (convertFile w .replace cfg p).carried z l := by
  -- the file itself is outside of what was changed, so the run reads the same bytes
  have hread : z.read p = w.read p := h.read_eq fun m hm => by
    obtain rfl := Except.ok.inj (hlocate.symm.trans hm)
    exact hl
  have hsame := adopt_revision h hfile hl
  unfold convertFile
  rw [hread]
  cases w.read p with
  | error e => rw [Outcome.carried, hsame]
  | ok found =>
    dsimp only
    split
    · rw [Outcome.carried, hsame]
    · have hdeliver := deliver_revision hw hplain h hlocate hfile hl found.2
      rw [carried_after, convertSource_carried hsame hdeliver]

/-- A run on a file does in a revision that leaves the file and its settings files alone what it
    does by itself. -/
theorem runFile_revision (hdestination : destinationOf a = .replace)
    (hconsulted : ConsultsNone w v a p changed) (common : Option Settings) :
    runFile z v a common p = (runFile w v a common p).carried z l := by
  unfold runFile
  rw [hdestination]
  cases common with
  | some cfg => exact convertFile_revision hw hplain h hlocate hfile hl cfg
  | none =>
    dsimp only
    rw [settingsFor_revision h hconsulted, settingsLog_revision h hconsulted]
    cases settingsFor w v a (some p) with
    | error f =>
      dsimp only
      rw [Outcome.carried, adopt_revision h hfile hl]
    | ok cfg =>
      dsimp only
      rw [convertFile_revision hw hplain h hlocate hfile hl, carried_after]

end File

end Session

end SourceWeaver
