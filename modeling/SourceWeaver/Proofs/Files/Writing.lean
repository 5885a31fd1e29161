/-
  Reading what has been written.

  Writing and replacing change the workspace in one place (`SameBut`): writing where the path leads,
  replacing at the entry that the path names (`entryOf?`), which is a link to the file if the path
  leads through one.  Either way the path leads to what was written afterwards (`read_write`,
  `Way.read_replace`).
-/

import SourceWeaver.Proofs.Files.Locating

namespace SourceWeaver.Files.Workspace

open SourceWeaver.Path

variable {w z : Workspace} {p q : Path} {l : Location} {content : Content} {mode : Nat}

/-! ## Workspaces that differ in one place -/

/-- Whether two workspaces show the same everywhere but at one location. -/
structure SameBut (w z : Workspace) (l : Location) : Prop where
  here_eq : z.here = w.here
  faceAt?_eq : ∀ m, m ≠ l → z.root.faceAt? m = w.root.faceAt? m

theorem SameBut.sign_eq (h : SameBut w z l) {m : Location} (hm : m ≠ l) :
    z.root.sign m = w.root.sign m := by
  rw [Node.sign, Node.sign, h.faceAt?_eq m hm]

/-- The workspace with a file at a location. -/
def withFile (w : Workspace) (l : Location) (content : Content) (mode : Nat) : Workspace :=
  { w with root := w.root.put (.file content mode) l }

theorem faceAt?_withFile (w : Workspace) (l : Location) (content : Content) (mode : Nat) :
    (w.withFile l content mode).root.faceAt? l = some (.file content mode) :=
  Node.faceAt?_put_self _ _ _

theorem sign_withFile (w : Workspace) (l : Location) (content : Content) (mode : Nat) :
    (w.withFile l content mode).root.sign l = .file :=
  Node.sign_eq_file_iff.mpr ⟨content, mode, faceAt?_withFile w l content mode⟩

/-- A file that comes to stand in a directory, and over no directory, changes nothing else. -/
theorem sameBut_withFile {directory : Location} {name : String}
    (hd : w.root.sign directory = .directory) (hne : w.root.sign (directory ++ [name]) ≠ .directory)
    (content : Content) (mode : Nat) :
    SameBut w (w.withFile (directory ++ [name]) content mode) (directory ++ [name]) := by
  have htakes : w.root.Takes (directory ++ [name]) :=
    Node.takes_of_directory (Node.sign_eq_directory_iff.mp hd)
      (mt Node.sign_eq_directory_iff.mpr hne)
  exact ⟨rfl, fun m hm => Node.faceAt?_put_of_ne htakes (by simp [Node.face]) hm⟩

/-! ## Writing -/

theorem locateForWriting_eq_ok_iff :
    w.locateForWriting p = .ok l ↔ w.locateFor true p = .ok l ∧ w.root.sign l ≠ .directory := by
  unfold locateForWriting Node.sign Node.faceAt?
  cases w.locateFor true p with
  | error e => simp
  | ok m =>
    -- the location is the one that the path leads to, and the node there decides
    by_cases hm : m = l
    · subst hm
      cases hnode : w.root.at? m with
      | none => simp [hnode, Face.sign]
      | some node => cases node <;> simp [hnode, Face.sign, Node.face]
    · have hne : (Except.ok m : Except FileError Location) ≠ .ok l := fun h =>
        hm (Except.ok.inj h)
      simp only [hne, false_and, iff_false]
      cases w.root.at? m with
      | none => exact hne
      | some node => cases node <;> simp [hm]

/-- The mode that a file at a location has after it has been written. -/
def modeAt (w : Workspace) (l : Location) : Nat :=
  match w.root.at? l with
  | some (.file _ mode) => mode
  | _ => newFileMode

theorem write_of_locate (h : w.locateForWriting p = .ok l) (content : Content) :
    w.write p content = .ok (w.withFile l content (w.modeAt l)) := by
  rw [write, h]
  rfl

/-- Where a file is written, there is no directory and no link, but there is a directory above. -/
theorem exists_directory_of_locateForWriting (hw : w.Grounded)
    (h : w.locateForWriting p = .ok l) :
    ∃ directory name, l = directory ++ [name] ∧ w.root.sign directory = .directory := by
  obtain ⟨hlocate, hne⟩ := locateForWriting_eq_ok_iff.mp h
  obtain ⟨-, hleads⟩ := locateFor_eq_ok_iff.mp hlocate
  exact hleads.exists_directory (sign_startOf hw _) hne

/-- Writing changes the workspace where the path leads. -/
theorem sameBut_write (hw : w.Grounded) (h : w.locateForWriting p = .ok l) (content : Content) :
    SameBut w (w.withFile l content (w.modeAt l)) l := by
  obtain ⟨directory, name, rfl, hd⟩ := exists_directory_of_locateForWriting hw h
  exact sameBut_withFile hd (locateForWriting_eq_ok_iff.mp h).2 _ _

/-- What has been written is read. -/
theorem read_write (hw : w.Grounded) (h : w.locateForWriting p = .ok l) (content : Content) :
    (w.withFile l content (w.modeAt l)).read p = .ok (content, w.modeAt l) := by
  have hsame := sameBut_write hw h content
  obtain ⟨hlocate, hne⟩ := locateForWriting_eq_ok_iff.mp h
  obtain ⟨husable, hleads⟩ := locateFor_eq_ok_iff.mp hlocate
  have hstart := sign_startOf hw p.text
  have hback := hleads.of_written hstart hne (hleads.sign_ne_link hstart)
    (fun m hm => hsame.sign_eq hm) (sign_withFile w l content _)
  exact read_eq_ok_iff.mpr
    ⟨l, locate_eq_ok_iff.mpr ⟨husable, hback⟩, faceAt?_withFile w l content _⟩

/-! ## Replacing -/

/-- The entry of a directory that a path names, whatever stands there. -/
def entryOf? (w : Workspace) (p : Path) : Option Location := do
  let directory ← (w.locate (directoryOf p)).toOption
  let name ← p.fileName?
  return directory ++ [name]

namespace Way

variable {before : List String} {directory : Location} {name : String}

theorem entryOf?_eq (h : w.Way p l before directory name) :
    w.entryOf? p = some (directory ++ [name]) := by
  rw [entryOf?, h.locate_directoryOf, h.fileName?_eq]
  rfl

theorem sign_ne_directory (h : w.Way p l before directory name) :
    w.root.sign (directory ++ [name]) ≠ .directory := by
  rcases h.presents with ⟨hfile, -⟩ | ⟨target, k, hlink, -⟩
  · rw [hfile]
    exact Sign.noConfusion
  · rw [hlink]
    exact Sign.noConfusion

/-- Replacing fails only where the path of the temporary file is too long. -/
theorem replace_eq (h : w.Way p l before directory name) (content : Content) (mode : Nat) :
    w.replace p content mode =
      if maxPathSize < (w.temporaryPath p).text.utf8ByteSize then .error .nameTooLong
      else .ok (w.withFile (directory ++ [name]) content mode) := by
  obtain ⟨es, hes⟩ := Node.faceAt?_eq_directory_iff.mp
    (Node.sign_eq_directory_iff.mp h.isDirectory)
  -- making the file under a temporary name and moving it comes to putting it in place
  have hput := placeFile_eq_put hes name content mode
  have hne : ∀ es, w.root.at? (directory ++ [name]) ≠ some (.directory es) := fun es hes =>
    h.sign_ne_directory (Node.sign_eq_directory_iff.mpr (Node.faceAt?_eq_directory_iff.mpr
      ⟨es, hes⟩))
  rw [replace]
  split
  · rfl
  · rw [h.locate_directoryOf]
    simp only [hes, h.fileName?_eq, hput]
    rfl

/-- Replacing changes the workspace at the entry that the path names. -/
theorem sameBut_replace (h : w.Way p l before directory name) (content : Content) (mode : Nat) :
    SameBut w (w.withFile (directory ++ [name]) content mode) (directory ++ [name]) :=
  sameBut_withFile h.isDirectory h.sign_ne_directory content mode

/-- What has been put in the place of a file is read. -/
theorem read_replace (hw : w.Grounded) (h : w.Way p l before directory name)
    (hlocate : w.locate p = .ok l) (hl : w.root.sign l = .file) (content : Content) (mode : Nat) :
    (w.withFile (directory ++ [name]) content mode).read p = .ok (content, mode) := by
  have hsame := h.sameBut_replace content mode
  obtain ⟨husable, -⟩ := locate_eq_ok_iff.mp hlocate
  -- a link that gives way to the file led to a file itself
  have hlinks : ∀ target, w.root.sign (directory ++ [name]) = .link target →
      ∃ k m, Leads w.root false k (startOf target (directory ++ [name]).dropLast) (hops target) m ∧
        w.root.sign m = .file := by
    intro target htarget
    rcases h.presents with ⟨hfile, -⟩ | ⟨other, k, hlink, hleads⟩
    · rw [hfile] at htarget
      cases htarget
    · rw [hlink] at htarget
      obtain rfl := Sign.link.inj htarget
      rw [List.dropLast_concat]
      exact ⟨k, l, hleads, hl⟩
  have hbefore := h.leads.of_replaced (sign_startOf hw p.text) h.isDirectory
    (fun m hm => hsame.sign_eq hm) h.sign_ne_directory hlinks
  -- the directory is as it was, and the new file is the last hop of the way
  have hdirectory : (w.withFile (directory ++ [name]) content mode).root.sign directory =
      .directory := (hsame.sign_eq (by simp)).trans h.isDirectory
  have hway := hbefore.concat_file hdirectory h.looksUp (sign_withFile w _ content mode)
  rw [← h.hops_eq] at hway
  exact read_eq_ok_iff.mpr
    ⟨_, locate_eq_ok_iff.mpr ⟨husable, hway⟩, faceAt?_withFile w _ content mode⟩

end Way

end SourceWeaver.Files.Workspace
