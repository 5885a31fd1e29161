/-
  Workspaces in which the contents of some files have changed.

  A revision (`Revises`) shows the same files, directories and links at the same locations, so paths
  lead where they led before, and what has not changed is read as before (`Revises.read_eq`).  A
  workspace can take over one file from another (`adopt`); files are taken over in any order
  (`adopt_comm`).
-/

import SourceWeaver.Proofs.Files.Writing

namespace SourceWeaver.Files

/-- Putting a node where it is changes nothing. -/
theorem Node.put_of_at? {n m : Node} {l : Location} (h : n.at? l = some m) : n.put m l = n := by
  induction l generalizing n with
  | nil => exact (Option.some.inj h).symm
  | cons name rest ih =>
    rw [at?_cons] at h
    obtain ⟨child, hchild, hbelow⟩ := Option.bind_eq_some_iff.mp h
    rw [put_cons, hchild, Option.getD_some, ih hbelow, putEntry_of_lookup hchild,
      directory_entries_of_child? hchild]

namespace Workspace

variable {w z source other : Workspace} {p : Path} {l m : Location} {changed : Location → Prop}

/-! ## Revisions -/

/-- Whether a workspace differs from another one only in what files at some locations hold. -/
structure Revises (w z : Workspace) (changed : Location → Prop) : Prop where
  here_eq : z.here = w.here
  sign_eq : ∀ m, z.root.sign m = w.root.sign m
  faceAt?_eq : ∀ m, ¬changed m → z.root.faceAt? m = w.root.faceAt? m

theorem revises_self (w : Workspace) (changed : Location → Prop) : w.Revises w changed :=
  ⟨rfl, fun _ => rfl, fun _ _ => rfl⟩

/-- Reading looks at nothing but where the path leads and what stands there. -/
theorem read_eq (w : Workspace) (p : Path) :
    w.read p = (w.locate p).bind fun l =>
      match w.root.faceAt? l with
      | some (.file content mode) => .ok (content, mode)
      | some .directory => .error .isDirectory
      | _ => .error .notFound := by
  unfold read
  cases w.locate p with
  | error e => rfl
  | ok l =>
    dsimp only [Except.bind, Node.faceAt?]
    cases w.root.at? l with
    | none => rfl
    | some n => cases n <;> rfl

namespace Revises

variable (h : w.Revises z changed)

include h

theorem locate_eq (p : Path) : z.locate p = w.locate p := by
  rw [locate, locate, locateFor, locateFor, h.here_eq, follow_congr h.sign_eq]

theorem isFile_eq : z.isFile = w.isFile := by
  funext p
  rw [Bool.eq_iff_iff, isFile_iff, isFile_iff]
  simp only [h.locate_eq, h.sign_eq]

theorem isDirectory_eq : z.isDirectory = w.isDirectory := by
  funext p
  rw [Bool.eq_iff_iff, isDirectory_iff, isDirectory_iff]
  simp only [h.locate_eq, h.sign_eq]

theorem herePath_eq : z.herePath = w.herePath := by
  rw [herePath, herePath, h.here_eq]

theorem temporaryPath_eq (p : Path) : z.temporaryPath p = w.temporaryPath p := by
  rw [temporaryPath, temporaryPath, h.herePath_eq]

/-- What has not changed is read as before. -/
theorem read_eq (hp : ∀ l, w.locate p = .ok l → ¬changed l) : z.read p = w.read p := by
  rw [Workspace.read_eq, Workspace.read_eq, h.locate_eq]
  cases hlocate : w.locate p with
  | error e => rfl
  | ok l =>
    dsimp only [Except.bind]
    rw [h.faceAt?_eq l (hp l hlocate)]

theorem readText_eq (hp : ∀ l, w.locate p = .ok l → ¬changed l) : z.readText p = w.readText p := by
  rw [readText, readText, h.read_eq hp]

/-- Two revisions that show the same where a path leads give the same when it is read. -/
theorem read_congr {changed' : Location → Prop} (h' : w.Revises other changed')
    (hlocate : w.locate p = .ok l) (hface : z.root.faceAt? l = other.root.faceAt? l) :
    z.read p = other.read p := by
  rw [Workspace.read_eq, Workspace.read_eq, h.locate_eq, h'.locate_eq, hlocate]
  dsimp only [Except.bind]
  rw [hface]

end Revises

/-! ## Taking over files -/

/-- A workspace with one of its files as another workspace has it. -/
def adopt (z : Workspace) (l : Location) (source : Workspace) : Workspace :=
  match source.root.at? l with
  | some (.file content mode) => { z with root := z.root.rewrite l content mode }
  | _ => z

theorem here_adopt (z : Workspace) (l : Location) (source : Workspace) :
    (z.adopt l source).here = z.here := by
  unfold adopt
  split <;> rfl

theorem adopt_of_file {content : Content} {mode : Nat}
    (h : source.root.faceAt? l = some (.file content mode)) (z : Workspace) :
    z.adopt l source = { z with root := z.root.rewrite l content mode } := by
  rw [adopt, Node.faceAt?_eq_file_iff.mp h]

theorem faceAt?_adopt_of_ne (hne : m ≠ l) (z source : Workspace) :
    (z.adopt l source).root.faceAt? m = z.root.faceAt? m := by
  unfold adopt
  split
  · exact Node.faceAt?_rewrite_of_ne hne _ _
  · rfl

/-- Files at different locations are taken over in any order. -/
theorem adopt_comm (hne : l ≠ m) (z source other : Workspace) :
    (z.adopt l source).adopt m other = (z.adopt m other).adopt l source := by
  unfold adopt
  split
  · split
    · dsimp only
      rw [Node.rewrite_comm hne]
    · rfl
  · rfl

section File

variable (hz : z.root.sign l = .file)

include hz

/-- A file that has been taken over is as the other workspace has it. -/
theorem faceAt?_adopt_self (hsource : source.root.sign l = .file) :
    (z.adopt l source).root.faceAt? l = source.root.faceAt? l := by
  obtain ⟨content, mode, hface⟩ := Node.sign_eq_file_iff.mp hz
  obtain ⟨new, mode', hnew⟩ := Node.sign_eq_file_iff.mp hsource
  rw [adopt_of_file hnew, Node.rewrite_of_file hface, Node.faceAt?_put_self, hnew]
  rfl

/-- Taking over a file from a workspace that has the same file changes nothing. -/
theorem adopt_of_faceAt?_eq (h : source.root.faceAt? l = z.root.faceAt? l) :
    z.adopt l source = z := by
  obtain ⟨content, mode, hface⟩ := Node.sign_eq_file_iff.mp hz
  rw [adopt_of_file (h.trans hface), Node.rewrite_of_file hface,
    Node.put_of_at? (Node.faceAt?_eq_file_iff.mp hface)]

theorem adopt_withFile (w : Workspace) (content : Content) (mode : Nat) :
    z.adopt l (w.withFile l content mode) = z.withFile l content mode := by
  obtain ⟨old, mode', hface⟩ := Node.sign_eq_file_iff.mp hz
  rw [adopt_of_file (faceAt?_withFile w l content mode), Node.rewrite_of_file hface]
  rfl

end File

/-- A file that is taken over stays a file. -/
theorem sign_adopt (hfile : z.root.sign l = .file) (source : Workspace) (m : Location) :
    (z.adopt l source).root.sign m = z.root.sign m := by
  by_cases hml : m = l
  · subst hml
    unfold adopt
    split
    · obtain ⟨content, mode, hface⟩ := Node.sign_eq_file_iff.mp hfile
      rw [hfile, Node.rewrite_of_file hface]
      exact sign_withFile z m _ _
    · rfl
  · rw [Node.sign, Node.sign, faceAt?_adopt_of_ne hml]

/-- Taking over a file for a file is a revision. -/
theorem Revises.adopt (h : w.Revises z changed) (hfile : w.root.sign l = .file)
    (source : Workspace) : w.Revises (z.adopt l source) fun m => m = l ∨ changed m := by
  have hz : z.root.sign l = .file := (h.sign_eq l).trans hfile
  refine ⟨(here_adopt z l source).trans h.here_eq, fun m => ?_, fun m hm => ?_⟩
  · rw [sign_adopt hz, h.sign_eq]
  · rw [not_or] at hm
    rw [faceAt?_adopt_of_ne hm.1]
    exact h.faceAt?_eq m hm.2

/-! ## Taking over several files -/

section All

variable {ps qs : List Path} {place : Path → Location} {own : Path → Workspace}

/-- A workspace with the files of some paths, each as a workspace of its own has it. -/
def adoptAll (place : Path → Location) (own : Path → Workspace) (ps : List Path) (z : Workspace) :
    Workspace :=
  ps.foldl (fun z p => z.adopt (place p) (own p)) z

theorem adoptAll_cons (place : Path → Location) (own : Path → Workspace) (p : Path)
    (rest : List Path) (z : Workspace) :
    adoptAll place own (p :: rest) z = adoptAll place own rest (z.adopt (place p) (own p)) :=
  rfl

/-- Files at places of their own are taken over in any order. -/
theorem adoptAll_perm (hperm : ps.Perm qs) (hplaces : (ps.map place).Nodup) (z : Workspace) :
    adoptAll place own ps z = adoptAll place own qs z := by
  refine hperm.foldl_eq' (fun p hp q hq z => ?_) z
  by_cases hpq : p = q
  · rw [hpq]
  · have hne : place p ≠ place q := fun heq => hpq (List.inj_on_of_nodup_map hplaces hp hq heq)
    exact (adopt_comm hne z (own p) (own q)).symm ▸ rfl

theorem faceAt?_adoptAll_of_forall_ne (h : ∀ p ∈ ps, m ≠ place p) (z : Workspace) :
    (adoptAll place own ps z).root.faceAt? m = z.root.faceAt? m := by
  induction ps generalizing z with
  | nil => rfl
  | cons p rest ih =>
    rw [adoptAll_cons, ih fun q hq => h q (List.mem_cons_of_mem _ hq),
      faceAt?_adopt_of_ne (h p (List.mem_cons_self ..))]

/-- Each file is taken over as its own workspace has it. -/
theorem faceAt?_adoptAll_of_mem (hplaces : (ps.map place).Nodup)
    (hz : ∀ p ∈ ps, z.root.sign (place p) = .file)
    (hown : ∀ p ∈ ps, (own p).root.sign (place p) = .file) (hp : p ∈ ps) :
    (adoptAll place own ps z).root.faceAt? (place p) = (own p).root.faceAt? (place p) := by
  induction ps generalizing z with
  | nil => cases hp
  | cons q rest ih =>
    rw [List.map_cons, List.nodup_cons] at hplaces
    have hq := hz q (List.mem_cons_self ..)
    rw [adoptAll_cons]
    rcases List.mem_cons.mp hp with rfl | hp
    -- the files that follow lie elsewhere
    · have hothers : ∀ r ∈ rest, place p ≠ place r := fun r hr heq =>
        hplaces.1 (heq ▸ List.mem_map_of_mem hr)
      rw [faceAt?_adoptAll_of_forall_ne hothers,
        faceAt?_adopt_self hq (hown p (List.mem_cons_self ..))]
    · refine ih hplaces.2 (fun r hr => ?_) (fun r hr => hown r (List.mem_cons_of_mem _ hr)) hp
      rw [sign_adopt hq]
      exact hz r (List.mem_cons_of_mem _ hr)

theorem Revises.adoptAll (h : w.Revises z changed) (hw : ∀ p ∈ ps, w.root.sign (place p) = .file)
    (own : Path → Workspace) :
    w.Revises (adoptAll place own ps z) fun m => changed m ∨ ∃ p ∈ ps, m = place p := by
  induction ps generalizing z changed with
  | nil => exact ⟨h.here_eq, h.sign_eq, fun m hm => h.faceAt?_eq m fun hc => hm (.inl hc)⟩
  | cons p rest ih =>
    have hnext := ih (h.adopt (hw p (List.mem_cons_self ..)) (own p))
      fun q hq => hw q (List.mem_cons_of_mem _ hq)
    refine ⟨hnext.here_eq, hnext.sign_eq, fun m hm => hnext.faceAt?_eq m fun hc => hm ?_⟩
    -- a place is changed by the first file, before, or by one of the others
    rcases hc with (rfl | hc) | ⟨q, hq, rfl⟩
    · exact .inr ⟨p, List.mem_cons_self .., rfl⟩
    · exact .inl hc
    · exact .inr ⟨q, List.mem_cons_of_mem _ hq, rfl⟩

end All

end Workspace

end SourceWeaver.Files
