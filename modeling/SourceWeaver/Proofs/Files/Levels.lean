/-
  What stands below a directory.

  The entries of a directory are listed by their paths (`listing`), and listing what has been listed,
  through links and directories alike, gives the paths on each level below (`level`).

  The path of an entry leads through the directory to the entry, unless that is a link
  (`locate_join`).  So a search goes into what is listed and finds the files on the levels below
  (`mem_filesBelow_iff`), if no path comes back to a directory that it has gone through (`Acyclic`),
  and finds each of them once (`nodup_components_filesBelow`).  A search of one level is a listing
  (`filesBelow_one`).
-/

import SourceWeaver.Files.Walk
import SourceWeaver.Proofs.Files.Spelling

namespace SourceWeaver.Files

open SourceWeaver.Path

namespace Workspace

variable {w : Workspace} {p q r : Path} {l m : Location} {name : String} {j k depth : Nat}
  {above : List Location}

/-! ## Levels -/

/-- The paths of the entries of a directory; other paths have none. -/
def listing (w : Workspace) (p : Path) : List Path :=
  match w.locate p with
  | .ok l => (w.namesAt l).map p.join
  | .error _ => []

/-- The paths a number of levels below a path, through directories and links to directories. -/
def level (w : Workspace) : Nat → Path → List Path
  | 0, p => [p]
  | k + 1, p => (w.listing p).flatMap (w.level k)

/-- Whether no path below a path comes back to a directory that it has gone through. -/
def Acyclic (w : Workspace) (p : Path) : Prop :=
  ∀ j k q r, q ∈ w.level j p → r ∈ w.level (k + 1) q → w.isDirectory r = true →
    w.locate r ≠ w.locate q

theorem mem_listing_iff :
    q ∈ w.listing p ↔ ∃ l name, w.locate p = .ok l ∧ name ∈ w.namesAt l ∧ q = p.join name := by
  unfold listing
  cases w.locate p with
  | error e => simp
  | ok l =>
    simp only [List.mem_map, Except.ok.injEq, exists_and_left, exists_eq_left', eq_comm]

theorem mem_level_succ_iff : q ∈ w.level (k + 1) p ↔ ∃ r ∈ w.listing p, q ∈ w.level k r :=
  List.mem_flatMap

theorem level_one (w : Workspace) (p : Path) : w.level 1 p = w.listing p :=
  List.flatMap_singleton' _

theorem level_add (w : Workspace) (j k : Nat) (p : Path) :
    w.level (j + k) p = (w.level j p).flatMap (w.level k) := by
  induction j generalizing p with
  | zero => rw [Nat.zero_add, level, List.flatMap_singleton]
  | succ j ih =>
    rw [Nat.add_right_comm, level, level, List.flatMap_assoc]
    exact List.flatMap_congr fun q _ => ih q

/-- Below an empty level there is nothing. -/
theorem lt_of_mem_level (hempty : w.level j p = []) (h : q ∈ w.level k p) : k < j := by
  by_contra hle
  obtain ⟨d, rfl⟩ := Nat.exists_eq_add_of_le (Nat.not_lt.mp hle)
  rw [level_add, hempty] at h
  cases h

theorem Acyclic.of_mem_listing (h : w.Acyclic p) (hq : q ∈ w.listing p) : w.Acyclic q :=
  fun j k r s hr hs => h (j + 1) k r s (mem_level_succ_iff.mpr ⟨q, hq, hr⟩) hs

/-- In a tree that ends, a look at each level shows whether a path comes back. -/
theorem acyclic_of_level_eq_nil (hempty : w.level depth p = [])
    (h : ∀ q ∈ (List.range depth).flatMap (w.level · p),
      ∀ r ∈ (List.range depth).flatMap (fun k => w.level (k + 1) q),
        w.isDirectory r = true → w.locate r ≠ w.locate q) : w.Acyclic p := by
  intro j k q r hq hr
  have hbelow : r ∈ w.level (j + (k + 1)) p := by
    rw [level_add]
    exact List.mem_flatMap.mpr ⟨q, hq, hr⟩
  have hlt := lt_of_mem_level hempty hbelow
  have hj : j ∈ List.range depth := List.mem_range.mpr (by omega)
  have hk : k ∈ List.range depth := List.mem_range.mpr (by omega)
  exact h q (List.mem_flatMap.mpr ⟨j, hj, hq⟩) r (List.mem_flatMap.mpr ⟨k, hk, hr⟩)

/-! ## Paths of entries -/

theorem sign_of_mem_namesAt (h : name ∈ w.namesAt l) : w.root.sign l = .directory := by
  rw [Node.sign_eq_directory_iff, Node.faceAt?]
  unfold namesAt at h
  cases hn : w.root.at? l with
  | none =>
    rw [hn] at h
    cases h
  | some n =>
    rw [hn] at h
    -- only a directory has entries
    cases n with
    | directory es => rfl
    | file content mode => cases h
    | link target => cases h

/-- The path of an entry leads through the directory that it is joined to. -/
theorem exists_directory_of_join (hw : w.Grounded) (hname : IsName name) (hne : p.text ≠ "")
    (h : w.locate (p.join name) = .ok m) :
    ∃ l k, w.locate p = .ok l ∧ w.root.sign l = .directory ∧ Leads w.root false k l [name] m := by
  obtain ⟨husable, hleads⟩ := locate_eq_ok_iff.mp h
  obtain ⟨hstart, names, staying, hhops, hjoined, hstays⟩ :=
    hops_join (w := w) hne hname.1 hname.2
  rw [hstart, hjoined] at hleads
  obtain ⟨l, k, hfront, hl, hlast⟩ :=
    hleads.of_concat (sign_startOf hw p.text) (stays_of_isName hname) (ne_up_of_isName hname)
  have husable' : Usable p.text :=
    husable.of_front (prefix_join (isAbsolute_of_isName hname) p) hne
  refine ⟨l, k, locate_eq_ok_iff.mpr ⟨husable', ?_⟩, hl, hlast⟩
  -- the hops of the directory differ from those in front of the name only in some that stay
  rw [hhops]
  exact hfront.append_stays hl hstays

/-- The path of an entry leads to the entry, unless that is a link. -/
theorem locate_join (hw : w.Grounded) (hname : IsName name) (hlocate : w.locate p = .ok l)
    (h : w.locate (p.join name) = .ok m) :
    m = l ++ [name] ∨ ∃ target, w.root.sign (l ++ [name]) = .link target := by
  -- the way to the entry goes through the directory and ends with the name
  obtain ⟨d, k, hd, -, hlast⟩ :=
    exists_directory_of_join hw hname (text_ne_empty_of_locate hlocate) h
  obtain rfl : l = d := Except.ok.inj (hlocate.symm.trans hd)
  cases hlast with
  | stay hstays _ => exact absurd ((stays_of_isName hname).symm.trans hstays) Bool.false_ne_true
  | up _ => exact absurd rfl (ne_up_of_isName hname)
  | enter _ _ h =>
    cases h
    exact .inl rfl
  | file _ _ => exact .inl rfl
  | create _ hcreating _ => cases hcreating
  | link _ hsign _ => exact .inr ⟨_, hsign⟩

/-- Every level below a path adds a component to it. -/
theorem length_components_of_mem_level (hnamed : w.root.Named) (h : q ∈ w.level k p) :
    q.components.length = p.components.length + k := by
  induction k generalizing p with
  | zero => rw [List.mem_singleton.mp h, Nat.add_zero]
  | succ k ih =>
    obtain ⟨r, hr, hq⟩ := mem_level_succ_iff.mp h
    obtain ⟨l, name, hlocate, hmem, rfl⟩ := mem_listing_iff.mp hr
    have hname := (namesAt_of_named hnamed l).1 name hmem
    rw [ih hq, hname.components_join, List.length_append, List.length_singleton]
    omega

/-! ## Entering -/

theorem enter?_eq (w : Workspace) (above : List Location) (p : Path) (l : Location) :
    w.enter? above p l =
      match w.root.sign l with
      | .directory => some l
      | .link _ =>
        match w.locate p with
        | .ok target => if w.isDirectory p && !above.contains target then some target else none
        | .error _ => none
      | _ => none := by
  unfold enter? Node.sign Node.faceAt?
  cases w.root.at? l with
  | none => rfl
  | some n => cases n <;> rfl

section Entry

variable (hw : w.Grounded) (hname : IsName name) (hlocate : w.locate p = .ok l)
  (h : w.locate (p.join name) = .ok m)

include hw hname hlocate h

/-- Files are not entered. -/
theorem enter?_of_file (hfile : w.root.sign m = .file) :
    w.enter? above (p.join name) (l ++ [name]) = none := by
  have hnot : w.isDirectory (p.join name) = false := by
    rw [Bool.eq_false_iff, ne_eq, isDirectory_iff]
    rintro ⟨m', hm', hdir⟩
    obtain rfl : m = m' := Except.ok.inj (h.symm.trans hm')
    rw [hfile] at hdir
    cases hdir
  rcases locate_join hw hname hlocate h with rfl | ⟨target, hlink⟩
  · rw [enter?_eq, hfile]
  · rw [enter?_eq, hlink, h, hnot]
    rfl

/-- Directories are entered, unless a link leads back to one. -/
theorem enter?_of_directory (hdir : w.root.sign m = .directory) (hnew : m ∉ above) :
    w.enter? above (p.join name) (l ++ [name]) = some m := by
  have hyes : w.isDirectory (p.join name) = true := isDirectory_iff.mpr ⟨m, h, hdir⟩
  rcases locate_join hw hname hlocate h with rfl | ⟨target, hlink⟩
  · rw [enter?_eq, hdir]
  · have hcontains : above.contains m = false := by simpa using hnew
    rw [enter?_eq]
    simp only [hlink, h, hyes, hcontains, Bool.not_false, Bool.and_true, if_true]

/-- What is entered is where the path leads. -/
theorem eq_of_enter? {target : Location}
    (henter : w.enter? above (p.join name) (l ++ [name]) = some target) : target = m := by
  rw [enter?_eq] at henter
  cases hsign : w.root.sign (l ++ [name]) with
  | nothing => rw [hsign] at henter; cases henter
  | file => rw [hsign] at henter; cases henter
  -- a directory is entered where it stands, and a link where its path leads
  | directory =>
    rw [hsign] at henter
    rcases locate_join hw hname hlocate h with rfl | ⟨target', hlink⟩
    · exact (Option.some.inj henter).symm
    · rw [hsign] at hlink
      cases hlink
  | link target' =>
    simp only [hsign, h] at henter
    split at henter
    · exact (Option.some.inj henter).symm
    · cases henter

end Entry

/-! ## Walks -/

theorem mem_walk_succ_iff :
    q ∈ w.walk (depth + 1) above p l ↔
      ∃ name ∈ w.namesAt l, q ∈ w.walkEntry depth above p l name :=
  List.mem_flatMap

theorem mem_walkEntry_of_enter? {target : Location}
    (h : w.enter? above (p.join name) (l ++ [name]) = some target) :
    q ∈ w.walkEntry depth above p l name ↔
      q ∈ w.walk depth (target :: above) (p.join name) target := by
  rw [walkEntry, h]

theorem mem_walkEntry_of_not_enter? (h : w.enter? above (p.join name) (l ++ [name]) = none) :
    q ∈ w.walkEntry depth above p l name ↔ q = p.join name ∧ w.isFile q = true := by
  rw [walkEntry, h]
  by_cases hfile : w.isFile (p.join name) = true
  · simp only [hfile, if_true, List.mem_singleton]
    exact ⟨fun heq => ⟨heq, heq ▸ hfile⟩, fun heq => heq.1⟩
  · simp only [hfile, Bool.false_eq_true, if_false, List.not_mem_nil, false_iff, not_and]
    rintro rfl
    exact hfile

theorem isFile_of_mem_walk (h : q ∈ w.walk depth above p l) : w.isFile q = true := by
  induction depth generalizing above p l with
  | zero => cases h
  | succ depth ih =>
    obtain ⟨name, -, hq⟩ := mem_walk_succ_iff.mp h
    cases henter : w.enter? above (p.join name) (l ++ [name]) with
    | none => exact ((mem_walkEntry_of_not_enter? henter).mp hq).2
    | some target => exact ih ((mem_walkEntry_of_enter? henter).mp hq)

section Named

variable (hw : w.Grounded) (hnamed : w.root.Named)

include hw hnamed

/-- A path leads somewhere if a walk from it finds something. -/
theorem exists_locate_of_mem_walk (hne : p.text ≠ "") (h : q ∈ w.walk depth above p l) :
    ∃ m, w.locate p = .ok m := by
  induction depth generalizing above p l with
  | zero => cases h
  | succ depth ih =>
    obtain ⟨name, hmem, hq⟩ := mem_walk_succ_iff.mp h
    have hname := (namesAt_of_named hnamed l).1 name hmem
    -- whatever has been found lies at or below some entry, and the path of that leads somewhere
    have hentry : ∃ m, w.locate (p.join name) = .ok m := by
      cases henter : w.enter? above (p.join name) (l ++ [name]) with
      | none =>
        obtain ⟨rfl, hfile⟩ := (mem_walkEntry_of_not_enter? henter).mp hq
        obtain ⟨m, hm, -⟩ := isFile_iff.mp hfile
        exact ⟨m, hm⟩
      | some target =>
        exact ih (hname.join_ne_empty p) ((mem_walkEntry_of_enter? henter).mp hq)
    obtain ⟨m, hm⟩ := hentry
    obtain ⟨d, -, hd, -⟩ := exists_directory_of_join hw hname hne hm
    exact ⟨d, hd⟩

/-- What a walk finds is on one of the levels that it goes down to. -/
theorem exists_level_of_mem_walk (hlocate : w.locate p = .ok l)
    (h : q ∈ w.walk depth above p l) : ∃ k, 0 < k ∧ k ≤ depth ∧ q ∈ w.level k p := by
  induction depth generalizing above p l with
  | zero => cases h
  | succ depth ih =>
    obtain ⟨name, hmem, hq⟩ := mem_walk_succ_iff.mp h
    have hname := (namesAt_of_named hnamed l).1 name hmem
    have hlisted : p.join name ∈ w.listing p :=
      mem_listing_iff.mpr ⟨l, name, hlocate, hmem, rfl⟩
    cases henter : w.enter? above (p.join name) (l ++ [name]) with
    -- an entry that is not entered is on the first level
    | none =>
      obtain ⟨rfl, -⟩ := (mem_walkEntry_of_not_enter? henter).mp hq
      refine ⟨1, Nat.one_pos, Nat.le_add_left 1 depth, ?_⟩
      rwa [level_one]
    | some target =>
      rw [mem_walkEntry_of_enter? henter] at hq
      -- the walk goes on at the location that the path of the entry leads to
      obtain ⟨m, hm⟩ := exists_locate_of_mem_walk hw hnamed (hname.join_ne_empty p) hq
      obtain rfl := eq_of_enter? hw hname hlocate hm henter
      obtain ⟨k, hpos, hle, hk⟩ := ih hm hq
      exact ⟨k + 1, Nat.succ_pos k, Nat.succ_le_succ hle, mem_level_succ_iff.mpr ⟨_, hlisted, hk⟩⟩

/-- A walk finds the files on the levels that it goes down to, if no directory on these levels is one
    that it has come through. -/
theorem mem_walk_of_mem_level (hacyclic : w.Acyclic p) (hlocate : w.locate p = .ok l)
    (hnew : ∀ j r m, r ∈ w.level (j + 1) p → w.locate r = .ok m → w.root.sign m = .directory →
      m ∉ above)
    (hfile : w.isFile q = true) (hle : k < depth) (hq : q ∈ w.level (k + 1) p) :
    q ∈ w.walk depth above p l := by
  induction depth generalizing above p l k with
  | zero => cases hle
  | succ depth ih =>
    obtain ⟨r, hr, hq⟩ := mem_level_succ_iff.mp hq
    obtain ⟨l', name, hlocate', hmem, rfl⟩ := mem_listing_iff.mp hr
    obtain rfl : l = l' := Except.ok.inj (hlocate.symm.trans hlocate')
    have hname := (namesAt_of_named hnamed l).1 name hmem
    refine mem_walk_succ_iff.mpr ⟨name, hmem, ?_⟩
    cases k with
    | zero =>
      -- the entry itself is the file
      obtain rfl := List.mem_singleton.mp hq
      obtain ⟨m, hm, hsign⟩ := isFile_iff.mp hfile
      have henter : w.enter? above (p.join name) (l ++ [name]) = none :=
        enter?_of_file hw hname hlocate hm hsign
      exact (mem_walkEntry_of_not_enter? henter).mpr ⟨rfl, hfile⟩
    | succ k =>
      -- the file is further down, so the entry leads to a directory, which is entered
      obtain ⟨s, hs, -⟩ := mem_level_succ_iff.mp hq
      obtain ⟨m, below, hm, hbelow, -⟩ := mem_listing_iff.mp hs
      have hdir := sign_of_mem_namesAt hbelow
      have hfirst : p.join name ∈ w.level (0 + 1) p := by rwa [level_one]
      have henter := enter?_of_directory hw hname hlocate hm hdir (hnew 0 _ m hfirst hm hdir)
      rw [mem_walkEntry_of_enter? henter]
      refine ih (hacyclic.of_mem_listing hr) hm ?_ (Nat.lt_of_succ_lt_succ hle) hq
      -- a directory further down is neither this one nor one above it
      intro j t n ht hn hsign
      rw [List.mem_cons, not_or]
      refine ⟨?_, hnew (j + 1) t n (mem_level_succ_iff.mpr ⟨_, hr, ht⟩) hn hsign⟩
      rintro rfl
      have hback := hacyclic 1 j _ t hfirst ht (isDirectory_iff.mpr ⟨n, hn, hsign⟩)
      exact hback (hn.trans hm.symm)

/-- A search of some levels finds the files on them. -/
theorem mem_filesBelow_iff (hacyclic : w.Acyclic p) :
    q ∈ w.filesBelow depth p ↔ w.isFile q = true ∧ ∃ k, 0 < k ∧ k ≤ depth ∧ q ∈ w.level k p := by
  unfold filesBelow
  constructor
  · intro h
    cases hlocate : w.locate p with
    | error e =>
      rw [hlocate] at h
      cases h
    | ok l =>
      rw [hlocate] at h
      exact ⟨isFile_of_mem_walk h, exists_level_of_mem_walk hw hnamed hlocate h⟩
  · rintro ⟨hfile, k, hpos, hle, hq⟩
    obtain ⟨k, rfl⟩ := Nat.exists_eq_add_one_of_ne_zero (Nat.pos_iff_ne_zero.mp hpos)
    obtain ⟨r, hr, -⟩ := mem_level_succ_iff.mp hq
    obtain ⟨l, name, hlocate, -, -⟩ := mem_listing_iff.mp hr
    rw [hlocate]
    refine mem_walk_of_mem_level hw hnamed hacyclic hlocate ?_ hfile hle hq
    -- at the start the only directory above is the one that is walked
    intro j r m hr hm hdir
    rw [List.mem_singleton]
    rintro rfl
    have hback := hacyclic 0 j p r (List.mem_singleton_self p) hr (isDirectory_iff.mpr ⟨m, hm, hdir⟩)
    exact hback (hm.trans hlocate.symm)

/-- A search of one level is a listing. -/
theorem filesBelow_one (p : Path) : w.filesBelow 1 p = (w.listing p).filter w.isFile := by
  unfold filesBelow listing
  cases hlocate : w.locate p with
  | error e => rfl
  | ok l =>
    show (w.namesAt l).flatMap (w.walkEntry 0 [l] p l) = ((w.namesAt l).map p.join).filter w.isFile
    rw [List.map_eq_flatMap, List.filter_flatMap]
    refine List.flatMap_congr fun name hmem => ?_
    have hname := (namesAt_of_named hnamed l).1 name hmem
    by_cases hfile : w.isFile (p.join name) = true
    · obtain ⟨m, hm, hsign⟩ := isFile_iff.mp hfile
      rw [walkEntry, enter?_of_file hw hname hlocate hm hsign, List.filter_singleton, hfile]
      rfl
    · rw [List.filter_singleton, Bool.eq_false_iff.mpr hfile, walkEntry,
        Bool.eq_false_iff.mpr hfile]
      -- what is entered is not gone through, and else there is no file
      split <;> rfl

end Named

/-- What a walk finds has the path in front, and no two paths that it finds are the same. -/
theorem nodup_components_walk (hnamed : w.root.Named) :
    (∀ q ∈ w.walk depth above p l, p.components <+: q.components) ∧
      ((w.walk depth above p l).map components).Nodup := by
  induction depth generalizing above p l with
  | zero => exact ⟨List.forall_mem_nil _, .nil⟩
  | succ depth ih =>
    obtain ⟨hnames, hdistinct⟩ := namesAt_of_named hnamed l
    -- all paths found through an entry begin with the components of the entry
    have hentry (name : String) (hmem : name ∈ w.namesAt l) :
        (∀ q ∈ w.walkEntry depth above p l name, p.components ++ [.name name] <+: q.components) ∧
          ((w.walkEntry depth above p l name).map components).Nodup := by
      have hname := hnames name hmem
      rw [← hname.components_join p, walkEntry]
      split
      · exact ih
      · split
        · exact ⟨List.forall_mem_singleton.mpr List.prefix_rfl, List.nodup_singleton _⟩
        · exact ⟨List.forall_mem_nil _, .nil⟩
    rw [walk_succ]
    refine ⟨fun q hq => ?_, ?_⟩
    · obtain ⟨name, hmem, hq⟩ := List.mem_flatMap.mp hq
      exact (List.prefix_append _ _).trans ((hentry name hmem).1 q hq)
    -- different entries begin differently, so no path is found through two of them
    · have hmarks : ((w.namesAt l).map Component.name).Nodup :=
        hdistinct.map fun a b => Component.name.inj
      exact nodup_map_flatMap hmarks (fun name hmem => (hentry name hmem).1)
        fun name hmem => (hentry name hmem).2

/-- No two paths that a search finds are the same. -/
theorem nodup_components_filesBelow (hnamed : w.root.Named) (depth : Nat) (p : Path) :
    ((w.filesBelow depth p).map components).Nodup := by
  unfold filesBelow
  cases hlocate : w.locate p with
  | error e => exact .nil
  | ok l => exact (nodup_components_walk hnamed).2

end Workspace

end SourceWeaver.Files
