/-
  Files by their paths.

  A path leads where its hops do (`locateFor_eq_ok_iff`).  If it leads to a file, then the path of
  its directory leads to the directory in which its name presents the file (`exists_way`); the text
  of that path is written another way, but its hops differ only in some that stay.  The path of an
  entry of a directory leads to the entry (`hops_join`).
-/

import SourceWeaver.Proofs.Files.Following
import SourceWeaver.Proofs.Path.Parts

namespace SourceWeaver.Files

open SourceWeaver.Path

variable {text name : String} {p : Path} {ps : List (List Char)}

/-! ## Hops of texts -/

/-- The hops of some parts; empty parts are none. -/
def hopsOf (ps : List (List Char)) : List String :=
  (ps.filter (· ≠ [])).map String.ofList

theorem hops_eq (text : String) :
    hops text = hopsOf (partsOf text.toList) ++ if endsInSeparator text then [""] else [] :=
  rfl

theorem hopsOf_append (ps qs : List (List Char)) : hopsOf (ps ++ qs) = hopsOf ps ++ hopsOf qs := by
  rw [hopsOf, List.filter_append, List.map_append]
  rfl

theorem hopsOf_singleton {part : List Char} (h : part ≠ []) :
    hopsOf [part] = [String.ofList part] := by
  simp [hopsOf, h]

theorem stays_of_mem_hopsOf (h : ∀ part ∈ ps, component? part = none) :
    ∀ hop ∈ hopsOf ps, stays hop = true := by
  intro hop hhop
  obtain ⟨part, hpart, rfl⟩ := List.mem_map.mp hhop
  rcases component?_eq_none_iff.mp (h part (List.mem_of_mem_filter hpart)) with rfl | rfl <;> rfl

/-- A hop that is looked up is a name. -/
theorem LooksUp.component? {creating : Bool} {hop : String} {rest : List String}
    (h : LooksUp creating hop rest) : Path.component? hop.toList = some (.name hop) := by
  have hmoves := h.moves
  have hdown := h.goesDown
  simp only [stays, Bool.or_eq_false_iff, decide_eq_false_iff_not] at hmoves
  have hne : hop.toList ≠ [] := by simpa using hmoves.1
  have hdot : hop.toList ≠ ['.'] := fun hd => hmoves.2 (String.toList_inj.mp hd)
  have hup : hop.toList ≠ ['.', '.'] := fun hd => hdown (String.toList_inj.mp hd)
  simp [Path.component?, hne, hdot, hup]

/-- A text whose last part is empty is empty itself or ends in a separator. -/
theorem endsInSeparator_of_concat_nil (h : partsOf text.toList = ps ++ [[]]) (hne : ps ≠ []) :
    endsInSeparator text = true := by
  rw [endsInSeparator, ← joinParts_partsOf text.toList, h, joinParts_append hne (by simp)]
  have hlast : joinParts ps ++ '/' :: joinParts [[]] = joinParts ps ++ ['/'] := rfl
  rw [hlast, List.getLast?_concat]
  rfl

/-- A text whose last hop moves ends in that hop. -/
theorem hops_eq_concat {before : List String} (h : hops text = before ++ [name])
    (hmoves : stays name = false) :
    ∃ ps, partsOf text.toList = ps ++ [name.toList] ∧ before = hopsOf ps := by
  rw [hops_eq] at h
  by_cases hends : endsInSeparator text = true
  -- the last hop would be the empty one
  · rw [if_pos hends] at h
    obtain ⟨-, hname⟩ := List.append_inj' h rfl
    obtain rfl := List.singleton_inj.mp hname
    cases hmoves
  · rw [if_neg hends, List.append_nil] at h
    -- otherwise the last part is the name
    obtain ⟨ps, last, hparts⟩ : ∃ ps last, partsOf text.toList = ps ++ [last] :=
      ⟨_, _, (List.dropLast_append_getLast (partsOf_ne_nil _)).symm⟩
    rw [hparts, hopsOf_append] at h
    have hlast : last ≠ [] := by
      rintro rfl
      by_cases hps : ps = []
      · rw [hps] at h
        exact absurd h.symm (List.concat_ne_nil _ _)
      · exact hends (endsInSeparator_of_concat_nil hparts hps)
    rw [hopsOf_singleton hlast] at h
    obtain ⟨hbefore, hname⟩ := List.append_inj' h rfl
    refine ⟨ps, ?_, hbefore.symm⟩
    rw [hparts, ← List.singleton_inj.mp hname, String.toList_ofList]

theorem hops_of_separator {cs : List Char} (h : text.toList = cs ++ ['/']) :
    hops text = hopsOf (partsOf cs) ++ [""] := by
  have hends : endsInSeparator text = true := by
    rw [endsInSeparator, h, List.getLast?_concat]
    rfl
  rw [hops_eq, if_pos hends, h, partsOf_append_separator, hopsOf_append]
  exact congrArg (· ++ [""]) (List.append_nil _)

/-- The last part of a text is its last hop if it is not empty. -/
theorem hops_of_concat {part : List Char} (h : partsOf text.toList = ps ++ [part])
    (hne : part ≠ []) : hops text = hopsOf ps ++ [String.ofList part] := by
  have hends : ¬endsInSeparator text = true := by
    intro hends
    obtain ⟨cs, hcs⟩ := List.getLast?_eq_some_iff.mp (eq_of_beq hends)
    rw [hcs, partsOf_append_separator] at h
    obtain ⟨-, hlast⟩ := List.append_inj' h rfl
    exact hne (List.singleton_inj.mp hlast).symm
  rw [hops_eq, if_neg hends, List.append_nil, h, hopsOf_append, hopsOf_singleton hne]

/-! ## The directory of a path -/

/-- Whether the system looks at a text as a path at all. -/
structure Usable (text : String) : Prop where
  noZero : '\x00' ∉ text.toList
  nonempty : text ≠ ""
  short : text.utf8ByteSize ≤ maxPathSize

theorem utf8ByteSize_le_of_front {a b : String} (h : a.toList <+: b.toList) :
    a.utf8ByteSize ≤ b.utf8ByteSize := by
  obtain ⟨rest, hrest⟩ := h
  have hb : b = a ++ String.ofList rest := by
    rw [← String.toList_inj, String.toList_append, String.toList_ofList, hrest]
  rw [hb, String.utf8ByteSize_append]
  exact Nat.le_add_right _ _

theorem Usable.of_front {a b : String} (h : Usable b) (hfront : a.toList <+: b.toList)
    (hne : a ≠ "") : Usable a :=
  ⟨fun hzero => h.noZero (hfront.subset hzero), hne,
    Nat.le_trans (utf8ByteSize_le_of_front hfront) h.short⟩

theorem startOf_of_front {a b : String} (hfront : a.toList <+: b.toList) (hne : a ≠ "")
    (here : Location) : startOf a here = startOf b here := by
  obtain ⟨rest, hrest⟩ := hfront
  obtain ⟨c, cs, hcs⟩ := List.exists_cons_of_ne_nil (l := a.toList) (by simpa using hne)
  rw [hcs] at hrest
  rw [startOf, startOf, ← hrest, hcs]
  rfl

section Spelled

variable {kept rest : List (List Char)}
  (hspelled : joinParts kept ≠ [] ∧ text.toList = joinParts kept ∨
    kept = [[]] ∧ text.toList = ['/'])

include hspelled

theorem ne_empty_of_spelled : text ≠ "" := by
  rintro rfl
  rcases hspelled with ⟨hkept, htext⟩ | ⟨-, htext⟩
  · exact hkept htext.symm
  · cases htext

theorem prefix_of_spelled (hrest : rest ≠ []) : text.toList <+: joinParts (kept ++ rest) := by
  rcases hspelled with ⟨-, htext⟩ | ⟨rfl, htext⟩
  · rw [htext]
    exact joinParts_prefix_append kept rest
  · rw [htext, List.singleton_append, joinParts_cons hrest]
    exact List.prefix_append ['/'] _

/-- The hops of a text that some parts spell are theirs, up to some at the end that stay. -/
theorem hops_of_spelled (hparts : ∀ part ∈ kept, '/' ∉ part) :
    ∃ staying, hops text = hopsOf kept ++ staying ∧ ∀ hop ∈ staying, stays hop = true := by
  -- the parts themselves, perhaps with a separator behind them, or the root
  rcases hspelled with ⟨hkept, htext⟩ | ⟨rfl, htext⟩
  · have hne : kept ≠ [] := fun hnil => hkept (hnil ▸ rfl)
    refine ⟨if endsInSeparator text then [""] else [], ?_, fun hop hhop => ?_⟩
    · rw [hops_eq, htext, partsOf_joinParts hne hparts]
    · split at hhop
      · rw [List.mem_singleton.mp hhop]
        rfl
      · cases hhop
  · have hroot : text = "/" := String.toList_inj.mp htext
    refine ⟨[""], by rw [hroot]; decide +kernel, fun hop hhop => ?_⟩
    rw [List.mem_singleton.mp hhop]
    rfl

end Spelled

theorem directoryOf_of_parent {above : Path} (hparent : p.parent? = some above)
    (hne : above.text ≠ "") : Workspace.directoryOf p = above := by
  rw [Workspace.directoryOf, hparent]
  exact if_neg hne

variable (hn : component? name.toList = some (.name name))

include hn in
/-- The path of the directory of a path is the dot if the path is but a name, and else it is how the
    path begins.  Its hops are those in front of the name, up to some at the end that stay. -/
theorem hops_directoryOf (h : partsOf p.text.toList = ps ++ [name.toList]) :
    ((Workspace.directoryOf p).text = "." ∧ p.text = name ∨
        (Workspace.directoryOf p).text ≠ "" ∧
          (Workspace.directoryOf p).text.toList <+: p.text.toList) ∧
      ∃ names staying staying', hopsOf ps = names ++ staying ∧
        hops (Workspace.directoryOf p).text = names ++ staying' ∧
        ∀ hop ∈ staying ++ staying', stays hop = true := by
  obtain ⟨q, hparent, hspells⟩ := parent?_of_concat hn h
  have htext : joinParts (ps ++ [name.toList]) = p.text.toList := by
    rw [← h, joinParts_partsOf]
  rcases hspells with ⟨rfl, hempty⟩ | ⟨kept, dropped, rfl, hnothing, hspelled⟩
  -- a name alone lies in the working directory, which is written as a dot
  · have hdirectory : Workspace.directoryOf p = ⟨"."⟩ := by
      rw [Workspace.directoryOf, hparent]
      exact if_pos hempty
    rw [hdirectory]
    refine ⟨.inl ⟨rfl, ?_⟩, [], [], ["."], rfl, by decide +kernel, by simp [stays]⟩
    rw [List.nil_append, joinParts, List.intercalate_singleton] at htext
    exact (String.toList_inj.mp htext).symm
  -- otherwise the text of the directory is a beginning of that of the path
  · have hparts (part : List Char) (hpart : part ∈ kept) : '/' ∉ part := by
      have hmem : part ∈ partsOf p.text.toList :=
        h ▸ List.mem_append_left _ (List.mem_append_left _ hpart)
      exact not_mem_of_mem_partsOf hmem
    have hne := ne_empty_of_spelled hspelled
    obtain ⟨staying, hhops, hstays⟩ := hops_of_spelled hspelled hparts
    rw [directoryOf_of_parent hparent hne]
    refine ⟨.inr ⟨hne, ?_⟩, hopsOf kept, hopsOf dropped, staying, hopsOf_append _ _, hhops, ?_⟩
    · rw [← htext, List.append_assoc]
      exact prefix_of_spelled hspelled (List.concat_ne_nil _ _)
    · intro hop hhop
      rcases List.mem_append.mp hhop with hhop | hhop
      · exact stays_of_mem_hopsOf hnothing hop hhop
      · exact hstays hop hhop

/-! ## The path of an entry -/

omit hn in
/-- The parts of the path of an entry are parts of the path of its directory and the name; what
    they leave out of the latter stays. -/
theorem partsOf_join (hne : p.text ≠ "") (hseparator : '/' ∉ name.toList) :
    ∃ ps staying, ps ≠ [] ∧ partsOf (p.join name).text.toList = ps ++ [name.toList] ∧
      hops p.text = hopsOf ps ++ staying ∧ (∀ hop ∈ staying, stays hop = true) ∧
      p.text.toList <+: (p.join name).text.toList := by
  have hhead : ¬(name.toList.head? == some '/') = true := fun hhead =>
    hseparator (List.mem_of_mem_head? (eq_of_beq hhead))
  have hparts : partsOf name.toList = [name.toList] := partsOf_of_not_mem hseparator
  have hempty : ¬(p.text == "") = true := by simpa using hne
  -- the join puts a separator in between unless there is one
  by_cases hends : endsInSeparator p.text = true
  · obtain ⟨cs, hcs⟩ := List.getLast?_eq_some_iff.mp (eq_of_beq hends)
    have hjoin : (p.join name).text = p.text ++ name := by
      rw [join, if_neg hhead, if_pos (by rw [endsInSeparator] at hends; simp [hends])]
    refine ⟨partsOf cs, [""], partsOf_ne_nil cs, ?_, hops_of_separator hcs, by simp [stays], ?_⟩
    · rw [hjoin, String.toList_append, hcs, List.append_assoc, List.singleton_append,
        partsOf_append_separator, hparts]
    · rw [hjoin, String.toList_append]
      exact List.prefix_append _ _
  · have hjoin : (p.join name).text = p.text ++ "/" ++ name := by
      rw [join, if_neg hhead, if_neg (by rw [endsInSeparator] at hends; simp [hends, hne])]
    have htext : (p.join name).text.toList = p.text.toList ++ '/' :: name.toList := by
      rw [hjoin, String.toList_append, String.toList_append, List.append_assoc]
      rfl
    refine ⟨partsOf p.text.toList, [], partsOf_ne_nil _, ?_, ?_, by simp, ?_⟩
    · rw [htext, partsOf_append_separator, hparts]
    · rw [hops_eq, if_neg hends]
    · rw [htext]
      exact List.prefix_append _ _

namespace Workspace

variable {w : Workspace} {l : Location} {content : Content} {mode : Nat}

/-! ## Where paths lead -/

/-- Whether the working directory is a directory. -/
def Grounded (w : Workspace) : Prop :=
  w.root.sign w.here = .directory

/-- Only the working directory is looked at. -/
instance (w : Workspace) : Decidable w.Grounded :=
  inferInstanceAs (Decidable (_ = _))

/-- A path leads where its hops do, if the system looks at it at all. -/
theorem locateFor_eq_ok_iff {creating : Bool} :
    w.locateFor creating p = .ok l ↔
      Usable p.text ∧ Leads w.root creating maxLinks (startOf p.text w.here) (hops p.text) l := by
  rw [← follow_eq_ok_iff, locateFor]
  -- the three checks of a usable text, in the order in which they are made
  by_cases hzero : '\x00' ∈ p.text.toList
  · rw [if_pos (by simpa using hzero)]
    exact ⟨nofun, fun h => absurd hzero h.1.noZero⟩
  by_cases hempty : p.text = ""
  · rw [if_neg (by simpa using hzero), if_pos hempty]
    exact ⟨nofun, fun h => absurd hempty h.1.nonempty⟩
  by_cases hlong : maxPathSize < p.text.utf8ByteSize
  · rw [if_neg (by simpa using hzero), if_neg hempty, if_pos hlong]
    exact ⟨nofun, fun h => absurd h.1.short (Nat.not_le.mpr hlong)⟩
  · rw [if_neg (by simpa using hzero), if_neg hempty, if_neg hlong]
    exact ⟨fun h => ⟨⟨hzero, hempty, Nat.not_lt.mp hlong⟩, h⟩, fun h => h.2⟩

theorem locate_eq_ok_iff :
    w.locate p = .ok l ↔
      Usable p.text ∧ Leads w.root false maxLinks (startOf p.text w.here) (hops p.text) l :=
  locateFor_eq_ok_iff

theorem read_eq_ok_iff :
    w.read p = .ok (content, mode) ↔
      ∃ l, w.locate p = .ok l ∧ w.root.faceAt? l = some (.file content mode) := by
  unfold read
  cases hlocate : w.locate p with
  | error e => simp
  | ok l =>
    simp only [Except.ok.injEq, exists_eq_left', Node.faceAt?]
    cases w.root.at? l with
    | none => simp
    | some node => cases node <;> simp [Node.face]

theorem isFile_iff : w.isFile p = true ↔ ∃ l, w.locate p = .ok l ∧ w.root.sign l = .file := by
  unfold isFile node?
  cases hlocate : w.locate p with
  | error e => simp
  | ok l =>
    simp only [Except.ok.injEq, exists_eq_left', Node.sign, Node.faceAt?]
    cases w.root.at? l with
    | none => simp [Face.sign]
    | some node => cases node <;> simp [Node.face, Face.sign]

theorem isFile_of_read (h : w.read p = .ok (content, mode)) : w.isFile p = true := by
  obtain ⟨l, hlocate, hface⟩ := read_eq_ok_iff.mp h
  exact isFile_iff.mpr ⟨l, hlocate, Node.sign_eq_file_iff.mpr ⟨content, mode, hface⟩⟩

theorem isDirectory_iff :
    w.isDirectory p = true ↔ ∃ l, w.locate p = .ok l ∧ w.root.sign l = .directory := by
  unfold isDirectory node?
  cases hlocate : w.locate p with
  | error e => simp
  | ok l =>
    simp only [Except.ok.injEq, exists_eq_left', Node.sign, Node.faceAt?]
    cases w.root.at? l with
    | none => simp [Face.sign]
    | some node => cases node <;> simp [Node.face, Face.sign]

/-! ## The entry of a file -/

/-- The way of a path to a file: the hops in front of its name lead to the directory whose entry of
    that name presents the file, and so does the path of its directory. -/
structure Way (w : Workspace) (p : Path) (l : Location) (before : List String)
    (directory : Location) (name : String) : Prop where
  hops_eq : hops p.text = before ++ [name]
  looksUp : LooksUp false name []
  leads : Leads w.root false maxLinks (startOf p.text w.here) before directory
  isDirectory : w.root.sign directory = .directory
  presents : w.root.Presents directory name l
  locate_directoryOf : w.locate (directoryOf p) = .ok directory
  fileName?_eq : p.fileName? = some name

theorem exists_way (hw : w.Grounded) (h : w.locate p = .ok l) (hl : w.root.sign l = .file) :
    ∃ before directory name, w.Way p l before directory name := by
  obtain ⟨husable, hleads⟩ := locate_eq_ok_iff.mp h
  have hstart := sign_startOf hw p.text
  obtain ⟨before, name, directory, hhops, hlooks, hbefore, hdir, hpresents⟩ :=
    hleads.exists_entry hstart hl
  obtain ⟨ps, hparts, rfl⟩ := hops_eq_concat hhops hlooks.moves
  have hn := hlooks.component?
  obtain ⟨htext, names, staying, staying', hnames, hhops', hstays⟩ := hops_directoryOf hn hparts
  refine ⟨hopsOf ps, directory, name,
    ⟨hhops, hlooks, hbefore, hdir, hpresents, ?_, fileName?_of_concat hn hparts⟩⟩
  -- the hops of the directory's path are those in front of the name, but for some that stay
  have hway : Leads w.root false maxLinks (startOf p.text w.here) (names ++ staying') directory := by
    rw [hnames] at hbefore
    have hkept := hbefore.of_append_stays hdir fun hop hhop =>
      hstays hop (List.mem_append_left _ hhop)
    exact hkept.append_stays hdir fun hop hhop => hstays hop (List.mem_append_right _ hhop)
  rw [locate_eq_ok_iff, hhops']
  rcases htext with ⟨hdot, hname⟩ | ⟨hne, hfront⟩
  -- a mere name starts where the dot does
  · have hrelative : startOf "." w.here = startOf p.text w.here := by
      have hmem : name.toList ∈ partsOf p.text.toList :=
        hparts ▸ List.mem_append_right _ (List.mem_singleton_self _)
      have hnone := not_mem_of_mem_partsOf hmem
      rw [hname, startOf, startOf, if_neg (by decide), if_neg]
      intro hhead
      exact hnone (List.mem_of_mem_head? (eq_of_beq hhead))
    rw [hdot, hrelative]
    exact ⟨⟨by decide, by decide, by decide⟩, hway⟩
  · rw [startOf_of_front hfront hne]
    exact ⟨husable.of_front hfront hne, hway⟩

/-! ## Entries of directories -/

/-- The path of an entry starts where that of the directory does, and its hops are those of the
    directory, up to some at the end that stay, and the name of the entry. -/
theorem hops_join (hne : p.text ≠ "") (hn : component? name.toList = some (.name name))
    (hseparator : '/' ∉ name.toList) :
    startOf (p.join name).text w.here = startOf p.text w.here ∧
      ∃ names staying, hops p.text = names ++ staying ∧ hops (p.join name).text = names ++ [name] ∧
        ∀ hop ∈ staying, stays hop = true := by
  have hnil : name.toList ≠ [] := ne_nil_of_name hn
  obtain ⟨ps, staying, -, hparts, hhops, hstays, hfront⟩ := partsOf_join hne hseparator
  refine ⟨(startOf_of_front hfront hne w.here).symm, hopsOf ps, staying, hhops, ?_, hstays⟩
  rw [hops_of_concat hparts hnil, String.ofList_toList]

end Workspace

end SourceWeaver.Files
