/-
  Settings for a file under two paths.

  A search for a path from the working directory looks no further up than there; a search for the
  path of the same file from the root looks in the same directories, spelled from the root, and then
  in those above (`nearest?_herePath_join`).  So the settings are the same if a file below the
  working directory says something, as far as no search lets the file of the home directory be
  overruled, and else only if no file further up does (`spelling_irrelevant_iff`).
-/

import SourceWeaver.Proofs.Discovery.Nearest

namespace SourceWeaver.Discovery

open Files Toml
open SourceWeaver.Path Workspace

variable {w : Workspace} {v : HomeVariables} {p q start directory : Path} {k : Key}
  {value : Value} {directories : List Path}

/-! ## Directories by their components -/

/-- Whether the settings file of a directory with some components is that of the home directory. -/
def isHomeAt (w : Workspace) (v : HomeVariables) (cs : List Component) : Bool :=
  (homeFile? w v).any (·.components == cs ++ [.name settingsFileName])

theorem isHome_eq (w : Workspace) (v : HomeVariables) (directory : Path) :
    isHome w v directory = isHomeAt w v directory.components := by
  unfold isHome isHomeAt
  simp only [same, components_settingsFile]

/-- The home directory is not spelled in two ways of which one starts at the root. -/
theorem isAbsolute_eq_of_isHome (hp : isHome w v p = true) (hq : isHome w v q = true) :
    p.isAbsolute = q.isAbsolute := by
  rw [isHome_eq, isHomeAt, Option.any_eq_true] at hp hq
  obtain ⟨home, hhome, hp⟩ := hp
  obtain ⟨home', hhome', hq⟩ := hq
  obtain rfl := Option.some.inj (hhome.symm.trans hhome')
  have hcomponents : p.components = q.components :=
    List.append_cancel_right ((eq_of_beq hp).symm.trans (eq_of_beq hq))
  rw [isAbsolute_eq, isAbsolute_eq, hcomponents]

theorem nearest?_eq (husable : ∀ d ∈ directories, Usable (d.join settingsFileName).text) :
    nearest? w k directories = (directories.map components).findSome? (saidBelow? w k) := by
  induction directories with
  | nil => rfl
  | cons d rest ih =>
    obtain ⟨hd, hrest⟩ := List.forall_mem_cons.mp husable
    rw [nearest?, List.findSome?_cons, said?_settingsFile hd, ← nearest?, ih hrest, List.map_cons,
      List.findSome?_cons]

/-- The nearest file with that of the home directory left out. -/
theorem nearest?_filter_eq (husable : ∀ d ∈ directories, Usable (d.join settingsFileName).text) :
    nearest? w k (directories.filter (!isHome w v ·)) =
      ((directories.map components).filter (!isHomeAt w v ·)).findSome? (saidBelow? w k) := by
  have hothers : ∀ d ∈ directories.filter (!isHome w v ·), Usable (d.join settingsFileName).text :=
    fun d hd => husable d (List.mem_filter.mp hd).1
  rw [nearest?_eq hothers, List.filter_map]
  simp only [isHome_eq]
  rfl

/-- Where a path from the working directory begins makes no difference to what is said below. -/
theorem saidBelow?_here (hw : w.Grounded) (hnamed : w.NamedHere) (hrelative : p.isAbsolute = false)
    {more : List Component} (hroot : .root ∉ more) :
    saidBelow? w k (p.lead ++ more) = saidBelow? w k (w.herePath.components ++ more) := by
  -- the relative spelling starts in the working directory
  have hstart : ((p.lead ++ more).head? == some .root) = false := by
    rw [beq_eq_false_iff_ne]
    rcases lead_of_relative hrelative with h | h <;> rw [h]
    · exact fun hhead => hroot (List.mem_of_mem_head? hhead)
    · exact fun hhead => Component.noConfusion (Option.some.inj hhead)
  -- the absolute one starts at the root and walks down to the working directory first
  have hstart' : ((w.herePath.components ++ more).head? == some .root) = true := by
    rw [components_herePath hnamed]
    rfl
  unfold saidBelow?
  rw [hstart, hstart', List.filterMap_append, List.filterMap_append, filterMap_lead,
    hops_herePath hnamed, List.append_assoc, List.append_assoc, if_pos rfl,
    if_neg Bool.false_ne_true, toOption_follow_here hw hnamed, List.nil_append]

/-! ## Where the searches look -/

theorem exists_of_mem_searched (hfile : w.isFile start = true) (h : q ∈ searched w start) :
    ∃ directory, start.parent? = some directory ∧ q ∈ directory.ancestors := by
  rw [searched, startDirectory?, if_pos hfile] at h
  cases hdirectory : start.parent? with
  | none =>
    rw [hdirectory] at h
    cases h
  | some directory =>
    rw [hdirectory] at h
    exact ⟨directory, rfl, h⟩

theorem isAbsolute_of_mem_searched (hfile : w.isFile start = true) (h : q ∈ searched w start) :
    q.isAbsolute = start.isAbsolute := by
  obtain ⟨directory, hdirectory, hq⟩ := exists_of_mem_searched hfile h
  rw [isAbsolute_of_mem_ancestors hq, isAbsolute_of_parent? hdirectory]

/-- There is room for the settings files of directories that a long enough text begins with. -/
theorem usable_of_fronts (hzero : '\x00' ∉ start.text.toList)
    (hshort : start.text.utf8ByteSize + 1 + settingsFileName.utf8ByteSize ≤ maxPathSize)
    (hfront : ∀ d ∈ directories, d.text.toList <+: start.text.toList) :
    ∀ d ∈ directories, Usable (d.join settingsFileName).text := fun d hd =>
  usable_join (isAbsolute_of_isName isName_settingsFileName) (by decide) (by decide +kernel)
    (hfront d hd) hzero hshort

theorem usable_searched (hfile : w.isFile start = true)
    (hshort : start.text.utf8ByteSize + 1 + settingsFileName.utf8ByteSize ≤ maxPathSize) :
    ∀ d ∈ searched w start, Usable (d.join settingsFileName).text := by
  refine usable_of_fronts (usable_of_isFile hfile).noZero hshort fun d hd => ?_
  obtain ⟨directory, hdirectory, hd⟩ := exists_of_mem_searched hfile hd
  exact (prefix_of_mem_ancestors hd).trans (prefix_of_parent? hdirectory)

/-- A search for a file looks in directories with the beginnings of its components, but for the last
    one. -/
theorem map_components_searched {cs more : List Component} (hfile : w.isFile start = true)
    (hcomponents : start.components = cs ++ more) (hne : more ≠ []) (hroot : .root ∉ more) :
    (searched w start).map components = beginnings (cs ++ more.dropLast) := by
  cases hdirectory : start.parent? with
  | none =>
    -- a file has a parent: its last component is a name
    rw [parent?_eq_none_iff, hcomponents] at hdirectory
    rcases hdirectory with hnil | honly
    · exact absurd (List.append_eq_nil_iff.mp hnil).2 hne
    · have hlast := congrArg List.getLast? honly
      rw [List.getLast?_append_of_ne_nil _ hne] at hlast
      exact absurd (List.mem_of_getLast? hlast) hroot
  | some directory =>
    rw [searched_of_isFile hfile hdirectory, map_components_ancestors,
      components_of_parent? hdirectory, hcomponents, List.dropLast_append_of_ne_nil hne]

theorem tail_ne_nil_of_isFile (hw : w.Grounded) (hfile : w.isFile p = true) : p.tail ≠ [] := by
  obtain ⟨l, hlocate, hsign⟩ := isFile_iff.mp hfile
  obtain ⟨before, directory, name, hway⟩ := exists_way hw hlocate hsign
  exact tail_ne_nil_of_fileName? hway.fileName?_eq

section FromRoot

variable (hw : w.Grounded) (hnamed : w.NamedHere) (hrelative : p.isAbsolute = false)
  (hfile : w.isFile p = true)
  (hshort : (w.herePath.join p.text).text.utf8ByteSize + 1 + settingsFileName.utf8ByteSize ≤
    maxPathSize)

include hw hnamed hrelative

/-- In the working directory itself a search looks for the same file, whatever it calls it. -/
theorem findSome?_beginnings_lead :
    (beginnings p.lead).findSome? (saidBelow? w k) = saidBelow? w k w.herePath.components := by
  have hempty : saidBelow? w k [] = saidBelow? w k w.herePath.components := by
    have hhere := saidBelow?_here (p := ⟨""⟩) (k := k) hw hnamed (by decide) List.not_mem_nil
    have hlead : (⟨""⟩ : Path).lead = [] := by decide +kernel
    rwa [hlead, List.append_nil, List.append_nil] at hhere
  have hlead := saidBelow?_here (k := k) hw hnamed hrelative List.not_mem_nil
  rw [List.append_nil, List.append_nil] at hlead
  -- a dot at the beginning makes the working directory come twice
  rcases lead_of_relative hrelative with h | h
  · rw [h, beginnings_of_outermost (.inl rfl), List.findSome?_singleton, hempty]
  · rw [h] at hlead ⊢
    rw [beginnings_of_inner (by simp), List.dropLast_singleton, beginnings_of_outermost (.inl rfl),
      List.findSome?_cons, List.findSome?_singleton, hlead, hempty]
    cases saidBelow? w k w.herePath.components <;> rfl

include hfile hshort

theorem isFile_from_root : w.isFile (w.herePath.join p.text) = true :=
  isFile_herePath_join hnamed hrelative hw hfile (by omega)

/-- The components of the directories in which the two searches look, and what they say. -/
theorem exists_components_searched :
    ∃ inner : List (List Component), (∀ cs ∈ inner, .root ∉ cs) ∧
      (searched w p).map components = inner.map (p.lead ++ ·) ++ beginnings p.lead ∧
      (searched w (w.herePath.join p.text)).map components =
        inner.map (w.herePath.components ++ ·) ++ beginnings w.herePath.components := by
  have hroot := root_not_mem_tail p
  have htail := tail_ne_nil_of_isFile hw hfile
  have hroot' : .root ∉ p.tail.dropLast := fun h => hroot (List.mem_of_mem_dropLast h)
  have hfile' := isFile_from_root hw hnamed hrelative hfile hshort
  -- the inner directories are the nonempty beginnings of the tail, longest first
  refine ⟨p.tail.dropLast.inits.tail.reverse, fun cs hcs hmem => ?_, ?_, ?_⟩
  · have hfront := (List.mem_inits _ _).mp (List.mem_of_mem_tail (List.mem_reverse.mp hcs))
    exact hroot' (hfront.subset hmem)
  · rw [map_components_searched hfile (components_eq p) htail hroot, beginnings_append hroot']
  · rw [map_components_searched hfile' (components_herePath_join hrelative) htail hroot,
      beginnings_append hroot']

/-- There is room for the settings files in which either search looks, and for those above the
    working directory. -/
theorem usable_from_root :
    (∀ d ∈ searched w p, Usable (d.join settingsFileName).text) ∧
      (∀ d ∈ searched w (w.herePath.join p.text), Usable (d.join settingsFileName).text) ∧
      ∀ d ∈ w.herePath.ancestors, Usable (d.join settingsFileName).text := by
  have hfile' := isFile_from_root hw hnamed hrelative hfile hshort
  obtain ⟨separator, -, htext⟩ := text_join hrelative w.herePath
  refine ⟨usable_searched hfile ?_, usable_searched hfile' hshort, ?_⟩
  · rw [htext, String.utf8ByteSize_append] at hshort
    omega
  -- a directory above the working directory is a beginning of a path that fits
  · refine usable_of_fronts (usable_of_isFile hfile').noZero hshort fun d hd => ?_
    have hfront : w.herePath.text.toList <+: (w.herePath.join p.text).text.toList := by
      rw [htext, String.append_assoc, String.toList_append]
      exact List.prefix_append _ _
    exact (prefix_of_mem_ancestors hd).trans hfront

/-- A search from the root finds what one from the working directory does, and else what there is
    further up. -/
theorem nearest?_herePath_join :
    nearest? w k (searched w (w.herePath.join p.text)) =
      (nearest? w k (searched w p)).or (nearest? w k w.herePath.ancestors) := by
  obtain ⟨husable, husable', habove⟩ := usable_from_root hw hnamed hrelative hfile hshort
  obtain ⟨inner, hroot, hcomponents, hcomponents'⟩ :=
    exists_components_searched hw hnamed hrelative hfile hshort
  have hinner : (inner.map (p.lead ++ ·)).findSome? (saidBelow? w k) =
      (inner.map (w.herePath.components ++ ·)).findSome? (saidBelow? w k) := by
    rw [← List.head?_filterMap, ← List.head?_filterMap, List.filterMap_map, List.filterMap_map]
    refine congrArg List.head? (List.filterMap_congr fun cs hcs => ?_)
    exact saidBelow?_here hw hnamed hrelative (hroot cs hcs)
  -- both searches look in the working directory
  obtain ⟨above, hbeginnings⟩ : ∃ above,
      beginnings w.herePath.components = w.herePath.components :: above := by
    rw [beginnings]
    exact ⟨_, rfl⟩
  have hhere : (saidBelow? w k w.herePath.components).or
      ((beginnings w.herePath.components).findSome? (saidBelow? w k)) =
        (beginnings w.herePath.components).findSome? (saidBelow? w k) := by
    rw [hbeginnings, List.findSome?_cons]
    cases saidBelow? w k w.herePath.components <;> rfl
  rw [nearest?_eq husable, nearest?_eq husable', nearest?_eq habove, hcomponents, hcomponents',
    map_components_ancestors, List.findSome?_append, List.findSome?_append, hinner,
    findSome?_beginnings_lead hw hnamed hrelative, Option.or_assoc, hhere]

/-- If nothing is said from the working directory down, a search from the root takes what the
    nearest file further up says, with that of the home directory left out. -/
theorem nearest?_others_herePath_join (hnone : nearest? w k (searched w p) = none) :
    nearest? w k ((searched w (w.herePath.join p.text)).filter (!isHome w v ·)) =
      nearest? w k (w.herePath.ancestors.filter (!isHome w v ·)) := by
  obtain ⟨husable, husable', habove⟩ := usable_from_root hw hnamed hrelative hfile hshort
  obtain ⟨inner, hroot, hcomponents, hcomponents'⟩ :=
    exists_components_searched hw hnamed hrelative hfile hshort
  rw [nearest?_eq husable, hcomponents, List.findSome?_eq_none_iff] at hnone
  -- the directories both spellings share say nothing, so only those above are left
  have hinner : ((inner.map (w.herePath.components ++ ·)).filter (!isHomeAt w v ·)).findSome?
      (saidBelow? w k) = none := by
    rw [List.findSome?_eq_none_iff]
    intro cs hcs
    obtain ⟨more, hmore, rfl⟩ := List.mem_map.mp (List.mem_filter.mp hcs).1
    rw [← saidBelow?_here hw hnamed hrelative (hroot more hmore)]
    exact hnone _ (List.mem_append_left _ (List.mem_map_of_mem hmore))
  rw [nearest?_filter_eq husable', nearest?_filter_eq habove, hcomponents',
    map_components_ancestors, List.filter_append, List.findSome?_append, hinner, Option.none_or]

/-- The file of the home directory is left out of one of the searches at most from the working
    directory down. -/
theorem searched_without_home :
    (searched w p).filter (!isHome w v ·) = searched w p ∨
      (searched w (w.herePath.join p.text)).filter (!isHome w v ·) =
        searched w (w.herePath.join p.text) := by
  have hfile' := isFile_from_root hw hnamed hrelative hfile hshort
  -- a home directory named from the working directory is none that is named from the root
  by_cases hhome : ∃ d ∈ searched w p, isHome w v d = true
  · obtain ⟨d, hd, hhome⟩ := hhome
    refine .inr (List.filter_eq_self.mpr fun e he => ?_)
    rw [Bool.not_eq_true']
    by_contra hnot
    have hstart := isAbsolute_eq_of_isHome hhome (Bool.not_eq_false _ ▸ hnot)
    rw [isAbsolute_of_mem_searched hfile hd, isAbsolute_of_mem_searched hfile' he, hrelative,
      isAbsolute_herePath_join hnamed hrelative] at hstart
    cases hstart
  · refine .inl (List.filter_eq_self.mpr fun d hd => ?_)
    rw [Bool.not_eq_true']
    exact Bool.eq_false_iff.mpr fun hd' => hhome ⟨d, hd, hd'⟩

/-- If nothing is said from the working directory down, the settings are the same unless a file
    further up says something that is not what the home directory or the default gives. -/
theorem get_settings_congr_iff_of_none (hnone : nearest? w k (searched w p) = none) :
    (settings w v p).get k = (settings w v (w.herePath.join p.text)).get k ↔
      ∀ other, nearest? w k (w.herePath.ancestors.filter (!isHome w v ·)) = some other →
        other = (homeSaid? w v k).getD (({} : Settings).get k) := by
  -- if no directory speaks for the key, then none but the home directory does either
  have hothers : nearest? w k ((searched w p).filter (!isHome w v ·)) = none := by
    rw [nearest?, List.findSome?_eq_none_iff] at hnone ⊢
    intro d hd
    exact hnone d (List.mem_filter.mp hd).1
  rw [get_settings, get_settings, hothers,
    nearest?_others_herePath_join hw hnamed hrelative hfile hshort hnone]
  cases nearest? w k (w.herePath.ancestors.filter (!isHome w v ·)) with
  | none => simp
  | some other => simp [eq_comm]

/-- If something is said from the working directory down, the settings are the same unless one of the
    searches lets it be overruled, as the file of the home directory. -/
theorem get_settings_congr_iff_of_some (hnearest : nearest? w k (searched w p) = some value) :
    (settings w v p).get k = (settings w v (w.herePath.join p.text)).get k ↔
      ∀ other,
        nearest? w k ((searched w p).filter (!isHome w v ·)) = some other ∨
          nearest? w k ((searched w (w.herePath.join p.text)).filter (!isHome w v ·)) =
            some other →
        other = value := by
  have hnearest' : nearest? w k (searched w (w.herePath.join p.text)) = some value := by
    rw [nearest?_herePath_join hw hnamed hrelative hfile hshort, hnearest, Option.some_or]
  have hiff := get_settings_eq_iff (v := v) hnearest
  have hiff' := get_settings_eq_iff (v := v) hnearest'
  -- a search that leaves nothing out takes what the nearest file says
  have hsome : (settings w v p).get k = value ∨
      (settings w v (w.herePath.join p.text)).get k = value := by
    rcases searched_without_home hw hnamed hrelative hfile hshort with hall | hall
    · refine .inl (hiff.mpr fun other hother => ?_)
      rw [hall, hnearest] at hother
      exact (Option.some.inj hother).symm
    · refine .inr (hiff'.mpr fun other hother => ?_)
      rw [hall, hnearest'] at hother
      exact (Option.some.inj hother).symm
  constructor
  · intro hsame other hother
    have hvalue : (settings w v p).get k = value := by
      rcases hsome with h | h
      · exact h
      · exact hsame.trans h
    rcases hother with hother | hother
    · exact hiff.mp hvalue other hother
    · exact hiff'.mp (hsame ▸ hvalue) other hother
  · intro hothers
    have hvalue := hiff.mpr fun other hother => hothers other (.inl hother)
    have hvalue' := hiff'.mpr fun other hother => hothers other (.inr hother)
    rw [hvalue, hvalue']

/-- Whether the settings for a file are the same for its path from the working directory and for the
    one from the root.  If a file from the working directory down says something, they are unless
    one of the searches lets it be overruled, as the file of the home directory; else they are
    unless a file further up says something that is not what the home directory or the default
    gives. -/
theorem spelling_irrelevant_iff :
    (settings w v p).get k = (settings w v (w.herePath.join p.text)).get k ↔
      (∀ value, nearest? w k (searched w p) = some value → ∀ other,
        nearest? w k ((searched w p).filter (!isHome w v ·)) = some other ∨
          nearest? w k ((searched w (w.herePath.join p.text)).filter (!isHome w v ·)) = some other →
        other = value) ∧
      (nearest? w k (searched w p) = none → ∀ other,
        nearest? w k (w.herePath.ancestors.filter (!isHome w v ·)) = some other →
          other = (homeSaid? w v k).getD (({} : Settings).get k)) := by
  -- either a directory that both spellings search speaks for the key, or none does
  cases hnearest : nearest? w k (searched w p) with
  | none =>
    rw [get_settings_congr_iff_of_none hw hnamed hrelative hfile hshort hnearest]
    constructor
    · intro habove
      refine ⟨fun value hvalue => ?_, fun _ => habove⟩
      cases hvalue
    · intro h
      exact h.2 rfl
  | some value =>
    rw [get_settings_congr_iff_of_some hw hnamed hrelative hfile hshort hnearest]
    constructor
    · intro hothers
      refine ⟨?_, fun hnone => absurd hnone (Option.some_ne_none _)⟩
      rintro _ ⟨⟩
      exact hothers
    · intro h
      exact h.1 value rfl

end FromRoot

/-- Settings files in the working directory, above it and below it. -/
def settingsOnThreeLevels : Workspace where
  root := .directory
    [("code2md.toml", .file (.ofText "fence = \"~~~\"\nindent_width = 3\n") 0o644),
      ("work", .directory
        [("code2md.toml", .file (.ofText "indent_width = 2\n") 0o644),
          ("sub", .directory
            [("code2md.toml", .file (.ofText "indent_width = 8\n") 0o644),
              ("notes.c", .file (.ofText "/*\nTitle\n*/\nint x;\n") 0o644)])])]
  here := ["work"]

/-- Without a home directory the nearest file is found under both paths. -/
theorem spelling_irrelevant_for_indent :
    let w := settingsOnThreeLevels
    let p : Path := ⟨"sub/notes.c"⟩
    (w.Grounded ∧ w.NamedHere ∧ p.isAbsolute = false ∧ w.isFile p = true ∧
      (w.herePath.join p.text).text.utf8ByteSize + 1 + settingsFileName.utf8ByteSize ≤
        maxPathSize) ∧
      (settings w {} p).get .indentWidth =
        (settings w {} (w.herePath.join p.text)).get .indentWidth := by
  intro w p
  have hw : w.Grounded := by decide +kernel
  have hnamed : w.NamedHere := by decide +kernel
  have hrelative : p.isAbsolute = false := by decide +kernel
  have hfile : w.isFile p = true := by decide +kernel
  have hshort : (w.herePath.join p.text).text.utf8ByteSize + 1 + settingsFileName.utf8ByteSize ≤
      maxPathSize := by decide +kernel
  have hnearest : nearest? w .indentWidth (searched w p) = some (.count 8) := by decide +kernel
  have hothers :
      nearest? w .indentWidth ((searched w p).filter (!isHome w {} ·)) = some (.count 8) := by
    decide +kernel
  have hothers' : nearest? w .indentWidth
      ((searched w (w.herePath.join p.text)).filter (!isHome w {} ·)) = some (.count 8) := by
    decide +kernel
  refine ⟨⟨hw, hnamed, hrelative, hfile, hshort⟩,
    (spelling_irrelevant_iff hw hnamed hrelative hfile hshort).mpr ⟨?_, ?_⟩⟩
  · intro value hvalue other hother
    rw [hnearest] at hvalue
    rw [hothers, hothers', or_self, hvalue] at hother
    exact (Option.some.inj hother).symm
  · intro hnone
    rw [hnearest] at hnone
    cases hnone

/-- The file above the working directory is found under the path from the root alone.  Neither do
    the two paths agree on the width, if the home directory is the one of the file, named from the
    working directory. -/
theorem spelling_relevant :
    let w := settingsOnThreeLevels
    let v : HomeVariables := { home := some "sub" }
    let p : Path := ⟨"sub/notes.c"⟩
    w.isFile p = true ∧ w.herePath.join p.text = ⟨"/work/sub/notes.c"⟩ ∧
      (settings w {} p).get .fence = .text "```" ∧
      (settings w {} ⟨"/work/sub/notes.c"⟩).get .fence = .text "~~~" ∧
      (settings w v p).get .indentWidth = .count 2 ∧
      (settings w v ⟨"/work/sub/notes.c"⟩).get .indentWidth = .count 8 := by
  decide +kernel

end SourceWeaver.Discovery
