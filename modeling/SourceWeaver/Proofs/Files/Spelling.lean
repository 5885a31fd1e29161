/-
  One file under several paths.

  A hop that stays makes no difference on the way, unless it is the last one (`Leads.thins_iff`).  So
  a usable path whose last hop moves leads where its components do (`toOption_locate`), however it is
  spelled.  From the root names lead through the working directory to where they lead from there
  (`toOption_follow_here`), so a file is also found by its path from the root
  (`isFile_herePath_join`).
-/

import SourceWeaver.Proofs.Files.Plain
import SourceWeaver.Proofs.Path.Components

namespace SourceWeaver.Files

open SourceWeaver.Path

variable {root : Node} {n : Nat} {here l : Location} {names names' rest : List String} {hop : String}

/-! ## Hops that stay -/

/-- Names from which some are left out that stay, none of them at the end. -/
inductive Thins : List String → List String → Prop
  | refl (names : List String) : Thins names names
  | keep {names names' : List String} (hop : String) (h : Thins names names') :
      Thins (hop :: names) (hop :: names')
  | drop {names names' : List String} {hop : String} (hstays : stays hop = true)
      (hne : names' ≠ []) (h : Thins names names') : Thins (hop :: names) names'

theorem Thins.append_left (h : Thins names names') (before : List String) :
    Thins (before ++ names) (before ++ names') := by
  induction before with
  | nil => exact h
  | cons hop before ih => exact .keep hop ih

theorem Thins.eq_nil (h : Thins names []) : names = [] := by
  cases h with
  | refl => rfl
  | drop _ hne _ => exact absurd rfl hne

/-- What comes before a name that is not left out stays. -/
theorem Thins.exists_before (h : Thins names (hop :: rest)) :
    ∃ staying names', names = staying ++ hop :: names' ∧ (∀ z ∈ staying, stays z = true) ∧
      Thins names' rest := by
  generalize heq : hop :: rest = kept at h
  induction h with
  | refl names => exact ⟨[], rest, heq.symm, nofun, .refl rest⟩
  | keep first h _ =>
    obtain ⟨rfl, rfl⟩ := List.cons.inj heq
    exact ⟨[], _, rfl, nofun, h⟩
  | drop hstays _ _ ih =>
    obtain ⟨staying, names', rfl, hall, hthins⟩ := ih heq
    exact ⟨_ :: staying, names', rfl, List.forall_mem_cons.mpr ⟨hstays, hall⟩, hthins⟩

theorem Leads.of_stays_append {staying : List String} (h : Leads root false n here names l)
    (hstays : ∀ z ∈ staying, stays z = true) : Leads root false n here (staying ++ names) l := by
  induction staying with
  | nil => exact h
  | cons hop staying ih =>
    obtain ⟨hhop, hstaying⟩ := List.forall_mem_cons.mp hstays
    exact .stay hhop (ih hstaying)

theorem Leads.thin (h : Leads root false n here names l) (hthins : Thins names names') :
    Leads root false n here names' l := by
  induction h generalizing names' with
  | arrive n here =>
    cases hthins
    exact .arrive n here
  -- only a hop that stays can be left out, and then the rest leads on from the same place
  | stay hstays h ih =>
    cases hthins with
    | refl => exact .stay hstays h
    | keep _ hrest => exact .stay hstays (ih hrest)
    | drop _ _ hrest => exact ih hrest
  | up h ih =>
    cases hthins with
    | refl => exact .up h
    | keep _ hrest => exact .up (ih hrest)
    | drop hstays _ _ => exact absurd hstays (by decide)
  | enter hlooks hsign h ih =>
    cases hthins with
    | refl => exact .enter hlooks hsign h
    | keep _ hrest => exact .enter (hlooks.before _) hsign (ih hrest)
    | drop hstays _ _ => exact absurd hstays (Bool.eq_false_iff.mp hlooks.moves)
  | file hlooks hsign =>
    cases hthins with
    | refl => exact .file hlooks hsign
    | keep _ hrest =>
      cases hrest
      exact .file hlooks hsign
    | drop hstays _ _ => exact absurd hstays (Bool.eq_false_iff.mp hlooks.moves)
  | create _ hcreating _ => cases hcreating
  | link hlooks hsign h ih =>
    cases hthins with
    | refl => exact .link hlooks hsign h
    | keep _ hrest => exact .link (hlooks.before _) hsign (ih (hrest.append_left _))
    | drop hstays _ _ => exact absurd hstays (Bool.eq_false_iff.mp hlooks.moves)

theorem Leads.of_thin (h : Leads root false n here names' l) (hthins : Thins names names') :
    Leads root false n here names l := by
  -- in front of each step of the shorter way the longer one may stay where it is
  induction h generalizing names with
  | arrive n here =>
    obtain rfl := hthins.eq_nil
    exact .arrive n here
  | stay hstays _ ih =>
    obtain ⟨staying, more, rfl, hall, hmore⟩ := hthins.exists_before
    exact (Leads.stay hstays (ih hmore)).of_stays_append hall
  | up _ ih =>
    obtain ⟨staying, more, rfl, hall, hmore⟩ := hthins.exists_before
    exact (Leads.up (ih hmore)).of_stays_append hall
  | enter hlooks hsign _ ih =>
    obtain ⟨staying, more, rfl, hall, hmore⟩ := hthins.exists_before
    exact (Leads.enter (hlooks.before _) hsign (ih hmore)).of_stays_append hall
  | file hlooks hsign =>
    obtain ⟨staying, more, rfl, hall, hmore⟩ := hthins.exists_before
    obtain rfl := hmore.eq_nil
    exact (Leads.file hlooks hsign).of_stays_append hall
  | create _ hcreating _ => cases hcreating
  | link hlooks hsign _ ih =>
    obtain ⟨staying, more, rfl, hall, hmore⟩ := hthins.exists_before
    exact (Leads.link (hlooks.before _) hsign (ih (hmore.append_left _))).of_stays_append hall

/-- Leaving out hops that stay makes no difference to where names lead, if none of them is the
    last. -/
theorem Leads.thins_iff (h : Thins names names') :
    Leads root false n here names l ↔ Leads root false n here names' l :=
  ⟨fun hleads => hleads.thin h, fun hleads => hleads.of_thin h⟩

/-- The hops that do not stay. -/
def moves (names : List String) : List String :=
  names.filter (!stays ·)

theorem thins_moves (h : ∀ hop ∈ names.getLast?, stays hop = false) : Thins names (moves names) := by
  induction names with
  | nil => exact .refl []
  | cons hop rest ih =>
    by_cases hrest : rest = []
    · have hmoves := h hop (by rw [hrest]; rfl)
      rw [hrest, moves, List.filter_singleton, hmoves]
      exact .refl [hop]
    · have hlast : (hop :: rest).getLast? = rest.getLast? := by
        rw [List.getLast?_cons_of_ne_nil hrest]
      have hthins := ih (hlast ▸ h)
      by_cases hstays : stays hop = true
      · have hkept : moves (hop :: rest) = moves rest := by simp [moves, hstays]
        rw [hkept]
        -- something is left behind the hop, as the last one does not stay
        refine .drop hstays (fun hnil => ?_) hthins
        exact hrest (hnil ▸ hthins).eq_nil
      · have hkept : moves (hop :: rest) = hop :: moves rest := by simp [moves, hstays]
        rw [hkept]
        exact .keep hop hthins

/-! ## Components -/

/-- The hop that a component stands for. -/
def hop? : Component → Option String
  | .root => none
  | .current => none
  | .parent => some ".."
  | .name text => some text

theorem moves_append (names rest : List String) : moves (names ++ rest) = moves names ++ moves rest :=
  List.filter_append ..

theorem moves_hopsOf_singleton (part : List Char) :
    moves (hopsOf [part]) = (componentsOf [part]).filterMap hop? := by
  -- the parts that are no names, one by one, and then names
  by_cases hnil : part = []
  · rw [hnil]
    rfl
  by_cases hdot : part = ['.']
  · rw [hdot]
    decide +kernel
  by_cases hup : part = ['.', '.']
  · rw [hup]
    decide +kernel
  · have hcomponent : component? part = some (.name (String.ofList part)) := by
      simp [component?, hnil, hdot, hup]
    have hstays : stays (String.ofList part) = false := by
      have hempty : String.ofList part ≠ "" := by simpa using hnil
      have hpoint : String.ofList part ≠ "." := fun h => hdot (by
        rw [← String.toList_ofList (l := part), h]
        decide)
      simp [stays, hempty, hpoint]
    rw [hopsOf_singleton hnil, moves, List.filter_singleton, hstays, componentsOf,
      List.filterMap_cons_some hcomponent]
    rfl

/-- The hops of parts that do not stay are those that their components stand for. -/
theorem moves_hopsOf (ps : List (List Char)) :
    moves (hopsOf ps) = (componentsOf ps).filterMap hop? := by
  induction ps with
  | nil => rfl
  | cons part ps ih =>
    rw [← List.singleton_append, hopsOf_append, moves_append, moves_hopsOf_singleton, ih,
      componentsOf_append, List.filterMap_append]

/-- What a path begins with is no hop. -/
theorem filterMap_lead (p : Path) : p.lead.filterMap hop? = [] := by
  unfold lead
  split
  · rfl
  · split <;> rfl

theorem moves_hops (p : Path) : moves (hops p.text) = p.components.filterMap hop? := by
  have hend : moves (if endsInSeparator p.text then [""] else []) = [] := by
    split <;> rfl
  rw [hops_eq, moves_append, hend, List.append_nil, moves_hopsOf, components_eq,
    List.filterMap_append, filterMap_lead, List.nil_append]
  rfl

theorem startOf_eq (p : Path) (here : Location) :
    startOf p.text here = if p.isAbsolute then [] else here := rfl

/-! ## Entries of directories -/

/-- The last hop of a path below a directory is that of the path, if that is a name. -/
theorem getLast?_hops_join {below name : String} {ps : List (List Char)} (hname : IsName name)
    (hrelative : (⟨below⟩ : Path).isAbsolute = false)
    (hparts : partsOf below.toList = ps ++ [name.toList]) (p : Path) :
    (hops (p.join below).text).getLast? = some name := by
  have hnil := ne_nil_of_name hname.1
  obtain ⟨front, hfront⟩ : ∃ front, partsOf (p.join below).text.toList = front ++ [name.toList] := by
    -- joined to the empty path, the name stands last as it does below it
    by_cases hempty : p.text = ""
    · have hjoin : (p.join below).text = below := by
        have hhead : ¬(below.toList.head? == some '/') = true := Bool.eq_false_iff.mp hrelative
        rw [join, if_neg hhead, if_pos (by rw [hempty]; decide), hempty, String.empty_append]
      exact ⟨ps, by rw [hjoin, hparts]⟩
    · obtain ⟨qs, -, hqs, -⟩ := partsOf_join_of_ne_empty hrelative hempty
      exact ⟨qs ++ ps, by rw [hqs, hparts, List.append_assoc]⟩
  rw [hops_of_concat hfront hnil, String.ofList_toList, List.getLast?_concat]

theorem isAbsolute_of_isName {name : String} (h : IsName name) :
    (⟨name⟩ : Path).isAbsolute = false :=
  Bool.eq_false_iff.mpr fun hhead => h.2 (List.mem_of_mem_head? (eq_of_beq hhead))

theorem IsName.join_ne_empty {name : String} (h : IsName name) (p : Path) :
    (p.join name).text ≠ "" :=
  Path.join_ne_empty (isAbsolute_of_isName h) (fun heq => ne_nil_of_name h.1 (heq ▸ rfl)) p

/-- An entry of a directory has one component more than the directory. -/
theorem IsName.components_join {name : String} (h : IsName name) (p : Path) :
    (p.join name).components = p.components ++ [.name name] := by
  have hparts := partsOf_of_not_mem h.2
  have hdot : (⟨name⟩ : Path).startsAtDot = false := by
    rw [startsAtDot, hparts, List.head?_cons, beq_eq_false_iff_ne]
    exact fun heq => ne_dot_of_name h.1 (Option.some.inj heq)
  rw [Path.components_join (isAbsolute_of_isName h) (.inr hdot), tail, hparts, componentsOf,
    List.filterMap_cons_some h.1, List.filterMap_nil]

theorem zero_not_mem_join {below : String} (hrelative : (⟨below⟩ : Path).isAbsolute = false)
    {p : Path} (hp : '\x00' ∉ p.text.toList) (hbelow : '\x00' ∉ below.toList) :
    '\x00' ∉ (p.join below).text.toList := by
  obtain ⟨separator, hseparator, htext⟩ := text_join hrelative p
  have hbetween : '\x00' ∉ separator.toList := by
    rcases hseparator with rfl | rfl <;> decide
  rw [htext, String.toList_append, String.toList_append, List.mem_append, List.mem_append]
  rintro ((h | h) | h)
  · exact hp h
  · exact hbetween h
  · exact hbelow h

theorem utf8ByteSize_join_le {below : String} (hrelative : (⟨below⟩ : Path).isAbsolute = false)
    (p : Path) :
    (p.join below).text.utf8ByteSize ≤ p.text.utf8ByteSize + 1 + below.utf8ByteSize := by
  obtain ⟨separator, hseparator, htext⟩ := text_join hrelative p
  have hbetween : separator.utf8ByteSize ≤ 1 := by
    rcases hseparator with rfl | rfl <;> decide
  rw [htext, String.utf8ByteSize_append, String.utf8ByteSize_append]
  omega

/-- There is room for the path of an entry of a directory that a short enough text begins with. -/
theorem usable_join {name : String} {p q : Path} (hrelative : (⟨name⟩ : Path).isAbsolute = false)
    (hne : name ≠ "") (hname : '\x00' ∉ name.toList) (hfront : q.text.toList <+: p.text.toList)
    (hzero : '\x00' ∉ p.text.toList)
    (hshort : p.text.utf8ByteSize + 1 + name.utf8ByteSize ≤ maxPathSize) :
    Usable (q.join name).text := by
  refine ⟨zero_not_mem_join hrelative (fun h => hzero (hfront.subset h)) hname,
    join_ne_empty hrelative hne q, ?_⟩
  have hsize := utf8ByteSize_le_of_front hfront
  have hjoin := utf8ByteSize_join_le hrelative q
  omega

namespace Workspace

variable {w : Workspace} {p : Path}

theorem toOption_eq_some_iff {r : Except FileError Location} : r.toOption = some l ↔ r = .ok l := by
  cases r <;> simp [Except.toOption]

/-- A usable path leads where its components do, if its last hop moves. -/
theorem toOption_locate (husable : Usable p.text)
    (hlast : ∀ hop ∈ (hops p.text).getLast?, stays hop = false) :
    (w.locate p).toOption =
      (follow w.root false (maxLinks + 1) (startOf p.text w.here)
        (p.components.filterMap hop?)).toOption := by
  refine Option.ext fun l => ?_
  rw [toOption_eq_some_iff, toOption_eq_some_iff, locate_eq_ok_iff, follow_eq_ok_iff, ← moves_hops,
    Leads.thins_iff (thins_moves hlast)]
  exact and_iff_right husable

/-! ## The working directory -/

/-- Whether the names on the way to the working directory can be followed. -/
def NamedHere (w : Workspace) : Prop :=
  ∀ name ∈ w.here, IsName name ∧ '\x00' ∉ name.toList ∧ name.utf8ByteSize ≤ maxNameSize

/-- The working directory has finitely many names. -/
instance (w : Workspace) : Decidable w.NamedHere :=
  inferInstanceAs (Decidable (∀ _ ∈ _, _))

theorem looksUp_of_isName {name : String} (h : IsName name) (hshort : name.utf8ByteSize ≤ maxNameSize)
    (rest : List String) : LooksUp false name rest := by
  exact ⟨stays_of_isName h, ne_up_of_isName h, fun hopens => Bool.false_ne_true hopens.1, hshort⟩

/-- Down the working directory names lead from the root as they do from there. -/
theorem leads_below_iff (hw : w.Grounded) (hnamed : w.NamedHere) {front back : Location}
    (hhere : front ++ back = w.here) :
    Leads w.root false n front (back ++ names) l ↔ Leads w.root false n w.here names l := by
  induction back generalizing front with
  | nil => rw [← hhere, List.append_nil, List.nil_append]
  | cons name back ih =>
    have hbelow : (front ++ [name]) ++ back = w.here := by
      rw [← hhere, List.append_assoc, List.singleton_append]
    -- above a directory there are directories, so each name on the way is entered
    have hsign : w.root.sign (front ++ [name]) = .directory := by
      have hdir := Node.sign_eq_directory_iff.mp hw
      rw [Node.sign_eq_directory_iff]
      by_cases hnil : back = []
      · rw [← hdir, ← hbelow, hnil, List.append_nil]
      · rw [← hbelow] at hdir
        exact Node.faceAt?_of_faceAt?_append hnil hdir
    obtain ⟨hname, -, hshort⟩ := hnamed name (hhere ▸ List.mem_append_right _ (List.mem_cons_self ..))
    have hlooks := looksUp_of_isName hname hshort (back ++ names)
    rw [List.cons_append, ← ih hbelow]
    constructor
    · intro h
      have hnext := h.of_looksUp hlooks
      rw [hsign] at hnext
      exact hnext
    · exact fun h => .enter hlooks hsign h

theorem toList_herePath (w : Workspace) :
    w.herePath.text.toList = '/' :: joinParts (w.here.map String.toList) := by
  rw [herePath, String.toList_append, String.toList_intercalate]
  rfl

theorem herePath_ne_empty (w : Workspace) : w.herePath.text ≠ "" := by
  intro h
  have htext := toList_herePath w
  rw [h] at htext
  cases htext

/-- The working directory has the root and its names as components. -/
theorem components_herePath (hnamed : w.NamedHere) :
    w.herePath.components = .root :: w.here.map .name := by
  have habs : w.herePath.isAbsolute = true := by
    rw [isAbsolute, toList_herePath]
    rfl
  have hseparator : ∀ part ∈ w.here.map String.toList, '/' ∉ part :=
    List.forall_mem_map.mpr fun name hname => (hnamed name hname).1.2
  -- names that can be followed are components as they stand
  have hnames : componentsOf (w.here.map String.toList) = w.here.map .name := by
    rw [componentsOf, List.filterMap_map, ← List.filterMap_eq_map]
    exact List.filterMap_congr fun name hname => (hnamed name hname).1.1
  rw [components_eq, lead, if_pos habs, tail, toList_herePath, partsOf_separator, ← hnames,
    ← componentsOf_partsOf_joinParts hseparator]
  rfl

theorem hops_herePath (hnamed : w.NamedHere) : w.herePath.components.filterMap hop? = w.here := by
  rw [components_herePath hnamed, List.filterMap_cons_none rfl, List.filterMap_map]
  exact List.filterMap_some

/-- From the root a path through the working directory is followed as the rest of it is from there. -/
theorem toOption_follow_here (hw : w.Grounded) (hnamed : w.NamedHere) (names : List String) :
    (follow w.root false (maxLinks + 1) [] (w.here ++ names)).toOption =
      (follow w.root false (maxLinks + 1) w.here names).toOption := by
  refine Option.ext fun l => ?_
  rw [toOption_eq_some_iff, toOption_eq_some_iff, follow_eq_ok_iff, follow_eq_ok_iff,
    leads_below_iff hw hnamed (List.nil_append _)]

theorem zero_not_mem_herePath (hnamed : w.NamedHere) : '\x00' ∉ w.herePath.text.toList := by
  rw [toList_herePath, List.mem_cons, not_or]
  refine ⟨by decide, fun h => ?_⟩
  rcases mem_joinParts h with h | ⟨part, hpart, h⟩
  · exact absurd h (by decide)
  · obtain ⟨name, hname, rfl⟩ := List.mem_map.mp hpart
    exact (hnamed name hname).2.1 h

/-- The components of a path from the root are those of the working directory and then its own. -/
theorem components_herePath_join (hrelative : p.isAbsolute = false) :
    (w.herePath.join p.text).components = w.herePath.components ++ p.tail :=
  components_join hrelative (.inl (herePath_ne_empty w))

section Here

variable (hnamed : w.NamedHere) (hrelative : p.isAbsolute = false)

include hnamed hrelative

theorem isAbsolute_herePath_join : (w.herePath.join p.text).isAbsolute = true := by
  rw [isAbsolute_eq, components_herePath_join hrelative, components_herePath hnamed]
  rfl

/-- The hops of a path from the root are those to the working directory and then its own. -/
theorem hops_herePath_join :
    (w.herePath.join p.text).components.filterMap hop? =
      w.here ++ p.components.filterMap hop? := by
  rw [components_herePath_join hrelative, List.filterMap_append, hops_herePath hnamed,
    components_eq p, List.filterMap_append, filterMap_lead, List.nil_append]

theorem usable_herePath_join (husable : Usable p.text)
    (hshort : (w.herePath.join p.text).text.utf8ByteSize ≤ maxPathSize) :
    Usable (w.herePath.join p.text).text := by
  have hzero := zero_not_mem_join hrelative (zero_not_mem_herePath hnamed) husable.noZero
  refine ⟨hzero, fun hempty => ?_, hshort⟩
  have habs := isAbsolute_herePath_join hnamed hrelative
  rw [isAbsolute, hempty] at habs
  cases habs

/-- A file is found by its path from the root as well. -/
theorem isFile_herePath_join (hw : w.Grounded) (hfile : w.isFile p = true)
    (hshort : (w.herePath.join p.text).text.utf8ByteSize ≤ maxPathSize) :
    w.isFile (w.herePath.join p.text) = true := by
  obtain ⟨l, hlocate, hsign⟩ := isFile_iff.mp hfile
  obtain ⟨before, directory, name, hway⟩ := exists_way hw hlocate hsign
  obtain ⟨ps, hparts, -⟩ := hops_eq_concat hway.hops_eq hway.looksUp.moves
  have hname : IsName name := by
    have hmem : name.toList ∈ partsOf p.text.toList := by
      rw [hparts]
      exact List.mem_append_right _ (List.mem_singleton_self _)
    exact ⟨hway.looksUp.component?, not_mem_of_mem_partsOf hmem⟩
  have husable := (locate_eq_ok_iff.mp hlocate).1
  have hlast {q : Path} (h : (hops q.text).getLast? = some name) :
      ∀ hop ∈ (hops q.text).getLast?, stays hop = false := by
    rw [h]
    rintro hop ⟨⟩
    exact stays_of_isName hname
  -- either path ends in the name of the file, so its components decide where it leads
  have hplast := hlast (q := p) (by rw [hway.hops_eq, List.getLast?_concat])
  have hjlast := hlast (getLast?_hops_join hname hrelative hparts w.herePath)
  have hstart : startOf (w.herePath.join p.text).text w.here = [] := by
    rw [startOf_eq, isAbsolute_herePath_join hnamed hrelative]
    rfl
  have hstart' : startOf p.text w.here = w.here := by
    rw [startOf_eq, hrelative]
    rfl
  rw [isFile_iff]
  refine ⟨l, ?_, hsign⟩
  rw [← toOption_eq_some_iff, toOption_locate (usable_herePath_join hnamed hrelative husable hshort)
    hjlast, hstart, hops_herePath_join hnamed hrelative, toOption_follow_here hw hnamed, ← hstart',
    ← toOption_locate husable hplast, hlocate]
  rfl

end Here

end Workspace

end SourceWeaver.Files
