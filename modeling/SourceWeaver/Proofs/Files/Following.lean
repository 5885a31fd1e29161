/-
  Where paths lead.

  Following a path is given as a relation (`Leads`), with one rule for each kind of hop; it holds
  exactly where `follow` arrives (`follow_eq_ok_iff`), so that a path is reasoned about by induction
  on the way it takes and not on the number of links that are left.

  A path that ends at a file ends in the name of the file or of a link to it, and the hops before
  that name lead to the directory in which it stands (`Leads.exists_entry`).  A path goes through no
  file (`Leads.through_file`), so a tree in which the entry of a file has been replaced takes every
  other path where it led before (`Leads.of_replaced`).
-/

import SourceWeaver.Proofs.Files.Trees
import Mathlib.Data.List.Induction

namespace SourceWeaver.Files

/-! ## Signs -/

/-- What a path meets at a location. -/
inductive Sign where
  | nothing
  | file
  | directory
  | link (target : String)
deriving DecidableEq

/-- What a path meets where this face stands, or nothing does; what a file holds makes no
    difference. -/
def Face.sign : Option Face → Sign
  | none => .nothing
  | some (.file _ _) => .file
  | some .directory => .directory
  | some (.link target) => .link target

/-- What a path meets at a location of a tree. -/
def Node.sign (n : Node) (l : Location) : Sign :=
  Face.sign (n.faceAt? l)

variable {root root' : Node} {creating : Bool} {n k : Nat} {here l m : Location} {hop : String}
  {names rest : List String}

theorem Node.sign_eq_file_iff :
    root.sign l = .file ↔ ∃ content mode, root.faceAt? l = some (.file content mode) := by
  unfold sign
  cases h : root.faceAt? l with
  | none => simp [Face.sign]
  | some f => cases f <;> simp [Face.sign]

theorem Node.sign_eq_directory_iff :
    root.sign l = .directory ↔ root.faceAt? l = some .directory := by
  unfold sign
  cases h : root.faceAt? l with
  | none => simp [Face.sign]
  | some f => cases f <;> simp [Face.sign]

/-- The directory above something is one. -/
theorem Node.sign_dropLast (h : root.sign l = .directory) : root.sign l.dropLast = .directory := by
  cases l using List.reverseRecOn with
  | nil => exact h
  | append_singleton d name =>
    rw [List.dropLast_concat, sign_eq_directory_iff]
    rw [sign_eq_directory_iff] at h
    exact faceAt?_of_faceAt?_append (List.cons_ne_nil name []) h

/-- Where the target of a link starts, there is a directory. -/
theorem sign_startOf (h : root.sign here = .directory) (text : String) :
    root.sign (startOf text here) = .directory := by
  unfold startOf
  split
  · rw [Node.sign_eq_directory_iff] at h ⊢
    cases here with
    | nil => exact h
    | cons name above =>
      exact Node.faceAt?_of_faceAt?_append (l := []) (List.cons_ne_nil name above) h
  · exact h

/-! ## Hops -/

/-- A hop to a name that is looked up. -/
structure LooksUp (creating : Bool) (hop : String) (rest : List String) : Prop where
  moves : stays hop = false
  goesDown : hop ≠ ".."
  opens : ¬(creating = true ∧ rest = [""])
  short : hop.utf8ByteSize ≤ maxNameSize

/-- How following goes on at a name that is looked up. -/
theorem advance_of_looksUp (h : LooksUp creating hop rest)
    (onLink : Location → List String → Except FileError Location) :
    advance root creating onLink here (hop :: rest) =
      match root.sign (here ++ [hop]) with
      | .nothing => if creating && rest.isEmpty then .ok (here ++ [hop]) else .error .notFound
      | .file => if rest.isEmpty then .ok (here ++ [hop]) else .error .notDirectory
      | .directory => advance root creating onLink (here ++ [hop]) rest
      | .link target => onLink (startOf target here) (hops target ++ rest) := by
  -- the name is looked up, so no shortcut before that applies
  have hopens : (creating && decide (rest = [""])) = false := by simpa using h.opens
  have hshort : ¬ maxNameSize < hop.utf8ByteSize := Nat.not_lt.mpr h.short
  rw [advance]
  simp only [h.moves, h.goesDown, hopens, hshort, Bool.false_eq_true, if_false, Node.sign,
    Node.faceAt?]
  cases root.at? (here ++ [hop]) with
  | none => rfl
  | some node => cases node <;> rfl

/-- Names lead from a directory to a location, through at most `n` links. -/
inductive Leads (root : Node) (creating : Bool) :
    Nat → Location → List String → Location → Prop
  | arrive (n : Nat) (here : Location) : Leads root creating n here [] here
  | stay {n : Nat} {here l : Location} {hop : String} {rest : List String}
      (hstays : stays hop = true) (h : Leads root creating n here rest l) :
      Leads root creating n here (hop :: rest) l
  | up {n : Nat} {here l : Location} {rest : List String}
      (h : Leads root creating n here.dropLast rest l) :
      Leads root creating n here (".." :: rest) l
  | enter {n : Nat} {here l : Location} {hop : String} {rest : List String}
      (hlooks : LooksUp creating hop rest) (hsign : root.sign (here ++ [hop]) = .directory)
      (h : Leads root creating n (here ++ [hop]) rest l) :
      Leads root creating n here (hop :: rest) l
  | file {n : Nat} {here : Location} {hop : String}
      (hlooks : LooksUp creating hop []) (hsign : root.sign (here ++ [hop]) = .file) :
      Leads root creating n here [hop] (here ++ [hop])
  | create {n : Nat} {here : Location} {hop : String}
      (hlooks : LooksUp creating hop []) (hcreating : creating = true)
      (hsign : root.sign (here ++ [hop]) = .nothing) :
      Leads root creating n here [hop] (here ++ [hop])
  | link {n : Nat} {here l : Location} {hop target : String} {rest : List String}
      (hlooks : LooksUp creating hop rest) (hsign : root.sign (here ++ [hop]) = .link target)
      (h : Leads root creating n (startOf target here) (hops target ++ rest) l) :
      Leads root creating (n + 1) here (hop :: rest) l

/-- A hop that is taken and goes down is looked up. -/
theorem looksUp_of_advance {onLink : Location → List String → Except FileError Location}
    {hop : String} {rest : List String} (hstays : stays hop ≠ true) (hup : hop ≠ "..")
    (h : advance root creating onLink here (hop :: rest) = .ok l) : LooksUp creating hop rest := by
  have hrefused : ¬(creating = true ∧ rest = [""]) := by
    intro hopens
    rw [advance, if_neg hstays, if_neg hup, if_pos (by simpa using hopens)] at h
    cases h
  refine ⟨Bool.eq_false_iff.mpr hstays, hup, hrefused, Nat.le_of_not_lt fun hlong => ?_⟩
  have hopens : (creating && decide (rest = [""])) = false := by simpa using hrefused
  rw [advance, if_neg hstays, if_neg hup, hopens, if_neg Bool.false_ne_true, if_pos hlong] at h
  cases h

theorem leads_of_advance {onLink : Location → List String → Except FileError Location}
    (honLink : ∀ here names, onLink here names = .ok l →
      ∃ k, n = k + 1 ∧ Leads root creating k here names l)
    (h : advance root creating onLink here names = .ok l) : Leads root creating n here names l := by
  induction names generalizing here with
  | nil =>
    obtain rfl := Except.ok.inj h
    exact .arrive n here
  | cons hop rest ih =>
    -- a hop that stays, one that goes up, and then what stands under the name
    by_cases hstays : stays hop = true
    · rw [advance, if_pos hstays] at h
      exact .stay hstays (ih h)
    by_cases hup : hop = ".."
    · rw [advance, if_neg hstays, if_pos hup] at h
      exact hup ▸ .up (ih h)
    have hlooks := looksUp_of_advance hstays hup h
    rw [advance_of_looksUp hlooks] at h
    cases hsign : root.sign (here ++ [hop]) with
    | nothing =>
      simp only [hsign] at h
      split at h
      · rename_i hlast
        rw [Bool.and_eq_true, List.isEmpty_iff] at hlast
        obtain ⟨hcreating, rfl⟩ := hlast
        obtain rfl := Except.ok.inj h
        exact .create hlooks hcreating hsign
      · cases h
    | file =>
      simp only [hsign] at h
      split at h
      · rename_i hlast
        obtain rfl := List.isEmpty_iff.mp hlast
        obtain rfl := Except.ok.inj h
        exact .file hlooks hsign
      · cases h
    | directory =>
      simp only [hsign] at h
      exact .enter hlooks hsign (ih h)
    | link target =>
      simp only [hsign] at h
      -- behind a link the way goes on with one link less
      obtain ⟨k, rfl, hbehind⟩ := honLink _ _ h
      exact .link hlooks hsign hbehind

theorem leads_of_follow (h : follow root creating (n + 1) here names = .ok l) :
    Leads root creating n here names l := by
  induction n generalizing here names with
  | zero => exact leads_of_advance (fun _ _ hlink => by cases hlink) h
  | succ n ih => exact leads_of_advance (fun _ _ hlink => ⟨n, rfl, ih hlink⟩) h

theorem follow_of_leads (h : Leads root creating n here names l) :
    follow root creating (n + 1) here names = .ok l := by
  induction h with
  | arrive n here => rfl
  | stay hstays _ ih => rw [follow, advance, if_pos hstays]; exact ih
  | up _ ih => rw [follow, advance, if_neg (by decide), if_pos rfl]; exact ih
  | enter hlooks hsign _ ih =>
    rw [follow, advance_of_looksUp hlooks]
    simp only [hsign]
    exact ih
  | file hlooks hsign =>
    rw [follow, advance_of_looksUp hlooks]
    simp only [hsign, List.isEmpty_nil, if_true]
  | create hlooks hcreating hsign =>
    rw [follow, advance_of_looksUp hlooks]
    simp only [hsign, hcreating, List.isEmpty_nil, Bool.and_true, if_true]
  | link hlooks hsign _ ih =>
    rw [follow, advance_of_looksUp hlooks]
    simp only [hsign]
    exact ih

/-- Following arrives exactly where names lead. -/
theorem follow_eq_ok_iff :
    follow root creating (n + 1) here names = .ok l ↔ Leads root creating n here names l :=
  ⟨leads_of_follow, follow_of_leads⟩

/-! ## One hop -/

/-- Where no file is to be created, what comes behind a name makes no difference to looking it
    up. -/
theorem LooksUp.before (h : LooksUp creating hop rest) (names : List String) :
    LooksUp false hop names :=
  ⟨h.moves, h.goesDown, fun hopens => Bool.false_ne_true hopens.1, h.short⟩

theorem Leads.of_stay (h : Leads root creating n here (hop :: rest) l)
    (hstays : stays hop = true) : Leads root creating n here rest l := by
  have hnot {names : List String} (hlooks : LooksUp creating hop names) : False :=
    Bool.false_ne_true (hlooks.moves.symm.trans hstays)
  cases h with
  | stay _ h => exact h
  | up h => exact absurd hstays (by decide)
  | enter hlooks _ _ => exact (hnot hlooks).elim
  | file hlooks _ => exact (hnot hlooks).elim
  | create hlooks _ _ => exact (hnot hlooks).elim
  | link hlooks _ _ => exact (hnot hlooks).elim

theorem Leads.of_up (h : Leads root creating n here (".." :: rest) l) :
    Leads root creating n here.dropLast rest l := by
  cases h with
  | stay hstays _ => exact absurd hstays (by decide)
  | up h => exact h
  | enter hlooks _ _ => exact absurd rfl hlooks.goesDown
  | file hlooks _ => exact absurd rfl hlooks.goesDown
  | create hlooks _ _ => exact absurd rfl hlooks.goesDown
  | link hlooks _ _ => exact absurd rfl hlooks.goesDown

/-- What follows from where names lead if the first of them is looked up. -/
theorem Leads.of_looksUp (h : Leads root creating n here (hop :: rest) l)
    (hlooks : LooksUp creating hop names) :
    match root.sign (here ++ [hop]) with
    | .nothing => creating = true ∧ rest = [] ∧ l = here ++ [hop]
    | .file => rest = [] ∧ l = here ++ [hop]
    | .directory => Leads root creating n (here ++ [hop]) rest l
    | .link target =>
      ∃ k, n = k + 1 ∧ Leads root creating k (startOf target here) (hops target ++ rest) l := by
  cases h with
  | stay hstays _ => exact absurd (hlooks.moves.symm.trans hstays) Bool.false_ne_true
  | up _ => exact absurd rfl hlooks.goesDown
  | enter _ hsign h => rw [hsign]; exact h
  | file _ hsign => rw [hsign]; exact ⟨rfl, rfl⟩
  | create _ hcreating hsign => rw [hsign]; exact ⟨hcreating, rfl, rfl⟩
  | link _ hsign h => rw [hsign]; exact ⟨_, rfl, h⟩

/-! ## The last hop -/

/-- Whether an entry of a directory is a file at a location or a link that leads to it. -/
def Node.Presents (root : Node) (directory : Location) (name : String) (l : Location) : Prop :=
  (root.sign (directory ++ [name]) = .file ∧ l = directory ++ [name]) ∨
    ∃ target k, root.sign (directory ++ [name]) = .link target ∧
      Leads root false k (startOf target directory) (hops target) l

/-- Names that lead to a file end in the name of an entry that presents it, and the names before it
    lead to the directory of the entry. -/
theorem Leads.exists_entry (h : Leads root false n here names l)
    (hhere : root.sign here = .directory) (hl : root.sign l = .file) :
    ∃ before name directory, names = before ++ [name] ∧ LooksUp false name [] ∧
      Leads root false n here before directory ∧ root.sign directory = .directory ∧
      root.Presents directory name l := by
  induction h with
  | arrive n here =>
    rw [hhere] at hl
    cases hl
  | stay hstays _ ih =>
    obtain ⟨before, name, directory, rfl, hname, hleads, hdir, hentry⟩ := ih hhere hl
    exact ⟨_ :: before, name, directory, rfl, hname, .stay hstays hleads, hdir, hentry⟩
  | up _ ih =>
    obtain ⟨before, name, directory, rfl, hname, hleads, hdir, hentry⟩ :=
      ih (Node.sign_dropLast hhere) hl
    exact ⟨_ :: before, name, directory, rfl, hname, .up hleads, hdir, hentry⟩
  | enter hlooks hsign _ ih =>
    obtain ⟨before, name, directory, rfl, hname, hleads, hdir, hentry⟩ := ih hsign hl
    exact ⟨_ :: before, name, directory, rfl, hname, .enter (hlooks.before _) hsign hleads, hdir,
      hentry⟩
  | file hlooks hsign =>
    exact ⟨[], _, _, rfl, hlooks, .arrive _ _, hhere, .inl ⟨hsign, rfl⟩⟩
  | create _ hcreating _ => cases hcreating
  | @link n here l hop target rest hlooks hsign h ih =>
    -- a link in the last place presents the file, and else the entry lies behind the link
    cases rest using List.reverseRecOn with
    | nil =>
      rw [List.append_nil] at h
      exact ⟨[], _, _, rfl, hlooks, .arrive _ _, hhere, .inr ⟨target, n, hsign, h⟩⟩
    | append_singleton more last =>
      obtain ⟨before, name, directory, heq, hname, hleads, hdir, hentry⟩ :=
        ih (sign_startOf hhere target) hl
      rw [← List.append_assoc] at heq
      obtain ⟨rfl, hlast⟩ := List.append_inj' heq rfl
      obtain rfl : last = name := List.singleton_inj.mp hlast
      exact ⟨hop :: more, last, directory, rfl, hname, .link (hlooks.before _) hsign hleads, hdir,
        hentry⟩

/-- Names that lead on by a last hop that goes down lead to a directory without it. -/
theorem Leads.of_concat (h : Leads root false n here (names ++ [hop]) l)
    (hhere : root.sign here = .directory) (hmoves : stays hop = false) (hdown : hop ≠ "..") :
    ∃ directory k, Leads root false n here names directory ∧ root.sign directory = .directory ∧
      Leads root false k directory [hop] l := by
  -- the induction is on the way, and the last hop stays the last all along it
  generalize hall : names ++ [hop] = all at h
  induction h generalizing names with
  | arrive n here => exact absurd hall (List.concat_ne_nil _ _)
  | @stay n here l first rest hstays h ih =>
    rcases List.append_eq_cons_iff.mp hall with ⟨-, heq⟩ | ⟨names', rfl, rfl⟩
    · obtain ⟨rfl, -⟩ := List.cons.inj heq
      exact absurd (hmoves.symm.trans hstays) Bool.false_ne_true
    · obtain ⟨directory, k, hleads, hdir, hlast⟩ := ih hhere rfl
      exact ⟨directory, k, .stay hstays hleads, hdir, hlast⟩
  | up h ih =>
    rcases List.append_eq_cons_iff.mp hall with ⟨-, heq⟩ | ⟨names', rfl, rfl⟩
    · exact absurd (List.cons.inj heq).1 hdown
    · obtain ⟨directory, k, hleads, hdir, hlast⟩ := ih (Node.sign_dropLast hhere) rfl
      exact ⟨directory, k, .up hleads, hdir, hlast⟩
  | @enter n here l first rest hlooks hsign h ih =>
    rcases List.append_eq_cons_iff.mp hall with ⟨rfl, heq⟩ | ⟨names', rfl, rfl⟩
    · obtain ⟨rfl, rfl⟩ := List.cons.inj heq
      exact ⟨here, n, .arrive n here, hhere, .enter hlooks hsign h⟩
    · obtain ⟨directory, k, hleads, hdir, hlast⟩ := ih hsign rfl
      exact ⟨directory, k, .enter (hlooks.before _) hsign hleads, hdir, hlast⟩
  | @file n here first hlooks hsign =>
    rcases List.append_eq_cons_iff.mp hall with ⟨rfl, heq⟩ | ⟨names', -, hnil⟩
    · obtain ⟨rfl, -⟩ := List.cons.inj heq
      exact ⟨here, n, .arrive n here, hhere, .file hlooks hsign⟩
    · exact absurd hnil.symm (List.concat_ne_nil _ _)
  | create _ hcreating _ => cases hcreating
  | @link n here l first target rest hlooks hsign h ih =>
    rcases List.append_eq_cons_iff.mp hall with ⟨rfl, heq⟩ | ⟨names', rfl, rfl⟩
    · obtain ⟨rfl, rfl⟩ := List.cons.inj heq
      exact ⟨here, n + 1, .arrive _ here, hhere, .link hlooks hsign h⟩
    · obtain ⟨directory, k, hleads, hdir, hlast⟩ :=
        ih (sign_startOf hhere target) (List.append_assoc ..)
      exact ⟨directory, k, .link (hlooks.before _) hsign hleads, hdir, hlast⟩

/-- No way goes on behind a file. -/
theorem Leads.through_file {r : Location} (h : Leads root false k here names m)
    (hhere : root.sign here = .directory) (hm : root.sign m = .file)
    (h' : Leads root false n here (names ++ rest) r) : rest = [] ∧ r = m := by
  induction h generalizing n with
  | arrive k here =>
    rw [hhere] at hm
    cases hm
  | stay hstays _ ih => exact ih hhere hm (h'.of_stay hstays)
  | up _ ih => exact ih (Node.sign_dropLast hhere) hm h'.of_up
  | enter hlooks hsign _ ih =>
    have hnext := h'.of_looksUp hlooks
    rw [hsign] at hnext
    exact ih hsign hm hnext
  | file hlooks hsign =>
    have hnext := h'.of_looksUp hlooks
    rw [hsign] at hnext
    exact hnext
  | create _ hcreating _ => cases hcreating
  | link hlooks hsign _ ih =>
    rw [List.cons_append] at h'
    have hnext := h'.of_looksUp hlooks
    rw [hsign] at hnext
    -- both ways go on behind the same link, with the rest of their names
    obtain ⟨n, rfl, hnext⟩ := hnext
    rw [← List.append_assoc] at hnext
    exact ih (sign_startOf hhere _) hm hnext

/-- What is neither a directory nor followed further stands in a directory. -/
theorem Leads.exists_directory (h : Leads root creating n here names l)
    (hhere : root.sign here = .directory) (hl : root.sign l ≠ .directory) :
    ∃ directory name, l = directory ++ [name] ∧ root.sign directory = .directory := by
  induction h with
  | arrive n here => exact absurd hhere hl
  | stay _ _ ih => exact ih hhere hl
  | up _ ih => exact ih (Node.sign_dropLast hhere) hl
  | enter _ hsign _ ih => exact ih hsign hl
  | file _ _ => exact ⟨_, _, rfl, hhere⟩
  | create _ _ _ => exact ⟨_, _, rfl, hhere⟩
  | link _ _ _ ih => exact ih (sign_startOf hhere _) hl

/-- No way ends at a link. -/
theorem Leads.sign_ne_link (h : Leads root creating n here names l)
    (hhere : root.sign here = .directory) (target : String) : root.sign l ≠ .link target := by
  -- a way ends at a directory, a file or nothing, for links are followed to their ends
  induction h with
  | arrive n here =>
    rw [hhere]
    exact Sign.noConfusion
  | stay _ _ ih => exact ih hhere
  | up _ ih => exact ih (Node.sign_dropLast hhere)
  | enter _ hsign _ ih => exact ih hsign
  | file _ hsign =>
    rw [hsign]
    exact Sign.noConfusion
  | create _ _ hsign =>
    rw [hsign]
    exact Sign.noConfusion
  | link _ _ _ ih => exact ih (sign_startOf hhere _)

/-! ## Hops at the end that stay -/

variable {staying : List String}

theorem Leads.append_stays (h : Leads root false n here names l)
    (hl : root.sign l = .directory) (hstays : ∀ hop ∈ staying, stays hop = true) :
    Leads root false n here (names ++ staying) l := by
  induction h with
  | arrive n here =>
    -- there is nowhere left to go but to stay
    rw [List.nil_append]
    induction staying with
    | nil => exact .arrive n here
    | cons hop rest ih =>
      exact .stay (hstays hop (List.mem_cons_self ..))
        (ih fun z hz => hstays z (List.mem_cons_of_mem _ hz))
  | stay hstay _ ih => exact .stay hstay (ih hl)
  | up _ ih => exact .up (ih hl)
  | enter hlooks hsign _ ih => exact .enter (hlooks.before _) hsign (ih hl)
  | file _ hsign =>
    rw [hl] at hsign
    cases hsign
  | create _ hcreating _ => cases hcreating
  | link hlooks hsign _ ih =>
    have hbehind := ih hl
    rw [List.append_assoc] at hbehind
    exact .link (hlooks.before _) hsign hbehind

/-- A hop that does not stay comes before the hops at the end that do. -/
theorem exists_of_append_eq_cons (heq : names ++ staying = hop :: rest)
    (hstays : ∀ hop ∈ staying, stays hop = true) (hmoves : stays hop = false) :
    ∃ names', names = hop :: names' ∧ rest = names' ++ staying := by
  match names with
  | [] =>
    rw [List.nil_append] at heq
    have hmem : hop ∈ staying := heq ▸ List.mem_cons_self ..
    exact absurd (hmoves.symm.trans (hstays hop hmem)) Bool.false_ne_true
  | first :: names' =>
    rw [List.cons_append, List.cons.injEq] at heq
    obtain ⟨rfl, rfl⟩ := heq
    exact ⟨names', rfl, rfl⟩

theorem Leads.of_append_stays (h : Leads root false n here (names ++ staying) l)
    (hl : root.sign l = .directory) (hstays : ∀ hop ∈ staying, stays hop = true) :
    Leads root false n here names l := by
  -- the induction is on the way, so the names that it takes must be a variable
  generalize hall : names ++ staying = all at h
  induction h generalizing names staying with
  | arrive n here =>
    obtain ⟨rfl, -⟩ := List.append_eq_nil_iff.mp hall
    exact .arrive n here
  | stay hstay _ ih =>
    match names with
    | [] =>
      rw [List.nil_append] at hall
      subst hall
      exact ih hl (fun z hz => hstays z (List.mem_cons_of_mem _ hz)) (List.nil_append _)
    | first :: names' =>
      rw [List.cons_append, List.cons.injEq] at hall
      obtain ⟨rfl, rfl⟩ := hall
      exact .stay hstay (ih hl hstays rfl)
  | up _ ih =>
    obtain ⟨names', rfl, hrest⟩ := exists_of_append_eq_cons hall hstays (by decide)
    exact .up (ih hl hstays hrest.symm)
  | enter hlooks hsign _ ih =>
    obtain ⟨names', rfl, hrest⟩ := exists_of_append_eq_cons hall hstays hlooks.moves
    exact .enter (hlooks.before _) hsign (ih hl hstays hrest.symm)
  | file _ hsign =>
    rw [hl] at hsign
    cases hsign
  | create _ hcreating _ => cases hcreating
  | link hlooks hsign _ ih =>
    obtain ⟨names', rfl, rfl⟩ := exists_of_append_eq_cons hall hstays hlooks.moves
    exact .link (hlooks.before _) hsign (ih hl hstays (List.append_assoc ..))

/-! ## Trees that differ in one place -/

variable {e : Location} {name : String}

/-- The way to a directory is the same in a tree where the entry of a file has been replaced. -/
theorem Leads.of_replaced (h : Leads root false n here names l)
    (hhere : root.sign here = .directory) (hl : root.sign l = .directory)
    (hsame : ∀ m, m ≠ e → root'.sign m = root.sign m) (he : root.sign e ≠ .directory)
    (hlink : ∀ target, root.sign e = .link target →
      ∃ k m, Leads root false k (startOf target e.dropLast) (hops target) m ∧
        root.sign m = .file) :
    Leads root' false n here names l := by
  induction h with
  | arrive n here => exact .arrive n here
  | stay hstays _ ih => exact .stay hstays (ih hhere hl)
  | up _ ih => exact .up (ih (Node.sign_dropLast hhere) hl)
  | @enter n here l hop rest hlooks hsign _ ih =>
    have hne : here ++ [hop] ≠ e := fun heq => he (heq ▸ hsign)
    exact .enter hlooks ((hsame _ hne).trans hsign) (ih hsign hl)
  | file _ hsign =>
    rw [hl] at hsign
    cases hsign
  | create _ hcreating _ => cases hcreating
  | @link n here l hop target rest hlooks hsign hbehind ih =>
    have hne : here ++ [hop] ≠ e := by
      rintro rfl
      -- the link leads to a file, so no way leads through it to a directory
      obtain ⟨k, m, hfile, hm⟩ := hlink target hsign
      rw [List.dropLast_concat] at hfile
      obtain ⟨-, rfl⟩ := hfile.through_file (sign_startOf hhere target) hm hbehind
      rw [hl] at hm
      cases hm
    exact .link hlooks ((hsame _ hne).trans hsign) (ih (sign_startOf hhere target) hl)

/-- Names that lead to a directory lead on to a file in it. -/
theorem Leads.concat_file (h : Leads root false n here names l) (hl : root.sign l = .directory)
    (hname : LooksUp false name []) (hfile : root.sign (l ++ [name]) = .file) :
    Leads root false n here (names ++ [name]) (l ++ [name]) := by
  induction h with
  | arrive n here => exact .file hname hfile
  | stay hstays _ ih => exact .stay hstays (ih hl hfile)
  | up _ ih => exact .up (ih hl hfile)
  | enter hlooks hsign _ ih => exact .enter (hlooks.before _) hsign (ih hl hfile)
  -- the way ends at a directory, so its last step is no file
  | file _ hsign =>
    rw [hl] at hsign
    cases hsign
  | create _ hcreating _ => cases hcreating
  | link hlooks hsign _ ih =>
    -- the target of the link stands in front of both ways
    have hbehind := ih hl hfile
    rw [List.append_assoc] at hbehind
    exact .link (hlooks.before _) hsign hbehind

/-- The way to a file that is written or made is the way to it afterwards. -/
theorem Leads.of_written (h : Leads root true n here names e)
    (hhere : root.sign here = .directory) (he : root.sign e ≠ .directory)
    (hlink : ∀ target, root.sign e ≠ .link target)
    (hsame : ∀ m, m ≠ e → root'.sign m = root.sign m) (hfile : root'.sign e = .file) :
    Leads root' false n here names e := by
  induction h with
  | arrive n here => exact absurd hhere he
  | stay hstays _ ih => exact .stay hstays (ih hhere he hlink hsame hfile)
  | up _ ih => exact .up (ih (Node.sign_dropLast hhere) he hlink hsame hfile)
  | @enter n here l hop rest hlooks hsign _ ih =>
    have hne : here ++ [hop] ≠ l := fun heq => he (heq ▸ hsign)
    exact .enter (hlooks.before _) ((hsame _ hne).trans hsign) (ih hsign he hlink hsame hfile)
  | file hlooks _ => exact .file (hlooks.before _) hfile
  | create hlooks _ _ =>
    -- the file that was made is found
    exact .file (hlooks.before _) hfile
  | @link n here l hop target rest hlooks hsign _ ih =>
    have hne : here ++ [hop] ≠ l := fun heq => hlink target (heq ▸ hsign)
    exact .link (hlooks.before _) ((hsame _ hne).trans hsign)
      (ih (sign_startOf hhere target) he hlink hsame hfile)

theorem advance_congr (h : ∀ m, root'.sign m = root.sign m)
    (onLink : Location → List String → Except FileError Location) (here : Location)
    (names : List String) :
    advance root' creating onLink here names = advance root creating onLink here names := by
  induction names generalizing here with
  | nil => rfl
  | cons hop rest ih =>
    -- the steps before the look-up do not look at the tree
    by_cases hstays : stays hop = true
    · rw [advance, advance, if_pos hstays, if_pos hstays, ih]
    by_cases hup : hop = ".."
    · rw [advance, advance, if_neg hstays, if_neg hstays, if_pos hup, if_pos hup, ih]
    by_cases hrefused : (creating && decide (rest = [""])) = true
    · rw [advance, advance, if_neg hstays, if_neg hstays, if_neg hup, if_neg hup, if_pos hrefused,
        if_pos hrefused]
    by_cases hlong : maxNameSize < hop.utf8ByteSize
    · rw [advance, advance, if_neg hstays, if_neg hstays, if_neg hup, if_neg hup, if_neg hrefused,
        if_neg hrefused, if_pos hlong, if_pos hlong]
    · have hlooks : LooksUp creating hop rest :=
        ⟨Bool.eq_false_iff.mpr hstays, hup, by simpa using hrefused, Nat.not_lt.mp hlong⟩
      rw [advance_of_looksUp hlooks, advance_of_looksUp hlooks, h]
      cases root.sign (here ++ [hop]) with
      | nothing => rfl
      | file => rfl
      | directory => exact ih _
      | link target => rfl

/-- Paths lead to the same places, or fail alike, in trees that show them the same. -/
theorem follow_congr (h : ∀ m, root'.sign m = root.sign m) (n : Nat) (here : Location)
    (names : List String) :
    follow root' creating n here names = follow root creating n here names := by
  induction n generalizing here names with
  | zero => rfl
  | succ n ih =>
    -- with one link less to follow both go on alike
    have honLink : follow root' creating n = follow root creating n :=
      funext fun here => funext fun names => ih here names
    rw [follow, follow, honLink, advance_congr h]

end SourceWeaver.Files
