/-
  Paths by their components.

  Joining a path to a directory appends its components to those of the directory
  (`components_join`), and going up drops the last one (`components_of_parent?`) until there is none
  but the root (`parent?_eq_none_iff`).  So the directories above a path have the beginnings of its
  components, from the longest to the shortest (`map_components_ancestors`), and no two of them are
  the same (`pairwise_ancestors`).
-/

import SourceWeaver.Proofs.Path.Parts

namespace SourceWeaver.Path

variable {p q : Path} {below : String} {ps : List (List Char)}

/-! ## How paths begin -/

/-- What a path begins with apart from names: the root, a dot, or nothing. -/
def lead (p : Path) : List Component :=
  if p.isAbsolute then [.root] else if p.startsAtDot then [.current] else []

/-- The components of some parts, wherever they stand. -/
def componentsOf (ps : List (List Char)) : List Component :=
  ps.filterMap component?

/-- The components of a path behind those that it begins with. -/
def tail (p : Path) : List Component :=
  componentsOf (partsOf p.text.toList)

theorem components_eq (p : Path) : p.components = p.lead ++ p.tail := rfl

theorem componentsOf_append (ps qs : List (List Char)) :
    componentsOf (ps ++ qs) = componentsOf ps ++ componentsOf qs :=
  List.filterMap_append

theorem componentsOf_eq_nil_iff : componentsOf ps = [] ↔ ∀ part ∈ ps, component? part = none :=
  List.filterMap_eq_nil_iff

theorem componentsOf_trimParts (ps : List (List Char)) :
    componentsOf (trimParts ps) = componentsOf ps := by
  obtain ⟨dropped, hdropped, hnothing⟩ := exists_trimmed ps
  rw [congrArg componentsOf hdropped, componentsOf_append, componentsOf_eq_nil_iff.mpr hnothing,
    List.append_nil]

/-- What is left of trimmed parts ends in a component. -/
theorem exists_trimmed_concat (h : trimParts ps ≠ []) :
    ∃ before last c, trimParts ps = before ++ [last] ∧ component? last = some c := by
  have hlast := List.rdropWhile_last_not _ ps h
  obtain ⟨c, hc⟩ := Option.ne_none_iff_exists'.mp (mt Option.isNone_iff_eq_none.mpr hlast)
  exact ⟨_, _, c, (List.dropLast_append_getLast h).symm, hc⟩

theorem trimParts_eq_nil_iff : trimParts ps = [] ↔ componentsOf ps = [] := by
  rw [← componentsOf_trimParts]
  constructor
  · intro h
    rw [h]
    rfl
  · intro h
    by_contra hne
    -- what trimming keeps ends in a part that spells a component
    obtain ⟨before, last, c, htrim, hc⟩ := exists_trimmed_concat hne
    rw [htrim, componentsOf_eq_nil_iff] at h
    rw [h last (List.mem_append_right _ (List.mem_singleton_self last))] at hc
    cases hc

theorem prefix_dropLast_trimParts (ps : List (List Char)) :
    trimParts (trimParts ps).dropLast <+: ps :=
  (List.rdropWhile_prefix _ _).trans ((List.dropLast_prefix _).trans (List.rdropWhile_prefix _ _))

/-- Parts without the last one that is a component. -/
theorem componentsOf_dropLast_trimParts (ps : List (List Char)) :
    componentsOf (trimParts (trimParts ps).dropLast) = (componentsOf ps).dropLast := by
  rw [componentsOf_trimParts]
  by_cases h : trimParts ps = []
  · rw [trimParts_eq_nil_iff.mp h, h]
    rfl
  · obtain ⟨before, last, c, htrim, hc⟩ := exists_trimmed_concat h
    have hlast : componentsOf [last] = [c] := by rw [componentsOf, List.filterMap_cons_some hc]; rfl
    rw [← componentsOf_trimParts ps, htrim, List.dropLast_concat, componentsOf_append, hlast,
      List.dropLast_concat]

theorem componentsOf_partsOf_joinParts (h : ∀ part ∈ ps, '/' ∉ part) :
    componentsOf (partsOf (joinParts ps)) = componentsOf ps := by
  by_cases hps : ps = []
  · rw [hps]
    rfl
  · rw [partsOf_joinParts hps h]

/-! ## Joining -/

/-- A path that goes on behind another one, with the same first part, begins in the same way. -/
theorem lead_of_prefix {rest : List Char} (hne : p.text ≠ "")
    (hparts : (partsOf q.text.toList).head? = (partsOf p.text.toList).head?)
    (h : q.text.toList = p.text.toList ++ rest) : q.lead = p.lead := by
  have hhead : q.text.toList.head? = p.text.toList.head? := by
    rw [h, List.head?_append_of_ne_nil _ (by simpa using hne)]
  rw [lead, lead, isAbsolute, isAbsolute, startsAtDot, startsAtDot, hhead, hparts]

/-- Between a directory and what is below it there is at most a separator. -/
theorem text_join (hrelative : (⟨below⟩ : Path).isAbsolute = false) (p : Path) :
    ∃ separator, (separator = "" ∨ separator = "/") ∧
      (p.join below).text = p.text ++ separator ++ below := by
  have hbelow : ¬(below.toList.head? == some '/') = true := Bool.eq_false_iff.mp hrelative
  rw [join, if_neg hbelow]
  split
  · exact ⟨"", .inl rfl, by rw [String.append_empty]⟩
  · exact ⟨"/", .inr rfl, rfl⟩

theorem prefix_join (hrelative : (⟨below⟩ : Path).isAbsolute = false) (p : Path) :
    p.text.toList <+: (p.join below).text.toList := by
  obtain ⟨separator, -, htext⟩ := text_join hrelative p
  rw [htext, String.toList_append, String.toList_append, List.append_assoc]
  exact List.prefix_append _ _

theorem join_ne_empty (hrelative : (⟨below⟩ : Path).isAbsolute = false) (hne : below ≠ "")
    (p : Path) : (p.join below).text ≠ "" := by
  obtain ⟨separator, -, htext⟩ := text_join hrelative p
  intro h
  rw [htext, ← String.toList_inj, String.toList_append] at h
  exact hne (String.toList_inj.mp (List.append_eq_nil_iff.mp h).2)

/-- The parts of a path below a directory that has a text are those of the directory, but for an
    empty one at their end, and then its own. -/
theorem partsOf_join_of_ne_empty (hrelative : (⟨below⟩ : Path).isAbsolute = false)
    (hne : p.text ≠ "") :
    ∃ ps rest, partsOf (p.join below).text.toList = ps ++ partsOf below.toList ∧
      (p.join below).text.toList = p.text.toList ++ rest ∧ componentsOf ps = p.tail ∧
      ps.head? = (partsOf p.text.toList).head? := by
  have hbelow : ¬(below.toList.head? == some '/') = true := Bool.eq_false_iff.mp hrelative
  by_cases hends : (p.text.toList.getLast? == some '/') = true
  -- a path that ends in a separator is joined as it stands, and its last part is empty
  · obtain ⟨cs, hcs⟩ := List.getLast?_eq_some_iff.mp (eq_of_beq hends)
    have hjoin : (p.join below).text.toList = cs ++ '/' :: below.toList := by
      rw [join, if_neg hbelow, if_pos (by rw [hends, Bool.or_true]), String.toList_append, hcs,
        List.append_assoc]
      rfl
    have hfront : partsOf p.text.toList = partsOf cs ++ [[]] := by
      rw [hcs, partsOf_append_separator]
      rfl
    refine ⟨partsOf cs, below.toList, ?_, ?_, ?_, ?_⟩
    · rw [hjoin, partsOf_append_separator]
    · rw [hjoin, hcs, List.append_assoc]
      rfl
    · rw [tail, hfront, componentsOf_append]
      exact (List.append_nil _).symm
    · rw [hfront, List.head?_append_of_ne_nil _ (partsOf_ne_nil cs)]
  -- any other path is given a separator
  · have hjoin : (p.join below).text.toList = p.text.toList ++ '/' :: below.toList := by
      have hopen : ¬(p.text == "" || p.text.toList.getLast? == some '/') = true := by
        simpa [hne] using hends
      rw [join, if_neg hbelow, if_neg hopen, String.toList_append, String.toList_append,
        List.append_assoc]
      rfl
    exact ⟨partsOf p.text.toList, '/' :: below.toList, by rw [hjoin, partsOf_append_separator],
      hjoin, rfl, rfl⟩

/-- The components of a path below a directory are those of the directory and then its own. -/
theorem components_join (hrelative : (⟨below⟩ : Path).isAbsolute = false)
    (hne : p.text ≠ "" ∨ (⟨below⟩ : Path).startsAtDot = false) :
    (p.join below).components = p.components ++ (⟨below⟩ : Path).tail := by
  by_cases hempty : p.text = ""
  -- below the empty path a path stays what it is, so a dot at its beginning would count
  · obtain rfl : p = ⟨""⟩ := congrArg Path.mk hempty
    have hbelow : ¬(below.toList.head? == some '/') = true := Bool.eq_false_iff.mp hrelative
    have hjoin : join ⟨""⟩ below = ⟨below⟩ := by
      rw [join, if_neg hbelow, if_pos (by decide), String.empty_append]
    have hlead : (⟨below⟩ : Path).lead = [] := by
      rw [lead, hrelative, hne.resolve_left (not_not_intro rfl)]
      rfl
    rw [hjoin, components_eq, hlead]
    rfl
  · obtain ⟨ps, rest, hparts, hrest, htail, hhead⟩ := partsOf_join_of_ne_empty hrelative hempty
    have hne : ps ≠ [] := by
      intro hnil
      rw [hnil] at hhead
      exact partsOf_ne_nil _ (List.head?_eq_none_iff.mp hhead.symm)
    have hlead : (p.join below).lead = p.lead := by
      refine lead_of_prefix hempty ?_ hrest
      rw [hparts, List.head?_append_of_ne_nil _ hne, hhead]
    rw [components_eq, components_eq, hlead, tail, hparts, componentsOf_append, htail,
      List.append_assoc]
    rfl

/-! ## Going up -/

/-- The number of characters at the beginning of a path that going up never drops. -/
def fixedSize (p : Path) : Nat :=
  if p.isAbsolute || p.startsAtDot then 1 else 0

/-- The parts of a path behind those characters. -/
def looseParts (p : Path) : List (List Char) :=
  partsOf (p.text.toList.drop p.fixedSize)

/-- A path that begins as another one does, with some of its parts. -/
def withParts (p : Path) (kept : List (List Char)) : Path :=
  ⟨String.ofList (p.text.toList.take p.fixedSize ++ joinParts kept)⟩

theorem parent?_eq (p : Path) :
    p.parent? =
      if trimParts p.looseParts = [] then
        if p.startsAtDot && !p.isAbsolute then some ⟨""⟩ else none
      else some (p.withParts (trimParts (trimParts p.looseParts).dropLast)) := by
  -- the characters the definition cuts into parts are those of `looseParts`
  have hloose : partsOf (p.text.toList.drop (if p.isAbsolute || p.startsAtDot then 1 else 0)) =
      p.looseParts := rfl
  unfold parent?
  dsimp only
  rw [hloose]
  cases trimParts p.looseParts with
  | nil => rfl
  | cons part parts => rfl

theorem absolute_text (h : p.isAbsolute = true) : ∃ cs, p.text.toList = '/' :: cs :=
  List.head?_eq_some_iff.mp (eq_of_beq h)

theorem fixedSize_of_absolute (h : p.isAbsolute = true) : p.fixedSize = 1 := by
  rw [fixedSize, h]
  rfl

theorem fixedSize_of_dot (h : p.startsAtDot = true) : p.fixedSize = 1 := by
  rw [fixedSize, h, Bool.or_true]
  rfl

theorem fixedSize_of_relative (habs : p.isAbsolute = false) (hdot : p.startsAtDot = false) :
    p.fixedSize = 0 := by
  rw [fixedSize, habs, hdot]
  rfl

/-- Behind a dot at the beginning the parts are the same, but for an empty one in its place. -/
theorem looseParts_of_dot (hdot : p.startsAtDot = true) :
    ∃ ps, partsOf p.text.toList = ['.'] :: ps ∧ p.looseParts = [] :: ps ∧
      p.text.toList.take p.fixedSize = ['.'] := by
  obtain ⟨ps, hps⟩ := List.head?_eq_some_iff.mp (eq_of_beq hdot)
  have hmem (part : List Char) (hpart : part ∈ ps) : '/' ∉ part :=
    not_mem_of_mem_partsOf (hps ▸ List.mem_cons_of_mem _ hpart)
  have htext := joinParts_partsOf p.text.toList
  rw [hps] at htext
  rw [looseParts, fixedSize_of_dot hdot, ← htext]
  -- without the dot the text is empty or begins with a separator: an empty part either way
  by_cases hnil : ps = []
  · rw [hnil]
    exact ⟨[], rfl, rfl, rfl⟩
  · rw [joinParts_cons hnil]
    refine ⟨ps, ?_, ?_, rfl⟩
    · rw [← joinParts_cons hnil, htext, hps]
    · exact (partsOf_separator _).trans (by rw [partsOf_joinParts hnil hmem])

theorem tail_eq (p : Path) : p.tail = componentsOf p.looseParts := by
  by_cases habs : p.isAbsolute = true
  · obtain ⟨cs, hcs⟩ := absolute_text habs
    rw [tail, looseParts, fixedSize_of_absolute habs, hcs, partsOf_separator]
    rfl
  · by_cases hdot : p.startsAtDot = true
    · obtain ⟨ps, hparts, hloose, -⟩ := looseParts_of_dot hdot
      rw [tail, hparts, hloose]
      rfl
    · rw [looseParts, fixedSize_of_relative (Bool.eq_false_iff.mpr habs) (Bool.eq_false_iff.mpr hdot)]
      rfl

theorem toList_withParts (p : Path) (kept : List (List Char)) :
    (p.withParts kept).text.toList = p.text.toList.take p.fixedSize ++ joinParts kept :=
  String.toList_ofList

section WithParts

variable {kept : List (List Char)} (h : kept <+: p.looseParts)

include h

/-- Such a path is how the other one begins. -/
theorem prefix_withParts : (p.withParts kept).text.toList <+: p.text.toList := by
  obtain ⟨more, hmore⟩ := h
  have hfront : joinParts kept <+: p.text.toList.drop p.fixedSize := by
    rw [← joinParts_partsOf (p.text.toList.drop p.fixedSize), ← looseParts, ← hmore]
    exact joinParts_prefix_append kept more
  obtain ⟨rest, hrest⟩ := hfront
  refine ⟨rest, ?_⟩
  rw [toList_withParts, List.append_assoc, hrest, List.take_append_drop]

theorem not_mem_of_mem_kept : ∀ part ∈ kept, '/' ∉ part := fun _ hpart =>
  not_mem_of_mem_partsOf (h.subset hpart)

theorem components_withParts_of_absolute (habs : p.isAbsolute = true) :
    (p.withParts kept).components = .root :: componentsOf kept := by
  obtain ⟨cs, hcs⟩ := absolute_text habs
  have htext : (p.withParts kept).text.toList = '/' :: joinParts kept := by
    rw [toList_withParts, fixedSize_of_absolute habs, hcs]
    rfl
  -- the separator in front stays, so the shortened path is absolute as well
  have habs' : (p.withParts kept).isAbsolute = true := by
    rw [isAbsolute, htext]
    rfl
  rw [components_eq, lead, if_pos habs', tail, htext, partsOf_separator,
    ← componentsOf_partsOf_joinParts (not_mem_of_mem_kept h)]
  rfl

theorem components_withParts_of_dot (hdot : p.startsAtDot = true) :
    (p.withParts kept).components = .current :: componentsOf kept := by
  obtain ⟨ps, -, hloose, hfront⟩ := looseParts_of_dot hdot
  have htext := toList_withParts p kept
  rw [hfront, List.singleton_append] at htext
  cases kept with
  | nil =>
    have hpath : p.withParts [] = ⟨"."⟩ := congrArg Path.mk (String.toList_inj.mp htext)
    rw [hpath]
    decide +kernel
  | cons first rest =>
    -- the first of the parts is the empty one that stands in the place of the dot
    have hseparator := not_mem_of_mem_kept h
    rw [hloose, List.cons_prefix_cons] at h
    obtain ⟨rfl, -⟩ := h
    have hspelled : (p.withParts ([] :: rest)).text.toList = joinParts (['.'] :: rest) := by
      rw [htext]
      by_cases hrest : rest = []
      · rw [hrest]
        rfl
      · rw [joinParts_cons hrest, joinParts_cons hrest]
        rfl
    have hparts : partsOf (p.withParts ([] :: rest)).text.toList = ['.'] :: rest := by
      rw [hspelled]
      refine partsOf_joinParts (List.cons_ne_nil _ _) fun part hpart => ?_
      rcases List.mem_cons.mp hpart with rfl | hpart
      · decide
      · exact hseparator part (List.mem_cons_of_mem _ hpart)
    have habs : ¬(p.withParts ([] :: rest)).isAbsolute = true := by
      rw [isAbsolute, htext, List.head?_cons]
      decide
    rw [components_eq, lead, if_neg habs, if_pos (startsAtDot_of_parts hparts), tail, hparts]
    rfl

theorem components_withParts_of_relative (habs : p.isAbsolute = false)
    (hdot : p.startsAtDot = false) : (p.withParts kept).components = componentsOf kept := by
  have hfixed := fixedSize_of_relative habs hdot
  have htext : (p.withParts kept).text.toList = joinParts kept := by
    rw [toList_withParts, hfixed]
    rfl
  have hloose : p.looseParts = partsOf p.text.toList := by
    rw [looseParts, hfixed]
    rfl
  -- what is kept is a beginning of the text, so it starts as the path does
  have hfront : joinParts kept <+: p.text.toList := by
    obtain ⟨more, hmore⟩ := h
    rw [← joinParts_partsOf p.text.toList, ← hloose, ← hmore]
    exact joinParts_prefix_append kept more
  -- no separator and no dot can come to the front when parts are taken off behind
  have habs' : (p.withParts kept).isAbsolute = false := by
    obtain ⟨rest, hrest⟩ := hfront
    rw [isAbsolute, htext]
    cases hjoin : joinParts kept with
    | nil => rfl
    | cons c cs =>
      rw [isAbsolute, ← hrest, hjoin] at habs
      exact habs
  have hdot' : (p.withParts kept).startsAtDot = false := by
    cases kept with
    | nil =>
      rw [startsAtDot, htext]
      decide
    | cons first rest =>
      have hseparator := not_mem_of_mem_kept h
      obtain ⟨more, hmore⟩ := h
      rw [startsAtDot, ← hloose, ← hmore] at hdot
      rw [startsAtDot, htext, partsOf_joinParts (List.cons_ne_nil _ _) hseparator]
      exact hdot
  rw [components_eq, lead, habs', hdot', tail, htext,
    componentsOf_partsOf_joinParts (not_mem_of_mem_kept h)]
  rfl

/-- A path with some of the parts of another one, from the first on, begins in the same way and has
    their components behind that. -/
theorem components_withParts : (p.withParts kept).components = p.lead ++ componentsOf kept := by
  rw [lead]
  by_cases habs : p.isAbsolute = true
  · rw [if_pos habs, components_withParts_of_absolute h habs]
    rfl
  · by_cases hdot : p.startsAtDot = true
    · rw [if_neg habs, if_pos hdot, components_withParts_of_dot h hdot]
      rfl
    · rw [if_neg habs, if_neg hdot]
      exact components_withParts_of_relative h (Bool.eq_false_iff.mpr habs)
        (Bool.eq_false_iff.mpr hdot)

end WithParts

/-- The directory of a path has all components of the path but the last one. -/
theorem components_of_parent? (h : p.parent? = some q) :
    q.components = p.components.dropLast := by
  rw [parent?_eq] at h
  rw [components_eq p, tail_eq]
  split at h
  -- nothing but the lead is left: only a leading dot still has a parent, the empty path
  · next hnil =>
    split at h
    · next hdot =>
      rw [Bool.and_eq_true, Bool.not_eq_true'] at hdot
      obtain rfl := Option.some.inj h
      rw [trimParts_eq_nil_iff.mp hnil, lead, hdot.2, if_neg Bool.false_ne_true, if_pos hdot.1]
      rfl
    · cases h
  -- else the last part is dropped, and it spells the last component
  · next hne =>
    obtain rfl := Option.some.inj h
    have htail : componentsOf p.looseParts ≠ [] := mt trimParts_eq_nil_iff.mpr hne
    rw [components_withParts (prefix_dropLast_trimParts _), componentsOf_dropLast_trimParts,
      List.dropLast_append_of_ne_nil htail]

theorem root_not_mem_tail (p : Path) : Component.root ∉ p.tail := by
  intro h
  obtain ⟨part, -, hpart⟩ := List.mem_filterMap.mp h
  unfold component? at hpart
  grind

theorem isAbsolute_eq (p : Path) : p.isAbsolute = (p.components.head? == some .root) := by
  have hroot := root_not_mem_tail p
  rw [components_eq, lead]
  cases p.isAbsolute with
  | true => rfl
  | false =>
    cases p.startsAtDot with
    | true => rfl
    | false =>
      -- no lead: the first component comes from a part, and no part spells the root
      cases htail : p.tail with
      | nil => rfl
      | cons c rest =>
        rw [htail, List.mem_cons, not_or] at hroot
        simpa using Ne.symm hroot.1

theorem lead_of_relative (h : p.isAbsolute = false) : p.lead = [] ∨ p.lead = [.current] := by
  rw [lead, h]
  cases p.startsAtDot with
  | true => exact .inr rfl
  | false => exact .inl rfl

/-- The name of a path comes behind what the path begins with. -/
theorem tail_ne_nil_of_fileName? {name : String} (h : p.fileName? = some name) : p.tail ≠ [] := by
  intro htail
  rw [fileName?, components_eq, htail, List.append_nil] at h
  cases habs : p.isAbsolute with
  | true =>
    rw [lead, habs] at h
    cases h
  | false => rcases lead_of_relative habs with hlead | hlead <;> rw [hlead] at h <;> cases h

/-- Only the root and the empty path lie in no directory. -/
theorem parent?_eq_none_iff :
    p.parent? = none ↔ p.components = [] ∨ p.components = [.root] := by
  have hroot := root_not_mem_tail p
  rw [parent?_eq, components_eq, lead]
  by_cases htail : p.tail = []
  -- only the lead is left, and of the three leads a dot alone has a parent
  · have htrim : trimParts p.looseParts = [] := trimParts_eq_nil_iff.mpr (tail_eq p ▸ htail)
    rw [if_pos htrim, htail]
    cases p.isAbsolute <;> cases p.startsAtDot <;> simp
  -- a part is left, and it is neither nothing nor the root
  · have htrim : trimParts p.looseParts ≠ [] := fun h =>
      htail (tail_eq p ▸ trimParts_eq_nil_iff.mp h)
    rw [if_neg htrim]
    cases p.isAbsolute <;> cases p.startsAtDot <;> simp [htail]
    intro h
    simp [h] at hroot

/-- The directory of a path is how the path begins. -/
theorem prefix_of_parent? (h : p.parent? = some q) : q.text.toList <+: p.text.toList := by
  rw [parent?_eq] at h
  split at h
  · split at h
    · obtain rfl := Option.some.inj h
      exact List.nil_prefix
    · cases h
  · obtain rfl := Option.some.inj h
    exact prefix_withParts (prefix_dropLast_trimParts p.looseParts)

/-- The directory of a path starts where the path does. -/
theorem isAbsolute_of_parent? (h : p.parent? = some q) : q.isAbsolute = p.isAbsolute := by
  have hinner : ¬(p.components = [] ∨ p.components = [.root]) := fun houtermost => by
    rw [parent?_eq_none_iff.mpr houtermost] at h
    cases h
  rw [isAbsolute_eq, isAbsolute_eq, components_of_parent? h]
  match p.components, hinner with
  | [], hinner => exact absurd (.inl rfl) hinner
  | [c], hinner =>
    have hroot : c ≠ .root := fun heq => hinner (.inr (heq ▸ rfl))
    simpa using hroot
  | _ :: _ :: _, _ => rfl

/-! ## All directories above a path -/

/-- The beginnings of some components, from the longest on; what begins at the root stays there. -/
def beginnings (cs : List Component) : List (List Component) :=
  cs :: if cs = [] ∨ cs = [.root] then [] else beginnings cs.dropLast
termination_by cs.length
decreasing_by
  rw [List.length_dropLast]
  have hne : cs ≠ [] := fun h => by simp_all
  have hpos := List.length_pos_of_ne_nil hne
  omega

theorem beginnings_of_outermost {cs : List Component} (h : cs = [] ∨ cs = [.root]) :
    beginnings cs = [cs] := by
  rw [beginnings, if_pos h]

theorem beginnings_of_inner {cs : List Component} (h : ¬(cs = [] ∨ cs = [.root])) :
    beginnings cs = cs :: beginnings cs.dropLast := by
  rw [beginnings, if_neg h]

theorem beginnings_concat {c : Component} (h : c ≠ .root) (cs : List Component) :
    beginnings (cs ++ [c]) = (cs ++ [c]) :: beginnings cs := by
  have hinner : ¬(cs ++ [c] = [] ∨ cs ++ [c] = [.root]) := by
    rintro (hnil | hroot)
    · exact List.concat_ne_nil _ _ hnil
    · obtain ⟨-, hc⟩ := List.append_inj' (show cs ++ [c] = [] ++ [.root] from hroot) rfl
      exact h (List.singleton_inj.mp hc)
  rw [beginnings_of_inner hinner, List.dropLast_concat]

/-- Behind some components without another root come their beginnings, and then those of the
    components before them. -/
theorem beginnings_append {more : List Component} (h : .root ∉ more) (cs : List Component) :
    beginnings (cs ++ more) = more.inits.tail.reverse.map (cs ++ ·) ++ beginnings cs := by
  induction more using List.reverseRecOn with
  | nil => simp
  | append_singleton more c ih =>
    rw [List.mem_append, not_or, List.mem_singleton] at h
    -- the longest beginning is the new one; the others are those of the shorter list
    have hinits : (more ++ [c]).inits.tail = more.inits.tail ++ [more ++ [c]] := by
      have hne : more.inits ≠ [] := List.ne_nil_of_mem ((List.mem_inits _ _).mpr List.nil_prefix)
      rw [List.inits_append, List.tail_append_of_ne_nil hne]
      simp
    rw [← List.append_assoc, beginnings_concat (Ne.symm h.2), ih h.1, hinits, List.reverse_concat,
      List.map_cons, List.append_assoc, List.cons_append]

theorem map_components_ancestorsUpTo {n : Nat} (h : p.text.length ≤ n) :
    (ancestorsUpTo n p).map components = beginnings p.components := by
  -- every parent is a shorter text, so the bound on the length never runs out early
  induction n generalizing p with
  | zero =>
    cases hq : p.parent? with
    | none => rw [beginnings_of_outermost (parent?_eq_none_iff.mp hq)]; rfl
    | some q =>
      have hshorter := length_parent?_lt hq
      omega
  | succ n ih =>
    rw [ancestorsUpTo]
    cases hq : p.parent? with
    | none => rw [beginnings_of_outermost (parent?_eq_none_iff.mp hq)]; rfl
    | some q =>
      have hshorter := length_parent?_lt hq
      have hinner : ¬(p.components = [] ∨ p.components = [.root]) := fun h => by
        rw [parent?_eq_none_iff.mpr h] at hq
        cases hq
      rw [List.map_cons, ih (by omega), components_of_parent? hq, beginnings_of_inner hinner]

/-- The directories above a path have the beginnings of its components. -/
theorem map_components_ancestors (p : Path) :
    p.ancestors.map components = beginnings p.components :=
  map_components_ancestorsUpTo (Nat.le_refl _)

theorem length_le_of_mem_beginnings {cs b : List Component} (h : b ∈ beginnings cs) :
    b.length ≤ cs.length := by
  induction cs using beginnings.induct with
  | case1 cs ih =>
    by_cases houtermost : cs = [] ∨ cs = [.root]
    · rw [beginnings_of_outermost houtermost, List.mem_singleton] at h
      rw [h]
    · rw [beginnings_of_inner houtermost, List.mem_cons] at h
      rcases h with rfl | h
      · exact Nat.le_refl _
      · have hle := ih houtermost h
        rw [List.length_dropLast] at hle
        omega

/-- No two beginnings are the same: each is longer than all behind it. -/
theorem pairwise_beginnings (cs : List Component) : (beginnings cs).Pairwise (· ≠ ·) := by
  induction cs using beginnings.induct with
  | case1 cs ih =>
    by_cases houtermost : cs = [] ∨ cs = [.root]
    · rw [beginnings_of_outermost houtermost]
      exact List.pairwise_singleton _ _
    · rw [beginnings_of_inner houtermost]
      refine List.pairwise_cons.mpr ⟨fun b hb heq => ?_, ih houtermost⟩
      -- what comes behind is no longer than what is left without the last component
      have hle := length_le_of_mem_beginnings hb
      have hpos := List.length_pos_of_ne_nil fun hnil => houtermost (.inl hnil)
      rw [List.length_dropLast, ← heq] at hle
      omega

/-- What holds of a path and is kept by going up holds of all directories above the path. -/
theorem of_mem_ancestorsUpTo {motive : Path → Prop}
    (hup : ∀ below above, motive below → below.parent? = some above → motive above) {n : Nat}
    (hp : motive p) (h : q ∈ ancestorsUpTo n p) : motive q := by
  -- the motive is carried up from parent to parent
  induction n generalizing p with
  | zero =>
    obtain rfl := List.mem_singleton.mp h
    exact hp
  | succ n ih =>
    rw [ancestorsUpTo, List.mem_cons] at h
    rcases h with rfl | h
    · exact hp
    · cases habove : p.parent? with
      | none =>
        rw [habove] at h
        cases h
      | some above =>
        rw [habove] at h
        exact ih (hup p above hp habove) h

/-- All directories above a path are how the path begins. -/
theorem prefix_of_mem_ancestors (h : q ∈ p.ancestors) : q.text.toList <+: p.text.toList :=
  of_mem_ancestorsUpTo (motive := fun q => q.text.toList <+: p.text.toList)
    (fun _ _ hfront habove => (prefix_of_parent? habove).trans hfront) List.prefix_rfl h

/-- All directories above a path start where the path does. -/
theorem isAbsolute_of_mem_ancestors (h : q ∈ p.ancestors) : q.isAbsolute = p.isAbsolute :=
  of_mem_ancestorsUpTo (motive := fun q => q.isAbsolute = p.isAbsolute)
    (fun _ _ hstart habove => (isAbsolute_of_parent? habove).trans hstart) rfl h

/-- No two directories above a path are the same. -/
theorem pairwise_ancestors (p : Path) :
    p.ancestors.Pairwise fun a b => a.components ≠ b.components := by
  have h := pairwise_beginnings p.components
  rw [← map_components_ancestors, List.pairwise_map] at h
  exact h

end SourceWeaver.Path
