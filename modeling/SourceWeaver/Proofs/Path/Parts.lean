/-
  Paths part by part.

  The text of a path is its parts with separators between them and nothing else: `partsOf` and
  `joinParts` undo each other.  A path whose last part is a name lies in the directory that the
  parts before it spell, less what names nothing at their end (`parent?_of_concat`).  Going up makes
  a path shorter (`length_parent?_lt`), so `ancestors` is the chain of all directories above a path,
  up to one that lies in no other (`isChain_ancestors`, `parent?_getLast_ancestors`).
-/

import SourceWeaver.Path
import Mathlib.Data.List.Chain
import Mathlib.Data.List.DropRight
import Mathlib.Data.List.Induction
import Mathlib.Data.List.Infix

namespace SourceWeaver.Path

variable {cs part : List Char} {ps qs : List (List Char)} {p q : Path} {name : String}

/-! ## Parts and separators -/

theorem partsOf_ne_nil (cs : List Char) : partsOf cs ≠ [] := by
  cases cs with
  | nil => simp [partsOf]
  | cons c rest =>
    rw [partsOf]
    split
    · simp
    · split <;> simp

theorem partsOf_separator (cs : List Char) : partsOf ('/' :: cs) = [] :: partsOf cs := by
  rw [partsOf, if_pos rfl]

/-- A character that is no separator belongs to the first part. -/
theorem partsOf_cons {c : Char} (hc : c ≠ '/') (h : partsOf cs = part :: ps) :
    partsOf (c :: cs) = (c :: part) :: ps := by
  rw [partsOf, if_neg hc, h]

theorem partsOf_append_separator (a b : List Char) :
    partsOf (a ++ '/' :: b) = partsOf a ++ partsOf b := by
  induction a with
  | nil => exact partsOf_separator b
  | cons c rest ih =>
    obtain ⟨part, ps, hparts⟩ := List.exists_cons_of_ne_nil (partsOf_ne_nil rest)
    rw [hparts] at ih
    -- a separator ends a part; any other character belongs to the first one
    by_cases hc : c = '/'
    · rw [hc, List.cons_append, partsOf_separator, partsOf_separator, ih, hparts]
      rfl
    · rw [List.cons_append, partsOf_cons hc ih, partsOf_cons hc hparts]
      rfl

theorem partsOf_replicate (n : Nat) : partsOf (List.replicate n '/') = List.replicate (n + 1) [] := by
  induction n with
  | zero => rfl
  | succ n ih => rw [List.replicate_succ, partsOf_separator, ih, List.replicate_succ (n := n + 1)]

theorem partsOf_of_not_mem (h : '/' ∉ cs) : partsOf cs = [cs] := by
  induction cs with
  | nil => rfl
  | cons c rest ih =>
    rw [List.mem_cons, not_or] at h
    exact partsOf_cons (Ne.symm h.1) (ih h.2)

theorem not_mem_of_mem_partsOf (h : part ∈ partsOf cs) : '/' ∉ part := by
  induction cs generalizing part with
  | nil =>
    obtain rfl := List.mem_singleton.mp h
    exact List.not_mem_nil
  | cons c rest ih =>
    obtain ⟨first, ps, hparts⟩ := List.exists_cons_of_ne_nil (partsOf_ne_nil rest)
    rw [hparts] at ih
    -- a separator is put in no part, and any other character is not one
    by_cases hc : c = '/'
    · rw [hc, partsOf_separator, hparts, List.mem_cons] at h
      rcases h with rfl | h
      · exact List.not_mem_nil
      · exact ih h
    · rw [partsOf_cons hc hparts, List.mem_cons] at h
      rcases h with rfl | h
      · rw [List.mem_cons, not_or]
        exact ⟨Ne.symm hc, ih (List.mem_cons_self ..)⟩
      · exact ih (List.mem_cons_of_mem _ h)

theorem joinParts_cons (h : ps ≠ []) (part : List Char) :
    joinParts (part :: ps) = part ++ '/' :: joinParts ps := by
  rw [joinParts, List.intercalate_cons_of_ne_nil h, List.append_assoc]
  rfl

theorem joinParts_append (hp : ps ≠ []) (hq : qs ≠ []) :
    joinParts (ps ++ qs) = joinParts ps ++ '/' :: joinParts qs := by
  induction ps with
  | nil => exact absurd rfl hp
  | cons part rest ih =>
    by_cases hrest : rest = []
    · rw [hrest, List.singleton_append, joinParts_cons hq, joinParts, joinParts,
        List.intercalate_singleton]
    · rw [List.cons_append, joinParts_cons (List.append_ne_nil_of_left_ne_nil hrest qs), ih hrest,
        joinParts_cons hrest, List.append_assoc, List.cons_append]

theorem joinParts_partsOf (cs : List Char) : joinParts (partsOf cs) = cs := by
  induction cs with
  | nil => rfl
  | cons c rest ih =>
    by_cases hc : c = '/'
    · rw [hc, partsOf_separator, joinParts_cons (partsOf_ne_nil rest), ih, List.nil_append]
    · obtain ⟨part, ps, hparts⟩ := List.exists_cons_of_ne_nil (partsOf_ne_nil rest)
      rw [hparts] at ih
      -- the character was put in front of the first part, where joining finds it again
      rw [partsOf_cons hc hparts, ← ih]
      cases ps with
      | nil => rfl
      | cons next ps =>
        rw [joinParts_cons (List.cons_ne_nil _ _), joinParts_cons (List.cons_ne_nil _ _),
          List.cons_append]

theorem partsOf_joinParts (hne : ps ≠ []) (h : ∀ part ∈ ps, '/' ∉ part) :
    partsOf (joinParts ps) = ps := by
  induction ps with
  | nil => exact absurd rfl hne
  | cons part rest ih =>
    have hpart : partsOf part = [part] := partsOf_of_not_mem (h part (List.mem_cons_self ..))
    by_cases hrest : rest = []
    · rw [hrest, joinParts, List.intercalate_singleton, hpart]
    · rw [joinParts_cons hrest, partsOf_append_separator, hpart,
        ih hrest fun p hp => h p (List.mem_cons_of_mem _ hp)]
      rfl

theorem mem_joinParts {c : Char} (h : c ∈ joinParts ps) : c = '/' ∨ ∃ part ∈ ps, c ∈ part := by
  induction ps with
  | nil => cases h
  | cons part rest ih =>
    by_cases hrest : rest = []
    · rw [hrest, joinParts, List.intercalate_singleton] at h
      exact .inr ⟨part, List.mem_cons_self .., h⟩
    · rw [joinParts_cons hrest, List.mem_append, List.mem_cons] at h
      rcases h with h | h | h
      · exact .inr ⟨part, List.mem_cons_self .., h⟩
      · exact .inl h
      · exact (ih h).imp_right fun ⟨q, hq, hc⟩ => ⟨q, List.mem_cons_of_mem _ hq, hc⟩

/-- Parts that come first spell how a text begins. -/
theorem joinParts_prefix_append (ps qs : List (List Char)) : joinParts ps <+: joinParts (ps ++ qs) := by
  by_cases hp : ps = []
  · rw [hp]
    exact List.nil_prefix
  · by_cases hq : qs = []
    · rw [hq, List.append_nil]
    · rw [joinParts_append hp hq]
      exact List.prefix_append ..

/-! ## What names nothing -/

theorem component?_eq_none_iff : component? part = none ↔ part = [] ∨ part = ['.'] := by
  unfold component?
  split
  · simp_all
  · split <;> simp_all

/-- Parts are the trimmed ones and, behind them, parts that name nothing. -/
theorem exists_trimmed (ps : List (List Char)) :
    ∃ qs, ps = trimParts ps ++ qs ∧ ∀ part ∈ qs, component? part = none := by
  refine ⟨(ps.reverse.takeWhile fun part => (component? part).isNone).reverse, ?_, ?_⟩
  · rw [trimParts, ← List.reverse_append, List.takeWhile_append_dropWhile, List.reverse_reverse]
  · intro part hpart
    rw [List.mem_reverse] at hpart
    have hnone := List.mem_takeWhile_imp (p := fun part => (component? part).isNone) hpart
    exact Option.isNone_iff_eq_none.mp hnone

theorem trimParts_concat (h : component? part ≠ none) (ps : List (List Char)) :
    trimParts (ps ++ [part]) = ps ++ [part] :=
  List.rdropWhile_concat_neg _ _ part (mt Option.isNone_iff_eq_none.mp h)

theorem getLast_trimParts_ne_nil (h : trimParts ps ≠ []) : (trimParts ps).getLast h ≠ [] := by
  intro hlast
  have hnot := List.rdropWhile_last_not _ ps h
  exact hnot (Option.isNone_iff_eq_none.mpr (component?_eq_none_iff.mpr (.inl hlast)))

/-! ## The last part -/

variable (hn : component? name.toList = some (.name name))

include hn in
theorem ne_nil_of_name : name.toList ≠ [] := by
  intro h
  rw [component?_eq_none_iff.mpr (.inl h)] at hn
  cases hn

include hn in
theorem ne_dot_of_name : name.toList ≠ ['.'] := by
  intro h
  rw [component?_eq_none_iff.mpr (.inr h)] at hn
  cases hn

include hn in
/-- A path whose last part is a name has that name. -/
theorem fileName?_of_concat (h : partsOf p.text.toList = ps ++ [name.toList]) :
    p.fileName? = some name := by
  have hlast : p.components.getLast? = some (.name name) := by
    rw [components, h, List.filterMap_append, List.filterMap_cons_some hn, List.filterMap_nil,
      ← List.append_assoc, List.getLast?_concat]
  rw [fileName?, hlast]

/-- How the directory of a path is written if the parts `ps` come before the last one: by the first
    of them, less what names nothing behind them. -/
def Spells (text : String) (ps : List (List Char)) : Prop :=
  (ps = [] ∧ text = "") ∨
    ∃ kept dropped, ps = kept ++ dropped ∧ (∀ part ∈ dropped, component? part = none) ∧
      (joinParts kept ≠ [] ∧ text.toList = joinParts kept ∨ kept = [[]] ∧ text.toList = ['/'])

theorem parent?_of_drop {fixed : Nat}
    (hfixed : (if p.isAbsolute || p.startsAtDot then 1 else 0) = fixed)
    (h : partsOf (p.text.toList.drop fixed) = ps ++ [part]) (hpart : component? part ≠ none) :
    p.parent? = some ⟨String.ofList (p.text.toList.take fixed ++ joinParts (trimParts ps))⟩ := by
  have htrim : trimParts (ps ++ [part]) = ps ++ [part] := trimParts_concat hpart ps
  unfold parent?
  simp only [hfixed, h, htrim]
  split
  · rename_i hnil
    exact absurd hnil (by simp)
  · rw [List.dropLast_concat]

theorem isAbsolute_of_parts (h : partsOf p.text.toList = [] :: ps) (hne : ps ≠ []) :
    p.isAbsolute = true := by
  rw [isAbsolute, ← joinParts_partsOf p.text.toList, h, joinParts_cons hne]
  rfl

theorem startsAtDot_of_parts (h : partsOf p.text.toList = ['.'] :: ps) : p.startsAtDot = true := by
  rw [startsAtDot, h]
  rfl

include hn in
/-- The directory of a path from the root. -/
theorem parent?_of_absolute (habs : p.isAbsolute = true)
    (h : partsOf p.text.toList = ps ++ [name.toList]) :
    ∃ q, p.parent? = some q ∧ Spells q.text ps := by
  obtain ⟨cs, hcs⟩ := List.head?_eq_some_iff.mp (eq_of_beq habs)
  rw [hcs, partsOf_separator] at h
  -- the first part is the empty one in front of the leading separator
  match ps with
  | [] =>
    rw [List.nil_append, List.cons.injEq] at h
    exact absurd h.2 (partsOf_ne_nil cs)
  | first :: qs =>
    rw [List.cons_append, List.cons.injEq] at h
    obtain ⟨rfl, hqs⟩ := h
    -- empty and dot parts before the name are dropped with it
    obtain ⟨dropped, hdropped, hnothing⟩ := exists_trimmed qs
    have hfixed : (if p.isAbsolute || p.startsAtDot then 1 else 0) = 1 := by rw [habs]; rfl
    have hparent := parent?_of_drop hfixed (by rw [hcs]; exact hqs) (hn ▸ Option.some_ne_none _)
    rw [hcs, List.take_succ_cons, List.take_zero, List.singleton_append] at hparent
    refine ⟨_, hparent, .inr ⟨[] :: trimParts qs, dropped, ?_, hnothing, ?_⟩⟩
    · rw [List.cons_append, ← hdropped]
    · by_cases htrim : trimParts qs = []
      · rw [htrim]
        exact .inr ⟨rfl, String.toList_ofList⟩
      · rw [joinParts_cons htrim]
        exact .inl ⟨List.cons_ne_nil _ _, String.toList_ofList⟩

/-- Behind a dot at the beginning there is a separator, and the other parts come behind that. -/
theorem parts_of_startsAtDot (h : p.startsAtDot = true)
    (hparts : partsOf p.text.toList = ps ++ [part]) (hpart : part ≠ ['.']) :
    ∃ cs qs, p.text.toList = '.' :: '/' :: cs ∧ ps = ['.'] :: qs ∧ partsOf cs = qs ++ [part] := by
  obtain ⟨rest, hrest⟩ := List.head?_eq_some_iff.mp (eq_of_beq h)
  rw [hrest] at hparts
  -- the leading dot is the first part, and the name is another one
  match ps with
  | [] =>
    rw [List.nil_append, List.cons.injEq] at hparts
    exact absurd hparts.1.symm hpart
  | first :: qs =>
    rw [List.cons_append, List.cons.injEq] at hparts
    obtain ⟨rfl, rfl⟩ := hparts
    have hcs : p.text.toList = '.' :: '/' :: joinParts (qs ++ [part]) := by
      rw [← joinParts_partsOf p.text.toList, hrest, joinParts_cons (List.concat_ne_nil _ _)]
      rfl
    refine ⟨_, qs, hcs, rfl, partsOf_joinParts (List.concat_ne_nil _ _) fun q hq => ?_⟩
    have hmem : q ∈ partsOf p.text.toList := hrest ▸ List.mem_cons_of_mem _ hq
    exact not_mem_of_mem_partsOf hmem

include hn in
/-- The directory of a path from a dot; the dot stays even if nothing behind it does. -/
theorem parent?_of_dot (hdot : p.startsAtDot = true)
    (h : partsOf p.text.toList = ps ++ [name.toList]) :
    ∃ q, p.parent? = some q ∧ Spells q.text ps := by
  obtain ⟨cs, qs, hcs, rfl, hqs⟩ := parts_of_startsAtDot hdot h (ne_dot_of_name hn)
  have hfixed : (if p.isAbsolute || p.startsAtDot then 1 else 0) = 1 := by simp [hdot]
  -- the parts are cut behind the dot, so the separator there gives an empty one
  have hdrop : partsOf (p.text.toList.drop 1) = ([] :: qs) ++ [name.toList] := by
    rw [hcs, List.drop_succ_cons, List.drop_zero, partsOf_separator, hqs, List.cons_append]
  have hparent := parent?_of_drop hfixed hdrop (hn ▸ Option.some_ne_none _)
  rw [hcs, List.take_succ_cons, List.take_zero, List.singleton_append] at hparent
  obtain ⟨dropped, hdropped, hnothing⟩ := exists_trimmed ([] :: qs)
  refine ⟨_, hparent, .inr ?_⟩
  cases htrim : trimParts ([] :: qs) with
  | nil =>
    rw [htrim, List.nil_append] at hdropped
    refine ⟨[['.']], qs, rfl, fun part hpart => ?_, .inl ⟨List.cons_ne_nil _ _, ?_⟩⟩
    · exact hnothing part (hdropped ▸ List.mem_cons_of_mem _ hpart)
    · exact String.toList_ofList
  | cons first kept =>
    rw [htrim, List.cons_append, List.cons.injEq] at hdropped
    obtain ⟨rfl, hdropped⟩ := hdropped
    -- the dot that was set aside is put back in front
    have hspelled : joinParts (['.'] :: kept) = '.' :: joinParts ([] :: kept) := by
      by_cases hkept : kept = []
      · rw [hkept]; rfl
      · rw [joinParts_cons hkept, joinParts_cons hkept]; rfl
    refine ⟨['.'] :: kept, dropped, ?_, hnothing, .inl ⟨?_, ?_⟩⟩
    · rw [List.cons_append, ← hdropped]
    · rw [hspelled]
      exact List.cons_ne_nil _ _
    · rw [hspelled]
      exact String.toList_ofList

include hn in
/-- The directory of any other path. -/
theorem parent?_of_relative (habs : p.isAbsolute ≠ true) (hdot : p.startsAtDot ≠ true)
    (h : partsOf p.text.toList = ps ++ [name.toList]) :
    ∃ q, p.parent? = some q ∧ Spells q.text ps := by
  have hfixed : (if p.isAbsolute || p.startsAtDot then 1 else 0) = 0 := by simp [habs, hdot]
  have hparent := parent?_of_drop hfixed h (hn ▸ Option.some_ne_none _)
  rw [List.take_zero, List.nil_append] at hparent
  obtain ⟨dropped, hdropped, hnothing⟩ := exists_trimmed ps
  -- the first part is a name or leads up, so it is never dropped
  have hfirst {part : List Char} {qs : List (List Char)} (hps : ps = part :: qs) :
      part ≠ [] ∧ part ≠ ['.'] := by
    rw [hps, List.cons_append] at h
    refine ⟨fun hnil => ?_, fun hd => ?_⟩
    · exact habs (isAbsolute_of_parts (hnil ▸ h) (List.concat_ne_nil _ _))
    · exact hdot (startsAtDot_of_parts (hd ▸ h))
  refine ⟨_, hparent, ?_⟩
  cases htrim : trimParts ps with
  | nil =>
    refine .inl ⟨?_, rfl⟩
    rw [htrim, List.nil_append] at hdropped
    cases hps : ps with
    | nil => rfl
    | cons part qs =>
      have hpart := hnothing part (hdropped ▸ hps ▸ List.mem_cons_self ..)
      rcases component?_eq_none_iff.mp hpart with hnil | hd
      · exact absurd hnil (hfirst hps).1
      · exact absurd hd (hfirst hps).2
  | cons part kept =>
    rw [htrim] at hdropped
    refine .inr ⟨part :: kept, dropped, hdropped, hnothing, .inl ⟨?_, String.toList_ofList⟩⟩
    by_cases hkept : kept = []
    · rw [hkept, joinParts, List.intercalate_singleton]
      exact (hfirst hdropped).1
    · rw [joinParts_cons hkept]
      exact List.append_ne_nil_of_right_ne_nil _ (List.cons_ne_nil _ _)

include hn in
/-- The directory of a path whose last part is a name is what the other parts spell. -/
theorem parent?_of_concat (h : partsOf p.text.toList = ps ++ [name.toList]) :
    ∃ q, p.parent? = some q ∧ Spells q.text ps := by
  by_cases habs : p.isAbsolute = true
  · exact parent?_of_absolute hn habs h
  · by_cases hdot : p.startsAtDot = true
    · exact parent?_of_dot hn hdot h
    · exact parent?_of_relative hn habs hdot h

include hn in
/-- Where the part in front of the name is a component, the directory is all that stands there. -/
theorem parent?_of_component (h : partsOf p.text.toList = (ps ++ [part]) ++ [name.toList])
    (hpart : component? part ≠ none) :
    ∃ q, p.parent? = some q ∧ q.text.toList = joinParts (ps ++ [part]) := by
  obtain ⟨q, hq, hspells⟩ := parent?_of_concat hn h
  refine ⟨q, hq, ?_⟩
  rcases hspells with ⟨hnil, -⟩ | ⟨kept, dropped, hkept, hnothing, hspelled⟩
  · exact absurd hnil (List.concat_ne_nil _ _)
  -- the part before the name spells a component, so trimming stops right there
  · cases dropped using List.reverseRecOn with
    | append_singleton before last =>
      rw [← List.append_assoc] at hkept
      obtain ⟨-, hlast⟩ := List.append_inj' hkept rfl
      have hnone := hnothing last (List.mem_append_right _ (List.mem_singleton_self _))
      exact absurd hnone (List.singleton_inj.mp hlast ▸ hpart)
    | nil =>
      rw [List.append_nil] at hkept
      rcases hspelled with ⟨-, hq⟩ | ⟨hroot, -⟩
      · rw [hq, hkept]
      · rw [hroot] at hkept
        obtain ⟨-, hlast⟩ : ps = [] ∧ [part] = [[]] := List.append_inj' hkept rfl
        rw [List.singleton_inj.mp hlast] at hpart
        exact absurd (component?_eq_none_iff.mpr (.inl rfl)) hpart

/-! ## All directories above a path -/

theorem length_joinParts_lt (hlast : part ≠ []) (ps : List (List Char)) :
    (joinParts ps).length < (joinParts (ps ++ [part])).length := by
  have hpos : 0 < part.length := List.length_pos_of_ne_nil hlast
  by_cases hps : ps = []
  · rw [hps, List.nil_append, joinParts, joinParts, List.intercalate_singleton]
    exact hpos
  · rw [joinParts_append hps (List.cons_ne_nil _ _), List.length_append, List.length_cons]
    omega

/-- The directory of a path is shorter than the path. -/
theorem length_parent?_lt (h : p.parent? = some q) : q.text.length < p.text.length := by
  rw [← String.length_toList, ← String.length_toList]
  unfold parent? at h
  extract_lets fixed cs at h
  obtain ⟨dropped, hdropped, -⟩ := exists_trimmed (partsOf (cs.drop fixed))
  have hcs : cs.take fixed ++ joinParts (partsOf (cs.drop fixed)) = cs := by
    rw [joinParts_partsOf, List.take_append_drop]
  split at h
  · split at h
    · rename_i hdot
      obtain rfl := Option.some.inj h
      refine List.length_pos_of_ne_nil fun hnil => ?_
      simp [startsAtDot, hnil, partsOf] at hdot
    · cases h
  · rename_i hne
    obtain rfl := Option.some.inj h
    have hlast := getLast_trimParts_ne_nil hne
    obtain ⟨more, hmore, -⟩ := exists_trimmed (trimParts (partsOf (cs.drop fixed))).dropLast
    -- what the last part is taken from is longer than what is left of the parts before it
    have hshorter := length_joinParts_lt hlast (trimParts (partsOf (cs.drop fixed))).dropLast
    rw [List.dropLast_append_getLast hne] at hshorter
    have hkept := (joinParts_prefix_append (trimParts (partsOf (cs.drop fixed))) dropped).length_le
    have hleft := (joinParts_prefix_append
      (trimParts (trimParts (partsOf (cs.drop fixed))).dropLast) more).length_le
    rw [← hdropped] at hkept
    rw [← hmore] at hleft
    have hlength := congrArg List.length hcs
    rw [List.length_append] at hlength
    rw [String.toList_ofList, List.length_append]
    change _ < cs.length
    omega

theorem ancestorsUpTo_ne_nil (n : Nat) (p : Path) : ancestorsUpTo n p ≠ [] := by
  cases n <;> simp [ancestorsUpTo]

theorem head_ancestorsUpTo (n : Nat) (p : Path) : (ancestorsUpTo n p).head? = some p := by
  cases n <;> rfl

theorem isChain_ancestorsUpTo (n : Nat) (p : Path) :
    (ancestorsUpTo n p).IsChain fun below above => below.parent? = some above := by
  induction n generalizing p with
  | zero => exact List.isChain_singleton p
  | succ n ih =>
    rw [ancestorsUpTo]
    cases hq : p.parent? with
    | none => exact List.isChain_singleton p
    | some q =>
      refine List.isChain_cons.mpr ⟨fun above habove => ?_, ih q⟩
      -- the list of the parent starts with the parent itself
      rw [head_ancestorsUpTo] at habove
      rw [hq]
      exact habove

/-- Directories above a path get shorter, so at most so many of them end at one without another. -/
theorem parent?_getLast_ancestorsUpTo {n : Nat} (h : p.text.length ≤ n) :
    ((ancestorsUpTo n p).getLast (ancestorsUpTo_ne_nil n p)).parent? = none := by
  -- every parent is a shorter text, so the list ends at one that has none
  induction n generalizing p with
  | zero =>
    cases hq : p.parent? with
    | none => exact hq
    | some q =>
      have hshorter := length_parent?_lt hq
      omega
  | succ n ih =>
    cases hq : p.parent? with
    | none => simp [ancestorsUpTo, hq]
    | some q =>
      have hshorter := length_parent?_lt hq
      have hlast := ih (p := q) (by omega)
      simp only [ancestorsUpTo, hq]
      rwa [List.getLast_cons (ancestorsUpTo_ne_nil n q)]

/-- The directories above a path: each is that of the one before, and the last lies in no other. -/
theorem isChain_ancestors (p : Path) :
    p.ancestors.IsChain fun below above => below.parent? = some above :=
  isChain_ancestorsUpTo _ p

theorem parent?_getLast_ancestors (p : Path) :
    (p.ancestors.getLast (ancestorsUpTo_ne_nil _ p)).parent? = none :=
  parent?_getLast_ancestorsUpTo (Nat.le_refl _)

end SourceWeaver.Path
