/-
  What changing one file of a tree changes.

  A tree is looked at through its faces: what stands at a location, without what lies below it.
  Where a file may stand (`Node.Takes`), putting one there changes the face of that location and of
  no other (`faceAt?_put_of_ne`).  A file that is made under a temporary name and then moved leaves
  the tree that it would have left if it had been put in its place at once (`placeFile_eq_put`).

  Rewriting (`Node.rewrite`) gives a file another content and leaves a tree without the file alone,
  so that files can be rewritten in any order (`rewrite_comm`).
-/

import SourceWeaver.Files.Workspace
import Mathlib.Data.List.Nodup
import Mathlib.Data.List.Perm.Subperm

namespace SourceWeaver.Files

/-! ## Faces -/

/-- What a node is, without what lies below it. -/
inductive Face where
  | file (content : Content) (mode : Nat)
  | directory
  | link (target : String)
deriving DecidableEq

namespace Node

/-- The face of a node. -/
def face : Node → Face
  | file content mode => .file content mode
  | directory _ => .directory
  | link target => .link target

/-- What stands at a location. -/
def faceAt? (n : Node) (l : Location) : Option Face :=
  (n.at? l).map face

variable {n new : Node} {l m : Location} {name : String}

theorem face_eq_directory_iff : n.face = .directory ↔ ∃ es, n = directory es := by
  cases n <;> simp [face]

theorem face_eq_file_iff {content : Content} {mode : Nat} :
    n.face = .file content mode ↔ n = file content mode := by
  cases n <;> simp [face]

theorem faceAt?_cons (n : Node) (name : String) (rest : Location) :
    n.faceAt? (name :: rest) = (n.child? name).bind (·.faceAt? rest) := by
  rw [faceAt?, at?_cons]
  cases n.child? name <;> rfl

theorem faceAt?_eq_directory_iff : n.faceAt? l = some .directory ↔
    ∃ es, n.at? l = some (directory es) := by
  simp only [faceAt?, Option.map_eq_some_iff, face_eq_directory_iff]
  exact ⟨fun ⟨_, h, es, he⟩ => ⟨es, he ▸ h⟩, fun ⟨es, h⟩ => ⟨_, h, es, rfl⟩⟩

theorem faceAt?_eq_file_iff {content : Content} {mode : Nat} :
    n.faceAt? l = some (.file content mode) ↔ n.at? l = some (file content mode) := by
  simp only [faceAt?, Option.map_eq_some_iff, face_eq_file_iff, exists_eq_right]

theorem put_cons (n new : Node) (name : String) (rest : Location) :
    n.put new (name :: rest) =
      directory (putEntry n.entries name (((n.child? name).getD (directory [])).put new rest)) :=
  rfl

/-- Only directories have entries. -/
theorem child?_eq_none (h : n.face ≠ .directory) (name : String) : n.child? name = none := by
  cases n with
  | directory es => exact absurd rfl h
  | file content mode => rfl
  | link target => rfl

theorem directory_entries_of_child? {child : Node} (h : n.child? name = some child) :
    directory n.entries = n := by
  cases n with
  | directory es => rfl
  | file content mode => cases h
  | link target => cases h

/-- What stands below a node stands below one of its entries. -/
theorem exists_child {f : Face} (h : n.faceAt? (name :: l) = some f) :
    ∃ child, n.child? name = some child ∧ child.faceAt? l = some f := by
  rw [faceAt?_cons] at h
  exact Option.bind_eq_some_iff.mp h

/-- What stands above something is a directory. -/
theorem faceAt?_of_faceAt?_append {f : Face} (hm : m ≠ []) (h : n.faceAt? (l ++ m) = some f) :
    n.faceAt? l = some .directory := by
  induction l generalizing n with
  | nil =>
    obtain ⟨name, rest, rfl⟩ := List.exists_cons_of_ne_nil hm
    obtain ⟨child, hchild, -⟩ := exists_child h
    rw [← directory_entries_of_child? hchild]
    rfl
  | cons name rest ih =>
    obtain ⟨child, hchild, hbelow⟩ := exists_child h
    rw [faceAt?_cons, hchild]
    exact ih hbelow

/-! ## Putting a file where it may stand -/

/-- Whether a file may stand at a location: its directory is there, and it is none itself. -/
def Takes : Node → Location → Prop
  | n, [] => n.face ≠ .directory
  | n, name :: rest =>
    n.face = .directory ∧
      match n.child? name with
      | some child => child.Takes rest
      | none => rest = []

theorem takes_cons {child : Node} (hc : n.child? name = some child) (h : child.Takes l) :
    n.Takes (name :: l) := by
  refine ⟨?_, ?_⟩
  · rw [← directory_entries_of_child? hc]
    rfl
  · rw [hc]
    exact h

/-- A file may stand in a directory where there is no directory yet. -/
theorem takes_of_directory (hd : n.faceAt? l = some .directory)
    (hne : n.faceAt? (l ++ [name]) ≠ some .directory) : n.Takes (l ++ [name]) := by
  induction l generalizing n with
  | nil =>
    rw [List.nil_append, faceAt?_cons] at hne
    refine ⟨Option.some.inj hd, ?_⟩
    -- nothing stands under the name, or something that is no directory
    cases hc : n.child? name with
    | none => rfl
    | some child =>
      rw [hc] at hne
      exact fun h => hne (congrArg some h)
  | cons first rest ih =>
    obtain ⟨child, hchild, hbelow⟩ := exists_child hd
    rw [List.cons_append, faceAt?_cons, hchild] at hne
    exact takes_cons hchild (ih hbelow hne)

/-- A file may stand where there is one. -/
theorem takes_of_file {content : Content} {mode : Nat}
    (h : n.faceAt? l = some (.file content mode)) : n.Takes l := by
  induction l generalizing n with
  | nil =>
    intro hd
    have hfile : n.face = .file content mode := Option.some.inj h
    rw [hd] at hfile
    cases hfile
  | cons name rest ih =>
    obtain ⟨child, hchild, hbelow⟩ := exists_child h
    exact takes_cons hchild (ih hbelow)

theorem faceAt?_put_self (n new : Node) (l : Location) : (n.put new l).faceAt? l = some new.face := by
  rw [faceAt?, at?_put_self]
  rfl

/-- A file that is put where it may stand changes nothing anywhere else. -/
theorem faceAt?_put_of_ne (h : n.Takes l) (hnew : new.face ≠ .directory) (hne : m ≠ l) :
    (n.put new l).faceAt? m = n.faceAt? m := by
  induction l generalizing n m with
  | nil =>
    -- neither the file nor what it replaces has anything below it
    obtain ⟨name, rest, rfl⟩ := List.exists_cons_of_ne_nil hne
    rw [put, faceAt?_cons, faceAt?_cons, child?_eq_none hnew, child?_eq_none h]
  | cons name rest ih =>
    obtain ⟨hdir, htakes⟩ := h
    cases m with
    | nil => exact congrArg some hdir.symm
    | cons other m' =>
      rw [faceAt?_cons, faceAt?_cons]
      by_cases ho : other = name
      · subst ho
        have hrest : m' ≠ rest := fun he => hne (by rw [he])
        rw [child?_put_self, Option.bind_some]
        cases hc : n.child? other with
        | some child =>
          rw [hc] at htakes
          exact ih htakes hrest
        | none =>
          rw [hc] at htakes
          obtain rfl : rest = [] := htakes
          obtain ⟨first, below, rfl⟩ := List.exists_cons_of_ne_nil hrest
          rw [put, faceAt?_cons, child?_eq_none hnew]
          rfl
      · rw [child?_put_of_ne _ _ ho]

/-! ## Changing one place twice -/

theorem putEntry_putEntry_self (es : List (String × Node)) (name : String) (a b : Node) :
    putEntry (putEntry es name a) name b = putEntry es name b := by
  induction es with
  | nil => simp [putEntry]
  | cons e rest ih =>
    obtain ⟨other, old⟩ := e
    by_cases h : name = other
    · simp [putEntry, h]
    · simp [putEntry, h, ih]

theorem put_put_self (n a b : Node) (l : Location) : (n.put a l).put b l = n.put b l := by
  induction l generalizing n with
  | nil => rfl
  | cons name rest ih =>
    have hchild := child?_put_self n a name rest
    rw [put, hchild, Option.getD_some, ih, put, put, entries, putEntry_putEntry_self]

/-- Entries stay as they are if one of them is put in its own place. -/
theorem putEntry_of_lookup {es : List (String × Node)} (h : es.lookup name = some n) :
    putEntry es name n = es := by
  induction es with
  | nil => cases h
  | cons e rest ih =>
    obtain ⟨other, old⟩ := e
    -- the entry is the first one, or stands among the others
    by_cases ho : name = other
    · subst ho
      rw [List.lookup_cons_self] at h
      rw [putEntry, if_pos (beq_self_eq_true name), Option.some.inj h]
    · have hb : (name == other) = false := by simpa using ho
      rw [List.lookup_cons, hb] at h
      simp only [putEntry, hb, Bool.false_eq_true, if_false, ih h]

/-! ## Temporary files -/

theorem putEntry_of_not_mem {es : List (String × Node)} (h : name ∉ es.map (·.1)) (new : Node) :
    putEntry es name new = es ++ [(name, new)] := by
  induction es with
  | nil => rfl
  | cons e rest ih =>
    rw [List.map_cons, List.mem_cons, not_or] at h
    have hb : (name == e.1) = false := by simpa using h.1
    simp only [putEntry, hb, Bool.false_eq_true, if_false, ih h.2, List.cons_append]

/-- Taking a new entry away leaves the entries that were there before. -/
theorem removeEntry_putEntry {es : List (String × Node)} (h : name ∉ es.map (·.1)) (new : Node) :
    removeEntry (putEntry es name new) name = es := by
  have hothers : es.filter (·.1 != name) = es := by
    refine List.filter_eq_self.mpr fun e he => ?_
    have hne : e.1 ≠ name := fun heq => h (heq ▸ List.mem_map_of_mem he)
    simpa using hne
  rw [putEntry_of_not_mem h, removeEntry, List.filter_append, hothers]
  simp

/-- Taking a new node away leaves the tree that was there before. -/
theorem remove_put_fresh {es : List (String × Node)} (hd : n.at? l = some (directory es))
    (h : name ∉ es.map (·.1)) (new : Node) :
    (n.put new (l ++ [name])).remove (l ++ [name]) = n := by
  induction l generalizing n with
  | nil =>
    obtain rfl := Option.some.inj hd
    rw [List.nil_append, put, remove, entries, entries, removeEntry_putEntry h]
  | cons first rest ih =>
    rw [at?_cons] at hd
    obtain ⟨child, hchild, hbelow⟩ := Option.bind_eq_some_iff.mp hd
    -- only the entry on the way changes, and below it everything comes back
    have hback := ih hbelow
    have hput : n.put new (first :: (rest ++ [name])) =
        directory (putEntry n.entries first (child.put new (rest ++ [name]))) := by
      rw [put, hchild, Option.getD_some]
    have hfound : (n.put new (first :: (rest ++ [name]))).child? first =
        some (child.put new (rest ++ [name])) := by
      rw [child?_put_self, hchild, Option.getD_some]
    have hremove : (n.put new (first :: (rest ++ [name]))).remove (first :: (rest ++ [name])) =
        directory (putEntry (n.put new (first :: (rest ++ [name]))).entries first
          ((child.put new (rest ++ [name])).remove (rest ++ [name]))) := by
      rw [remove, hfound]
      simp
    rw [List.cons_append, hremove, hback, hput, entries, putEntry_putEntry_self,
      putEntry_of_lookup hchild, directory_entries_of_child? hchild]

end Node

namespace Workspace

open Node

theorem temporaryName_injective : Function.Injective temporaryName := by
  intro i j h
  have hdigits : Nat.toDigits 10 (100000 + i) = Nat.toDigits 10 (100000 + j) := by
    simpa [temporaryName, Nat.repr_eq_ofList_toDigits] using congrArg String.toList h
  have hsum : 100000 + i = 100000 + j := by
    rw [← Nat.ofDigitChars_ten_toDigits (n := 100000 + i), hdigits,
      Nat.ofDigitChars_ten_toDigits]
  omega

/-- One of the first names for temporary files is always free: there are more of them than names
    that are taken. -/
theorem freshName_not_mem (taken : List String) : freshName taken ∉ taken := by
  unfold freshName
  cases hfind : ((List.range (taken.length + 1)).map temporaryName).find? (!taken.contains ·) with
  | some name =>
    have hfree := List.find?_some hfind
    simpa using hfree
  | none =>
    -- if all of them were taken, they would fit into a shorter list
    have hsubset : (List.range (taken.length + 1)).map temporaryName ⊆ taken := by
      intro name hname
      have htaken := List.find?_eq_none.mp hfind name hname
      simpa using htaken
    have hnodup : ((List.range (taken.length + 1)).map temporaryName).Nodup :=
      List.nodup_range.map temporaryName_injective
    have hlength := (List.subperm_of_subset hnodup hsubset).length_le
    rw [List.length_map, List.length_range] at hlength
    omega

/-- A file that has been moved to its place stands there, and its temporary name is gone. -/
theorem placeFile_eq_put {root : Node} {l : Location} {es : List (String × Node)}
    (hd : root.at? l = some (.directory es)) (name : String) (content : Content) (mode : Nat) :
    placeFile root l (es.map (·.1)) name content mode =
      root.put (.file content mode) (l ++ [name]) := by
  have hfresh := freshName_not_mem (es.map (·.1))
  rw [placeFile, put_put_self, put_put_self, move, at?_put_self]
  simp only [remove_put_fresh hd hfresh]

end Workspace

namespace Node

variable {n : Node} {l m : Location} {c c' : Content} {k k' : Nat}

/-! ## Rewriting files -/

/-- The tree with another content and mode of the file at a location, if there is one. -/
def rewrite (n : Node) (l : Location) (content : Content) (mode : Nat) : Node :=
  match n.at? l with
  | some (file _ _) => n.put (.file content mode) l
  | _ => n

theorem rewrite_of_file (h : n.faceAt? l = some (.file c k)) (content : Content) (mode : Nat) :
    n.rewrite l content mode = n.put (.file content mode) l := by
  rw [rewrite, faceAt?_eq_file_iff.mp h]

theorem rewrite_of_no_file (h : ∀ c k, n.faceAt? l ≠ some (.file c k)) (content : Content)
    (mode : Nat) : n.rewrite l content mode = n := by
  unfold rewrite
  split
  · rename_i c k hfile
    exact absurd (faceAt?_eq_file_iff.mpr hfile) (h c k)
  · rfl

theorem faceAt?_rewrite_of_ne (h : m ≠ l) (content : Content) (mode : Nat) :
    (n.rewrite l content mode).faceAt? m = n.faceAt? m := by
  by_cases hfile : ∃ c k, n.faceAt? l = some (.file c k)
  · obtain ⟨c, k, hfile⟩ := hfile
    rw [rewrite_of_file hfile, faceAt?_put_of_ne (takes_of_file hfile) (by simp [face]) h]
  · rw [rewrite_of_no_file fun c k hc => hfile ⟨c, k, hc⟩]

/-- The entries of different names can be changed in any order. -/
theorem putEntry_comm {es : List (String × Node)} {a b : String} (hab : a ≠ b)
    (ha : (es.lookup a).isSome = true) (x y : Node) :
    putEntry (putEntry es a x) b y = putEntry (putEntry es b y) a x := by
  induction es with
  | nil => cases ha
  | cons e rest ih =>
    obtain ⟨first, old⟩ := e
    -- the entry of `a` stays in its place, so it does not matter which of both is changed first
    by_cases hfa : a = first
    · subst hfa
      have hba : (b == a) = false := by simpa using hab.symm
      simp [putEntry, hba]
    · have haf : (a == first) = false := by simpa using hfa
      rw [List.lookup_cons, haf] at ha
      by_cases hfb : b = first
      · simp [putEntry, hfb, hfa]
      · simp [putEntry, hfa, hfb, ih ha]

/-- Files at different locations can be replaced in any order. -/
theorem put_comm_of_files (hl : n.faceAt? l = some (.file c k))
    (hm : n.faceAt? m = some (.file c' k')) (hne : l ≠ m) (x y : Node) :
    (n.put x l).put y m = (n.put y m).put x l := by
  induction l generalizing n m with
  | nil =>
    -- what is a file has no other file below it
    obtain ⟨name, rest, rfl⟩ := List.exists_cons_of_ne_nil (Ne.symm hne)
    have hdir := faceAt?_of_faceAt?_append (l := []) (List.cons_ne_nil name rest) hm
    rw [hdir] at hl
    cases hl
  | cons a l' ih =>
    match m with
    | [] =>
      have hdir := faceAt?_of_faceAt?_append (l := []) (List.cons_ne_nil a l') hl
      rw [hdir] at hm
      cases hm
    | b :: m' =>
      obtain ⟨child, hchild, hbelow⟩ := exists_child hl
      -- the ways go on together, where the induction applies, or part here
      by_cases hab : a = b
      · subst hab
        obtain ⟨child', hchild', hbelow'⟩ := exists_child hm
        obtain rfl : child = child' := Option.some.inj (hchild.symm.trans hchild')
        have hrest : l' ≠ m' := fun he => hne (by rw [he])
        have hswap := ih hbelow hbelow' hrest
        have hl' := child?_put_self n x a l'
        have hm' := child?_put_self n y a m'
        rw [hchild, Option.getD_some] at hl' hm'
        rw [put_cons (n.put x (a :: l')), put_cons (n.put y (a :: m')), hl', hm', Option.getD_some,
          Option.getD_some, hswap, put_cons, put_cons, entries, entries, putEntry_putEntry_self,
          putEntry_putEntry_self]
      · have hsome : (n.entries.lookup a).isSome = true := by
          rw [← child?, hchild]
          rfl
        rw [put_cons (n.put x (a :: l')), put_cons (n.put y (b :: m')),
          child?_put_of_ne n x (Ne.symm hab), child?_put_of_ne n y hab, put_cons, put_cons, entries,
          entries, putEntry_comm hab hsome]

/-- Files at different locations can be rewritten in any order. -/
theorem rewrite_comm (hne : l ≠ m) (n : Node) (c c' : Content) (k k' : Nat) :
    (n.rewrite l c k).rewrite m c' k' = (n.rewrite m c' k').rewrite l c k := by
  -- rewriting elsewhere neither makes a file nor takes one away
  by_cases hl : ∃ c k, n.faceAt? l = some (.file c k)
  · by_cases hm : ∃ c k, n.faceAt? m = some (.file c k)
    · obtain ⟨cl, kl, hl⟩ := hl
      obtain ⟨cm, km, hm⟩ := hm
      have hm' := (faceAt?_rewrite_of_ne (n := n) (Ne.symm hne) c k).trans hm
      have hl' := (faceAt?_rewrite_of_ne (n := n) hne c' k').trans hl
      rw [rewrite_of_file hm', rewrite_of_file hl', rewrite_of_file hl, rewrite_of_file hm,
        put_comm_of_files hl hm hne]
    · rw [rewrite_of_no_file (l := m) (n := n) fun a b h => hm ⟨a, b, h⟩, rewrite_of_no_file]
      intro a b h
      rw [faceAt?_rewrite_of_ne (Ne.symm hne)] at h
      exact hm ⟨a, b, h⟩
  · rw [rewrite_of_no_file (l := l) (n := n) fun a b h => hl ⟨a, b, h⟩]
    rw [rewrite_of_no_file (l := l)]
    intro a b h
    rw [faceAt?_rewrite_of_ne hne] at h
    exact hl ⟨a, b, h⟩

end Node

end SourceWeaver.Files
