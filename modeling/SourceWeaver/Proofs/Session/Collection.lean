/-
  Which files of a directory are collected.

  A file is collected if it is one of the entries of the directory, or is below it at any depth if
  subdirectories are searched too, if it has the extension of a source, and if no pattern leaves it
  out (`mem_collected_iff`).  Each file is collected once, in the order of the paths
  (`pairwise_collected`), so what is collected is known by its members alone; it is compared for
  different command lines in `collected_exactly`.
-/

import SourceWeaver.Proofs.Files.Levels
import SourceWeaver.Proofs.Path.Order
import SourceWeaver.Session.Batch
import Mathlib.Data.List.Sort

namespace SourceWeaver

open Files Workspace

/-! ## Extensions -/

namespace Path

/-- There is no dot behind the last one. -/
theorem dot_not_mem_extensionOf? {name extension : String}
    (h : extensionOf? name = some extension) : '.' ∉ extension.toList := by
  unfold extensionOf? at h
  dsimp only at h
  split at h
  · cases h
  · obtain rfl := Option.some.inj h
    rw [String.toList_ofList, List.mem_reverse, List.span_eq_takeWhile_dropWhile]
    intro hdot
    exact absurd (List.mem_takeWhile_imp hdot) (by decide)

theorem dot_not_mem_extension {p : Path} {extension : String}
    (h : p.extension? = some extension) : '.' ∉ extension.toList := by
  obtain ⟨name, -, hname⟩ := Option.bind_eq_some_iff.mp h
  exact dot_not_mem_extensionOf? hname

end Path

namespace Selection

variable {s : Selection} {w : Workspace} {p : Path}

/-- An extension is asked for with or without a dot in front of it. -/
theorem withoutDot_eq_iff {asked extension : String} (h : '.' ∉ extension.toList) :
    withoutDot asked = extension ↔ asked = extension ∨ asked = "." ++ extension := by
  unfold withoutDot
  split
  · rename_i rest hasked
    -- the extension of a file holds no dot, and what was asked for starts with one
    have hne : asked ≠ extension := by
      rintro rfl
      rw [hasked] at h
      exact h (List.mem_cons_self ..)
    rw [or_iff_right hne, ← String.toList_inj, ← String.toList_inj, String.toList_ofList, hasked,
      String.toList_append]
    exact (List.cons_inj_right '.').symm
  · rename_i hasked
    refine (or_iff_left ?_).symm
    rintro rfl
    exact hasked _ (String.toList_append ..)

theorem isSource_iff :
    s.isSource p = true ↔
      ∃ extension, p.extension? = some extension ∧
        (extension.toLower ∈ usualExtensions ∨
          ∃ asked ∈ s.extensions, asked = extension ∨ asked = "." ++ extension) := by
  unfold isSource
  rw [Option.any_eq_true]
  refine exists_congr fun extension => and_congr_right fun h => ?_
  have hdot := Path.dot_not_mem_extension h
  simp only [admits, Bool.or_eq_true, List.contains_iff_mem, List.any_eq_true, beq_iff_eq,
    withoutDot_eq_iff hdot]

/-- Files are found once each, in the order of their paths. -/
theorem pairwise_files (hnamed : w.root.Named) (s : Selection) (directory : Path) :
    (s.files w directory).Pairwise fun p q => p.lt q = true := by
  have hfiltered := List.filter_sublist (p := s.selects w) (l := w.filesBelow s.depth directory)
  exact Path.pairwise_mergeSort_lt
    ((nodup_components_filesBelow hnamed s.depth directory).sublist (hfiltered.map Path.components))

end Selection

namespace Session

open CommandLine (Arguments)

variable {w : Workspace} {a b : Arguments} {p : Path}

/-! ## What a command line asks for -/

/-- The files of a directory that a command line asks for. -/
def collected (w : Workspace) (a : Arguments) : List Path :=
  (selectionOf a).files w a.input

/-- Whether a path has one of the usual extensions of sources, whatever the case of its letters, or
    one that the command line asks for, with or without a dot in front of it. -/
def HasSourceExtension (a : Arguments) (p : Path) : Prop :=
  ∃ extension, p.extension? = some extension ∧
    (extension.toLower ∈ Selection.usualExtensions ∨
      ∃ asked ∈ a.extensions, asked = extension ∨ asked = "." ++ extension)

/-- Whether a pattern of the command line matches a path as a whole, the file name in it, or any
    name in it. -/
def IsExcluded (a : Arguments) (p : Path) : Prop :=
  ∃ text ∈ a.exclude, ∃ pattern, Wildcard.parse text = .ok pattern ∧
    (pattern.matches p.text = true ∨
      (∃ name, p.fileName? = some name ∧ pattern.matches name = true) ∨
      ∃ name, .name name ∈ p.components ∧ pattern.matches name = true)

theorem mem_namesOf_iff {name : String} :
    name ∈ Selection.namesOf p ↔ .name name ∈ p.components := by
  unfold Selection.namesOf
  rw [List.mem_filterMap]
  constructor
  · rintro ⟨c, hc, hname⟩
    cases c with
    | name text => exact Option.some.inj hname ▸ hc
    | root => cases hname
    | current => cases hname
    | parent => cases hname
  · exact fun h => ⟨_, h, rfl⟩

theorem name_mem_of_fileName? {name : String} (h : p.fileName? = some name) :
    .name name ∈ p.components := by
  unfold Path.fileName? at h
  split at h
  · rename_i text hlast
    obtain rfl := Option.some.inj h
    exact List.mem_of_getLast? hlast
  · cases h

theorem mem_excluded_selectionOf_iff {pattern : Wildcard.Pattern} :
    pattern ∈ (selectionOf a).excluded ↔ ∃ text ∈ a.exclude, Wildcard.parse text = .ok pattern := by
  unfold selectionOf
  rw [List.mem_filterMap]
  refine exists_congr fun text => and_congr_right fun _ => ?_
  cases Wildcard.parse text <;> simp [Except.toOption]

theorem isExcluded_iff : (selectionOf a).isExcluded p = true ↔ IsExcluded a p := by
  have hmatches (pattern : Wildcard.Pattern) :
      (pattern.matches p.text || (Selection.namesOf p).any pattern.matches) = true ↔
        pattern.matches p.text = true ∨
          (∃ name, p.fileName? = some name ∧ pattern.matches name = true) ∨
          ∃ name, .name name ∈ p.components ∧ pattern.matches name = true := by
    rw [Bool.or_eq_true, List.any_eq_true]
    simp only [mem_namesOf_iff]
    -- the file name is one of the names
    refine or_congr_right ⟨.inr, ?_⟩
    rintro (⟨name, hname, hmatch⟩ | h)
    · exact ⟨name, name_mem_of_fileName? hname, hmatch⟩
    · exact h
  unfold Selection.isExcluded IsExcluded
  rw [List.any_eq_true]
  simp only [mem_excluded_selectionOf_iff, hmatches]
  constructor
  · rintro ⟨pattern, ⟨text, htext, hparse⟩, hmatch⟩
    exact ⟨text, htext, pattern, hparse, hmatch⟩
  · rintro ⟨text, htext, pattern, hparse, hmatch⟩
    exact ⟨pattern, ⟨text, htext, hparse⟩, hmatch⟩

theorem selects_iff :
    (selectionOf a).selects w p = true ↔
      w.isFile p = true ∧ HasSourceExtension a p ∧ ¬IsExcluded a p := by
  unfold Selection.selects
  rw [Bool.and_eq_true, Bool.and_eq_true, Bool.not_eq_true', ← Bool.not_eq_true, isExcluded_iff,
    Selection.isSource_iff, and_assoc]
  rfl

/-! ## What is collected -/

theorem mem_collected_iff_selects :
    p ∈ collected w a ↔
      p ∈ w.filesBelow (selectionOf a).depth a.input ∧ (selectionOf a).selects w p = true :=
  Selection.mem_files

theorem pairwise_collected (hnamed : w.root.Named) (a : Arguments) :
    (collected w a).Pairwise fun p q => p.lt q = true :=
  Selection.pairwise_files hnamed (selectionOf a) a.input

/-- Of two command lines that search the same directory alike, the one that selects less collects a
    part of what the other does. -/
theorem collected_sublist (hnamed : w.root.Named) (hinput : b.input = a.input)
    (hrecursive : b.recursive = a.recursive)
    (h : ∀ p, (selectionOf b).selects w p = true → (selectionOf a).selects w p = true) :
    (collected w b).Sublist (collected w a) := by
  have hsubset : collected w b ⊆ collected w a := by
    intro p hp
    rw [mem_collected_iff_selects] at hp ⊢
    have hdepth : (selectionOf b).depth = (selectionOf a).depth :=
      congrArg (fun r : Bool => if r then Selection.maxDepth else 1) hrecursive
    rw [hinput, hdepth] at hp
    exact ⟨hp.1, h p hp.2⟩
  have hb := pairwise_collected hnamed b
  -- both lists are in strict order, so the smaller one is the larger one with gaps
  exact List.sublist_of_subperm_of_pairwise (List.subperm_of_subset hb.nodup hsubset) hb
    (pairwise_collected hnamed a)

section Levels

variable (hw : w.Grounded) (hnamed : w.root.Named) (hacyclic : w.Acyclic a.input)

include hw hnamed hacyclic

theorem mem_collected_iff :
    p ∈ collected w a ↔
      (if a.recursive then ∃ k, 0 < k ∧ k ≤ Selection.maxDepth ∧ p ∈ w.level k a.input
        else p ∈ w.listing a.input) ∧
        w.isFile p = true ∧ HasSourceExtension a p ∧ ¬IsExcluded a p := by
  rw [mem_collected_iff_selects, selects_iff]
  by_cases hrecursive : a.recursive = true
  -- a recursive run walks to the limit on the depth
  · have hdepth : (selectionOf a).depth = Selection.maxDepth := if_pos hrecursive
    rw [if_pos hrecursive, hdepth, mem_filesBelow_iff hw hnamed hacyclic]
    constructor
    · rintro ⟨⟨-, hlevel⟩, h⟩
      exact ⟨hlevel, h⟩
    · rintro ⟨hlevel, h⟩
      exact ⟨⟨h.1, hlevel⟩, h⟩
  -- any other run lists the directory, which is a walk of one level
  · have hdepth : (selectionOf a).depth = 1 := if_neg hrecursive
    rw [if_neg hrecursive, hdepth, filesBelow_one hw hnamed, List.mem_filter]
    constructor
    · rintro ⟨⟨hlisted, -⟩, h⟩
      exact ⟨hlisted, h⟩
    · rintro ⟨hlisted, h⟩
      exact ⟨⟨hlisted, h.1⟩, h⟩

/-- Without its subdirectories a directory gives the files with one component more. -/
theorem collected_listing :
    collected w { a with recursive := false } =
      (collected w { a with recursive := true }).filter fun p =>
        p.components.length == a.input.components.length + 1 := by
  -- two lists in strict order are equal once they have the same members
  refine (pairwise_collected hnamed _).eq_of_mem_iff ((pairwise_collected hnamed _).filter _) ?_
  intro p
  have hshallow := mem_collected_iff (a := { a with recursive := false }) (p := p) hw hnamed hacyclic
  have hdeep := mem_collected_iff (a := { a with recursive := true }) (p := p) hw hnamed hacyclic
  rw [if_neg Bool.false_ne_true, ← level_one] at hshallow
  rw [if_pos rfl] at hdeep
  rw [List.mem_filter, beq_iff_eq, hshallow, hdeep]
  constructor
  · rintro ⟨hone, h⟩
    exact ⟨⟨⟨1, Nat.one_pos, by decide, hone⟩, h⟩, length_components_of_mem_level hnamed hone⟩
  · rintro ⟨⟨⟨k, -, -, hk⟩, h⟩, hlength⟩
    -- every level puts one more component on the path
    obtain rfl : k = 1 := by
      have hlength' : p.components.length = a.input.components.length + k :=
        length_components_of_mem_level hnamed hk
      omega
    exact ⟨hk, h⟩

end Levels

/-- What is collected from a directory if no path below it comes back to a directory that it has gone
    through, and none goes down further than a search: the files below the directory with the
    extension of a source that no pattern leaves out, once each and in the order of their paths.
    Without subdirectories these are the files with one component more than the directory; more
    patterns never add a file, and more extensions never take one away. -/
theorem collected_exactly (hw : w.Grounded) (hnamed : w.root.Named) (hacyclic : w.Acyclic a.input)
    (hdepth : ∀ k p, p ∈ w.level k a.input → k ≤ Selection.maxDepth) :
    (collected w a).Pairwise (fun p q => p.lt q = true) ∧ (collected w a).Nodup ∧
      (∀ p, p ∈ collected w a ↔
        (if a.recursive then ∃ k, 0 < k ∧ p ∈ w.level k a.input else p ∈ w.listing a.input) ∧
          w.isFile p = true ∧ HasSourceExtension a p ∧ ¬IsExcluded a p) ∧
      collected w { a with recursive := false } =
        (collected w { a with recursive := true }).filter
          (fun p => p.components.length == a.input.components.length + 1) ∧
      (∀ more, a.exclude ⊆ more →
        (collected w { a with exclude := more }).Sublist (collected w a)) ∧
      ∀ more, a.extensions ⊆ more →
        (collected w a).Sublist (collected w { a with extensions := more }) := by
  have hordered := pairwise_collected hnamed a
  refine ⟨hordered, hordered.nodup, fun p => ?_, collected_listing hw hnamed hacyclic, ?_, ?_⟩
  -- no entry lies deeper than the walk goes, so the limit says nothing
  · have hbound : (∃ k, 0 < k ∧ k ≤ Selection.maxDepth ∧ p ∈ w.level k a.input) ↔
        ∃ k, 0 < k ∧ p ∈ w.level k a.input :=
      exists_congr fun k => and_congr_right fun _ => and_iff_right_of_imp (hdepth k p)
    rw [mem_collected_iff hw hnamed hacyclic, hbound]
  · intro more hmore
    refine collected_sublist hnamed rfl rfl fun p hp => ?_
    rw [selects_iff] at hp ⊢
    obtain ⟨hfile, hextension, hkept⟩ := hp
    refine ⟨hfile, hextension, fun hexcluded => hkept ?_⟩
    obtain ⟨text, htext, hmatches⟩ := hexcluded
    exact ⟨text, hmore htext, hmatches⟩
  · intro more hmore
    refine collected_sublist hnamed rfl rfl fun p hp => ?_
    rw [selects_iff] at hp ⊢
    obtain ⟨hfile, ⟨extension, hextension, hasked⟩, hkept⟩ := hp
    refine ⟨hfile, ⟨extension, hextension, hasked.imp_right ?_⟩, hkept⟩
    rintro ⟨asked, hmem, heq⟩
    exact ⟨asked, hmore hmem, heq⟩

/-- A directory with a link to another one, a link to a file and a link that leads nowhere. -/
def linkedFolder : Workspace where
  root := .directory
    [("src", .directory
        [("main.c", .file (.ofText "/*\nTitle\n*/\nint x;\n") 0o644),
          ("notes.txt", .file (.ofText "none\n") 0o644),
          ("lib", .directory
            [("UTIL.H", .file (.ofText "int y;\n") 0o644),
              ("same.c", .link "../main.c"),
              ("gone.c", .link "nowhere")]),
          ("vendor", .directory [("other.c", .file (.ofText "int z;\n") 0o644)]),
          ("more", .link "../shared")]),
      ("shared", .directory [("table.inc", .file (.ofText "1, 2\n") 0o644)])]
  here := []

/-- What stands behind links is collected as well, with an extension that is asked for; what is left
    out or leads nowhere is not. -/
theorem collected_exactly_of_links :
    let w := linkedFolder
    let a : Arguments :=
      { input := ⟨"src"⟩, recursive := true, exclude := ["vend*"], extensions := [".inc"] }
    (w.Grounded ∧ w.root.Named ∧ w.Acyclic a.input ∧
      ∀ k p, p ∈ w.level k a.input → k ≤ Selection.maxDepth) ∧
    (∀ p ∈ [⟨"src/lib/UTIL.H"⟩, ⟨"src/lib/same.c"⟩, ⟨"src/more/table.inc"⟩], p ∈ collected w a) ∧
    (∀ p ∈ [⟨"src/lib/gone.c"⟩, ⟨"src/vendor/other.c"⟩], p ∉ collected w a) ∧
    collected w { a with recursive := false } =
      (collected w a).filter fun p => p.components.length == a.input.components.length + 1 := by
  intro w a
  have hw : w.Grounded := by decide +kernel
  have hnamed : w.root.Named := by
    have hlib : Node.Named (.directory [("UTIL.H", .file (.ofText "int y;\n") 0o644),
        ("same.c", .link "../main.c"), ("gone.c", .link "nowhere")]) := by
      refine .directory (by decide +kernel) (by decide +kernel) fun e he => ?_
      simp only [List.mem_cons, List.not_mem_nil, or_false] at he
      obtain rfl | rfl | rfl := he
      · exact .file _ _
      · exact .link _
      · exact .link _
    have hone (name : String) (content : Content) (hname : IsName name) :
        Node.Named (.directory [(name, .file content 0o644)]) := by
      refine .directory (List.forall_mem_singleton.mpr hname) (List.nodup_singleton _) fun e he => ?_
      obtain rfl := List.mem_singleton.mp he
      exact .file _ _
    refine .directory (by decide +kernel) (by decide +kernel) fun e he => ?_
    simp only [List.mem_cons, List.not_mem_nil, or_false] at he
    obtain rfl | rfl := he
    · refine .directory (by decide +kernel) (by decide +kernel) fun e he => ?_
      simp only [List.mem_cons, List.not_mem_nil, or_false] at he
      obtain rfl | rfl | rfl | rfl | rfl := he
      · exact .file _ _
      · exact .file _ _
      · exact hlib
      · exact hone "other.c" _ (by decide +kernel)
      · exact .link _
    · exact hone "table.inc" _ (by decide +kernel)
  -- nothing lies on the third level, so the walk ends
  have hempty : w.level 3 a.input = [] := by decide +kernel
  have hacyclic : w.Acyclic a.input := acyclic_of_level_eq_nil hempty (by decide +kernel)
  have hdepth : ∀ k p, p ∈ w.level k a.input → k ≤ Selection.maxDepth := by
    intro k p hp
    exact Nat.le_trans (Nat.le_of_lt (lt_of_mem_level hempty hp)) (by decide)
  obtain ⟨-, -, hmem, hlisting, -⟩ := collected_exactly hw hnamed hacyclic hdepth
  refine ⟨⟨hw, hnamed, hacyclic, hdepth⟩, fun p hp => ?_, fun p hp h => ?_, hlisting⟩
  · have hfound : ∀ p ∈ [⟨"src/lib/UTIL.H"⟩, ⟨"src/lib/same.c"⟩, ⟨"src/more/table.inc"⟩],
        p ∈ w.level 2 a.input ∧ (selectionOf a).selects w p = true := by decide +kernel
    obtain ⟨hlevel, hselects⟩ := hfound p hp
    exact (hmem p).mpr ⟨⟨2, by decide, hlevel⟩, selects_iff.mp hselects⟩
  · have hrefused : ∀ p ∈ [⟨"src/lib/gone.c"⟩, ⟨"src/vendor/other.c"⟩],
        (selectionOf a).selects w p = false := by decide +kernel
    have hselects := selects_iff.mpr ((hmem p).mp h).2
    rw [hrefused p hp] at hselects
    cases hselects

end Session

end SourceWeaver
