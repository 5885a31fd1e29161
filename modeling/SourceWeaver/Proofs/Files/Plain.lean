/-
  Trees with names, and trees without links.

  In any tree the entries of a directory have names, and different ones (`namesAt_of_named`).
  Without links a path leads where its names say (`placeOf_of_locate`), and the path of an entry to
  the entry (`placeOf_join`).  So a walk finds every file at a place of its own
  (`found_walk`), and no two of the files that a selection wants are the same file
  (`found_files`).
-/

import SourceWeaver.Collection
import SourceWeaver.Proofs.Files.Locating
import Mathlib.Data.List.Nodup

namespace SourceWeaver.Files

open SourceWeaver.Path

/-- Whether a text can name an entry of a directory. -/
def IsName (name : String) : Prop :=
  component? name.toList = some (.name name) ∧ '/' ∉ name.toList

/-- Names are told by their characters. -/
instance (name : String) : Decidable (IsName name) :=
  inferInstanceAs (Decidable (_ ∧ _))

/-- A tree in which the entries of every directory have names, and different ones. -/
inductive Node.Named : Node → Prop
  | file (content : Content) (mode : Nat) : Named (.file content mode)
  | link (target : String) : Named (.link target)
  | directory {es : List (String × Node)} (hnames : ∀ e ∈ es, IsName e.1)
      (hdistinct : (es.map (·.1)).Nodup) (h : ∀ e ∈ es, e.2.Named) : Named (.directory es)

/-- A tree without links in which the entries of every directory have names, and different ones. -/
inductive Node.Plain : Node → Prop
  | file (content : Content) (mode : Nat) : Plain (.file content mode)
  | directory {es : List (String × Node)} (hnames : ∀ e ∈ es, IsName e.1)
      (hdistinct : (es.map (·.1)).Nodup) (h : ∀ e ∈ es, e.2.Plain) : Plain (.directory es)

namespace Node

variable {root n : Node} {l : Location} {name : String} {es : List (String × Node)}

theorem mem_of_lookup (h : es.lookup name = some n) : (name, n) ∈ es := by
  induction es with
  | nil => cases h
  | cons e rest ih =>
    obtain ⟨first, old⟩ := e
    by_cases hname : name = first
    · subst hname
      rw [List.lookup_cons_self] at h
      obtain rfl := Option.some.inj h
      exact List.mem_cons_self ..
    · have hb : (name == first) = false := by simpa using hname
      rw [List.lookup_cons, hb] at h
      exact List.mem_cons_of_mem _ (ih h)

/-- What passes from a directory to its entries passes from a tree to all that stands in it. -/
theorem of_at? {motive : Node → Prop}
    (hentries : ∀ n : Node, motive n → ∀ e ∈ n.entries, motive e.2) (h : motive root)
    (hn : root.at? l = some n) : motive n := by
  induction l generalizing root with
  | nil =>
    obtain rfl := Option.some.inj hn
    exact h
  | cons name rest ih =>
    rw [at?_cons] at hn
    obtain ⟨child, hchild, hbelow⟩ := Option.bind_eq_some_iff.mp hn
    exact ih (hentries root h _ (mem_of_lookup hchild)) hbelow

theorem Named.of_at? (h : root.Named) (hn : root.at? l = some n) : n.Named := by
  refine Node.of_at? (fun n hn e he => ?_) h hn
  cases hn with
  | file content mode => cases he
  | link target => cases he
  | directory _ _ hbelow => exact hbelow e he

theorem Plain.of_at? (h : root.Plain) (hn : root.at? l = some n) : n.Plain := by
  refine Node.of_at? (fun n hn e he => ?_) h hn
  cases hn with
  | file content mode => cases he
  | directory _ _ hbelow => exact hbelow e he

theorem Plain.named (h : root.Plain) : root.Named := by
  induction h with
  | file content mode => exact .file content mode
  | directory hnames hdistinct _ ih => exact .directory hnames hdistinct ih

theorem Plain.sign_ne_link (h : root.Plain) (l : Location) (target : String) :
    root.sign l ≠ .link target := by
  unfold sign faceAt?
  cases hn : root.at? l with
  | none => exact Sign.noConfusion
  | some n =>
    cases h.of_at? hn with
    | file content mode => exact Sign.noConfusion
    | directory _ _ _ => exact Sign.noConfusion

end Node

/-! ## Where names lead -/

variable {root : Node} {creating : Bool} {n : Nat} {here l : Location} {name : String}
  {names staying : List String}

theorem descend_append (here : Location) (names more : List String) :
    descend here (names ++ more) = descend (descend here names) more :=
  List.foldl_append

theorem descend_stays (h : ∀ hop ∈ staying, stays hop = true) (here : Location) :
    descend here staying = here := by
  induction staying with
  | nil => rfl
  | cons hop rest ih =>
    rw [descend, List.foldl_cons, if_pos (h hop (List.mem_cons_self ..))]
    exact ih fun z hz => h z (List.mem_cons_of_mem _ hz)

theorem descend_looksUp {hop : String} {rest : List String} (h : LooksUp creating hop rest)
    (here : Location) : descend here (hop :: rest) = descend (here ++ [hop]) rest := by
  rw [descend, List.foldl_cons, h.moves, if_neg Bool.false_ne_true, if_neg h.goesDown]
  rfl

theorem stays_of_isName (h : IsName name) : stays name = false := by
  have hne := ne_nil_of_name h.1
  have hdot := ne_dot_of_name h.1
  rw [stays, Bool.or_eq_false_iff, decide_eq_false_iff_not, decide_eq_false_iff_not]
  exact ⟨fun heq => hne (heq ▸ rfl), fun heq => hdot (heq ▸ rfl)⟩

theorem ne_up_of_isName (h : IsName name) : name ≠ ".." := by
  rintro rfl
  have hcomponent := h.1
  rw [component?, if_neg (by decide), if_pos (by decide)] at hcomponent
  cases hcomponent

theorem descend_name (h : IsName name) (here : Location) : descend here [name] = here ++ [name] := by
  rw [descend, List.foldl_cons, stays_of_isName h, if_neg Bool.false_ne_true,
    if_neg (ne_up_of_isName h)]
  rfl

/-- Without links names lead where they say. -/
theorem Leads.eq_descend (h : Leads root creating n here names l)
    (hplain : ∀ m target, root.sign m ≠ .link target) : l = descend here names := by
  -- one step of the way is one step of the descent, and links do not occur
  induction h with
  | arrive n here => rfl
  | stay hstays _ ih =>
    rw [descend, List.foldl_cons, if_pos hstays]
    exact ih
  | up _ ih =>
    rw [descend, List.foldl_cons, if_neg (by decide), if_pos rfl]
    exact ih
  | enter hlooks _ _ ih => rw [descend_looksUp hlooks, ih]
  | file hlooks _ => rw [descend_looksUp hlooks]; rfl
  | create hlooks _ _ => rw [descend_looksUp hlooks]; rfl
  | link _ hsign _ _ => exact absurd hsign (hplain _ _)

namespace Workspace

variable {w : Workspace} {p q : Path}

theorem placeOf_of_locate (hplain : w.root.Plain) (h : w.locate p = .ok l) : l = w.placeOf p := by
  obtain ⟨-, hleads⟩ := locate_eq_ok_iff.mp h
  exact hleads.eq_descend hplain.sign_ne_link

theorem placeOf_join (hne : p.text ≠ "") (hname : IsName name) :
    w.placeOf (p.join name) = w.placeOf p ++ [name] := by
  obtain ⟨hstart, names, staying, hhops, hjoined, hstays⟩ :=
    hops_join (w := w) hne hname.1 hname.2
  rw [placeOf, placeOf, hstart, hhops, hjoined, descend_append, descend_append,
    descend_stays hstays, descend_name hname]

theorem text_ne_empty_of_locate (h : w.locate p = .ok l) : p.text ≠ "" :=
  (locate_eq_ok_iff.mp h).1.nonempty

theorem separator_mem_join (hne : p.text ≠ "") (hname : IsName name) :
    '/' ∈ (p.join name).text.toList := by
  obtain ⟨ps, staying, hps, hparts, -⟩ := partsOf_join hne hname.2
  by_contra hnone
  rw [partsOf_of_not_mem hnone] at hparts
  obtain ⟨hnil, -⟩ : [] = ps ∧ [_] = [_] := List.append_inj' hparts rfl
  exact hps hnil.symm

/-- Without links the entry that a path names is the file that the path leads to. -/
theorem Way.eq_concat {before : List String} {directory : Location}
    (h : w.Way p l before directory name) (hplain : ∀ m target, w.root.sign m ≠ .link target) :
    l = directory ++ [name] := by
  rcases h.presents with ⟨-, hl⟩ | ⟨target, k, hlink, -⟩
  · exact hl
  · exact absurd hlink (hplain _ _)

/-! ## Walks -/

variable {above : List Location} {depth : Nat}

theorem enter?_of_plain (hplain : w.root.Plain) {target : Location}
    (h : w.enter? above p l = some target) : target = l := by
  unfold enter? at h
  cases hn : w.root.at? l with
  | none =>
    rw [hn] at h
    cases h
  | some n =>
    -- in a plain tree the node is a file or a directory
    cases hplain.of_at? hn with
    | file content mode =>
      rw [hn] at h
      cases h
    | directory _ _ _ =>
      rw [hn] at h
      exact (Option.some.inj h).symm

/-- The entries of a directory have names, and different ones. -/
theorem namesAt_of_named (hnamed : w.root.Named) (l : Location) :
    (∀ name ∈ w.namesAt l, IsName name) ∧ (w.namesAt l).Nodup := by
  unfold namesAt
  cases hn : w.root.at? l with
  | none => exact ⟨nofun, .nil⟩
  | some n =>
    cases hnamed.of_at? hn with
    | file content mode => exact ⟨nofun, .nil⟩
    | link target => exact ⟨nofun, .nil⟩
    | directory hnames hdistinct _ => exact ⟨List.forall_mem_map.mpr hnames, hdistinct⟩

/-- The paths of the files at and below one entry of a directory. -/
def walkEntry (w : Workspace) (depth : Nat) (above : List Location) (p : Path) (l : Location)
    (name : String) : List Path :=
  match w.enter? above (p.join name) (l ++ [name]) with
  | some target => w.walk depth (target :: above) (p.join name) target
  | none => if w.isFile (p.join name) then [p.join name] else []

theorem walk_succ (w : Workspace) (depth : Nat) (above : List Location) (p : Path)
    (l : Location) :
    w.walk (depth + 1) above p l = (w.namesAt l).flatMap (w.walkEntry depth above p l) :=
  rfl

/-- What a walk from a place finds: files at and below the place, each at a place of its own, by
    paths with a separator in them. -/
structure Found (w : Workspace) (l : Location) (ps : List Path) : Prop where
  isFile : ∀ q ∈ ps, w.isFile q = true
  separator : ∀ q ∈ ps, '/' ∈ q.text.toList
  below : ∀ q ∈ ps, l <+: w.placeOf q
  distinct : (ps.map w.placeOf).Nodup

theorem found_nil (l : Location) : w.Found l [] :=
  ⟨nofun, nofun, nofun, .nil⟩

theorem found_singleton (hfile : w.isFile q = true) (hseparator : '/' ∈ q.text.toList) :
    w.Found (w.placeOf q) [q] := by
  refine ⟨?_, ?_, ?_, List.nodup_singleton _⟩
  · exact List.forall_mem_singleton.mpr hfile
  · exact List.forall_mem_singleton.mpr hseparator
  · exact List.forall_mem_singleton.mpr List.prefix_rfl

theorem eq_of_prefix_concat {α : Type} {front whole : List α} {a b : α}
    (ha : front ++ [a] <+: whole) (hb : front ++ [b] <+: whole) : a = b := by
  have hlength : (front ++ [a]).length ≤ (front ++ [b]).length := by simp
  have hfront := List.prefix_of_prefix_length_le ha hb hlength
  have heq := hfront.eq_of_length (by simp)
  exact List.singleton_inj.mp (List.append_inj' heq rfl).2

/-- Paths under different marks are different if those under each mark are. -/
theorem nodup_map_flatMap {α : Type} {key : Path → List α} {mark : String → α} {front : List α}
    {names : List String} {entry : String → List Path} (hmarks : (names.map mark).Nodup)
    (hfront : ∀ name ∈ names, ∀ q ∈ entry name, front ++ [mark name] <+: key q)
    (hdistinct : ∀ name ∈ names, ((entry name).map key).Nodup) :
    ((names.flatMap entry).map key).Nodup := by
  rw [List.map_flatMap, List.nodup_flatMap]
  refine ⟨hdistinct, ?_⟩
  refine (List.pairwise_map.mp hmarks).imp_of_mem fun {a b} ha hb hne => ?_
  intro m hma hmb
  obtain ⟨q, hq, rfl⟩ := List.mem_map.mp hma
  obtain ⟨r, hr, heq⟩ := List.mem_map.mp hmb
  exact hne (eq_of_prefix_concat (hfront a ha q hq) (heq ▸ hfront b hb r hr))

/-- What is found entry by entry is found altogether, because the entries have different names. -/
theorem found_flatMap {names : List String} {entry : String → List Path} (hnames : names.Nodup)
    (h : ∀ name ∈ names, w.Found (l ++ [name]) (entry name)) :
    w.Found l (names.flatMap entry) := by
  refine ⟨?_, ?_, ?_, ?_⟩
  · intro q hq
    obtain ⟨name, hname, hq⟩ := List.mem_flatMap.mp hq
    exact (h name hname).isFile q hq
  · intro q hq
    obtain ⟨name, hname, hq⟩ := List.mem_flatMap.mp hq
    exact (h name hname).separator q hq
  · intro q hq
    obtain ⟨name, hname, hq⟩ := List.mem_flatMap.mp hq
    exact (List.prefix_append l [name]).trans ((h name hname).below q hq)
  -- what lies below one entry does not lie below another
  · have hmarks : (names.map id).Nodup := by rwa [List.map_id]
    exact nodup_map_flatMap hmarks (fun name hname => (h name hname).below)
      fun name hname => (h name hname).distinct

theorem found_walk (hplain : w.root.Plain) (hne : p.text ≠ "") (depth : Nat)
    (above : List Location) : w.Found (w.placeOf p) (w.walk depth above p (w.placeOf p)) := by
  induction depth generalizing above p with
  | zero => exact found_nil _
  | succ depth ih =>
    obtain ⟨hnames, hdistinct⟩ := namesAt_of_named hplain.named (w.placeOf p)
    rw [walk_succ]
    refine found_flatMap hdistinct fun name hmem => ?_
    have hname := hnames name hmem
    have hplace := placeOf_join (w := w) hne hname
    have hseparator := separator_mem_join hne hname
    rw [← hplace, walkEntry, ← hplace]
    split
    · rename_i target henter
      -- without links the walk enters the entry where it stands
      obtain rfl := enter?_of_plain hplain henter
      have hbelow : (p.join name).text ≠ "" := by
        intro hempty
        rw [hempty] at hseparator
        cases hseparator
      exact ih hbelow _
    · split
      · rename_i hfile
        exact found_singleton hfile hseparator
      · exact found_nil _

/-! ## Selections -/

/-- The files of a directory that a selection wants are found at places of their own. -/
theorem found_files (hplain : w.root.Plain) (s : Selection) (p : Path) :
    w.Found [] (s.files w p) := by
  have hwalked : ∃ l, w.Found l (w.filesBelow s.depth p) := by
    unfold filesBelow
    cases hlocate : w.locate p with
    | error e => exact ⟨[], found_nil _⟩
    | ok l =>
      obtain rfl := placeOf_of_locate hplain hlocate
      exact ⟨_, found_walk hplain (text_ne_empty_of_locate hlocate) _ _⟩
  obtain ⟨l, hwalked⟩ := hwalked
  have hmem (q : Path) (hq : q ∈ s.files w p) : q ∈ w.filesBelow s.depth p :=
    (Selection.mem_files.mp hq).1
  refine ⟨fun q hq => hwalked.isFile q (hmem q hq), fun q hq => hwalked.separator q (hmem q hq),
    fun q _ => List.nil_prefix, ?_⟩
  -- sorting and filtering leave the locations different
  have hperm := (List.mergeSort_perm ((w.filesBelow s.depth p).filter (s.selects w)) Path.le).map
    w.placeOf
  have hfiltered := hwalked.distinct.sublist
    ((List.filter_sublist (p := s.selects w) (l := w.filesBelow s.depth p)).map w.placeOf)
  exact hperm.nodup_iff.mpr hfiltered

end Workspace

end SourceWeaver.Files
