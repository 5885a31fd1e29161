/-
  Fences as CommonMark reads them.

  A line opens a code block with a run of at least three backticks or of at least three tildes, and a
  line closes it that is such a run and not shorter.  What follows the opening run is free, but for
  a backtick behind backticks.  `CodeFence.opening?` and `CodeFence.closedBy` say so.

  The lines that a conversion puts around code are the fence of the settings, with the info word
  behind it where a block opens.  Valid settings have a proper fence and an info word without white
  space; whether the second line closes what the first one opens is then up to the info word alone
  (`fences_pair_iff`).
-/

import SourceWeaver.Proofs.Settings.Valid

namespace SourceWeaver

open Text

/-! ## Code fences -/

/-- The line that opens a code block: so many backticks or tildes, and what follows them. -/
structure CodeFence where
  mark : Char
  length : Nat
  info : List Char
deriving DecidableEq, Repr

namespace CodeFence

/-- How a line opens a code block, if it does. -/
def opening? (line : List Char) : Option CodeFence :=
  match line.head? with
  | none => none
  | some c =>
    let run := line.takeWhile (· == c)
    let info := line.dropWhile (· == c)
    if (c = '`' ∨ c = '~') ∧ minFenceLength ≤ run.length ∧ ¬(c = '`' ∧ '`' ∈ info) then
      some { mark := c, length := run.length, info }
    else none

/-- Whether a line closes the block that a fence has opened. -/
def closedBy (f : CodeFence) (line : List Char) : Bool :=
  line.all (· == f.mark) && f.length ≤ line.length

end CodeFence

namespace Settings

variable {cfg : Settings}

/-! ## Fences of settings -/

/-- The character of which the fence is made. -/
def fenceMark (cfg : Settings) : Char :=
  cfg.fence.toList.headD '`'

/-- The line that opens a block begins with as many marks as close it, and no backtick follows
    backticks. -/
structure FencesPair (cfg : Settings) : Prop where
  length_run :
    (cfg.fenceOpen.toList.takeWhile (· == cfg.fenceMark)).length = cfg.fence.toList.length
  no_backtick : cfg.fenceMark = '`' → '`' ∉ cfg.fenceOpen.toList.dropWhile (· == cfg.fenceMark)

/-- The line that closes a block closes what the line that opens it has opened. -/
def FenceCloses (cfg : Settings) : Prop :=
  (CodeFence.opening? cfg.fenceOpen.toList).any (·.closedBy cfg.fence.toList) = true

/-- The info word does not go on with the fence, and has no backtick behind backticks. -/
structure InfoFits (cfg : Settings) : Prop where
  head_ne : cfg.fenceInfo.toList.head? ≠ some cfg.fenceMark
  no_backtick : cfg.fenceMark = '`' → '`' ∉ cfg.fenceInfo.toList

/-- Whether the two lines pair is found by reading them. -/
instance (cfg : Settings) : Decidable cfg.FenceCloses :=
  inferInstanceAs (Decidable (_ = true))

/-- Whether an info word fits is found from its characters and the fence. -/
instance (cfg : Settings) : Decidable cfg.InfoFits :=
  decidable_of_iff
    (cfg.fenceInfo.toList.head? ≠ some cfg.fenceMark ∧
      (cfg.fenceMark = '`' → '`' ∉ cfg.fenceInfo.toList))
    ⟨fun ⟨hhead, hnone⟩ => ⟨hhead, hnone⟩, fun h => ⟨h.head_ne, h.no_backtick⟩⟩

/-! ## The opening line in two parts -/

/-- A valid fence is made of its mark, a backtick or a tilde, at least three times. -/
theorem Valid.fenceMark (h : cfg.Valid) :
    (cfg.fenceMark = '`' ∨ cfg.fenceMark = '~') ∧ (∀ d ∈ cfg.fence.toList, d = cfg.fenceMark) ∧
      minFenceLength ≤ cfg.fence.toList.length := by
  obtain ⟨c, hc, hall, hlen⟩ := isFence_iff.mp h.isFence
  -- the mark is the first character of the fence, and all its characters are one
  have hmark : cfg.fenceMark = c := by
    unfold Settings.fenceMark
    cases hfence : cfg.fence.toList with
    | nil =>
      rw [hfence] at hlen
      exact absurd hlen (by decide)
    | cons d rest => exact hall d (by rw [hfence]; exact List.mem_cons_self ..)
  rw [hmark]
  exact ⟨hc, hall, hlen⟩

theorem Valid.head?_fenceOpen (h : cfg.Valid) :
    cfg.fenceOpen.toList.head? = some cfg.fenceMark := by
  obtain ⟨-, -, hlen⟩ := h.fenceMark
  rw [fenceOpen, String.toList_append, Settings.fenceMark]
  cases hfence : cfg.fence.toList with
  | nil =>
    rw [hfence] at hlen
    exact absurd hlen (by decide)
  | cons d rest => rfl

/-- The run at the beginning of the opening line is the fence and the marks with which the info word
    begins. -/
theorem Valid.takeWhile_fenceOpen (h : cfg.Valid) :
    cfg.fenceOpen.toList.takeWhile (· == cfg.fenceMark) =
      cfg.fence.toList ++ cfg.fenceInfo.toList.takeWhile (· == cfg.fenceMark) := by
  obtain ⟨-, hall, -⟩ := h.fenceMark
  rw [fenceOpen, String.toList_append,
    List.takeWhile_append_of_pos fun d hd => beq_iff_eq.mpr (hall d hd)]

theorem Valid.dropWhile_fenceOpen (h : cfg.Valid) :
    cfg.fenceOpen.toList.dropWhile (· == cfg.fenceMark) =
      cfg.fenceInfo.toList.dropWhile (· == cfg.fenceMark) := by
  obtain ⟨-, hall, -⟩ := h.fenceMark
  rw [fenceOpen, String.toList_append,
    List.dropWhile_append_of_pos fun d hd => beq_iff_eq.mpr (hall d hd)]

/-- A text begins with no mark exactly if none is read off its beginning. -/
theorem takeWhile_eq_nil_iff_head {c : Char} {cs : List Char} :
    cs.takeWhile (· == c) = [] ↔ cs.head? ≠ some c := by
  cases cs with
  | nil => simp
  | cons d rest => by_cases hd : d = c <;> simp [hd]

/-- An info word that does not begin with the mark is all that follows the run. -/
theorem infoFits_iff :
    cfg.InfoFits ↔ cfg.fenceInfo.toList.takeWhile (· == cfg.fenceMark) = [] ∧
      (cfg.fenceMark = '`' → '`' ∉ cfg.fenceInfo.toList.dropWhile (· == cfg.fenceMark)) := by
  rw [takeWhile_eq_nil_iff_head]
  -- nothing is dropped from a word that does not begin with the mark
  have hdrop (hhead : cfg.fenceInfo.toList.head? ≠ some cfg.fenceMark) :
      cfg.fenceInfo.toList.dropWhile (· == cfg.fenceMark) = cfg.fenceInfo.toList := by
    have happend := List.takeWhile_append_dropWhile (p := (· == cfg.fenceMark))
      (l := cfg.fenceInfo.toList)
    rwa [takeWhile_eq_nil_iff_head.mpr hhead, List.nil_append] at happend
  constructor
  · rintro ⟨hhead, hnone⟩
    rw [hdrop hhead]
    exact ⟨hhead, hnone⟩
  · rintro ⟨hhead, hnone⟩
    rw [hdrop hhead] at hnone
    exact ⟨hhead, hnone⟩

/-! ## Whether fences pair up -/

theorem Valid.fencesPair_iff (h : cfg.Valid) : cfg.FencesPair ↔ cfg.InfoFits := by
  have hlength : (cfg.fence.toList ++
        cfg.fenceInfo.toList.takeWhile (· == cfg.fenceMark)).length = cfg.fence.toList.length ↔
      cfg.fenceInfo.toList.takeWhile (· == cfg.fenceMark) = [] := by
    rw [List.length_append, Nat.add_eq_left, List.length_eq_zero_iff]
  rw [infoFits_iff, ← hlength, ← h.takeWhile_fenceOpen, ← h.dropWhile_fenceOpen]
  exact ⟨fun hp => ⟨hp.length_run, hp.no_backtick⟩, fun ⟨hrun, hnone⟩ => ⟨hrun, hnone⟩⟩

/-- The opening line opens a block unless a backtick follows backticks, with a run that may be longer
    than the fence. -/
theorem Valid.opening?_fenceOpen (h : cfg.Valid) :
    CodeFence.opening? cfg.fenceOpen.toList =
      if cfg.fenceMark = '`' ∧ '`' ∈ cfg.fenceInfo.toList.dropWhile (· == cfg.fenceMark) then none
      else some
        { mark := cfg.fenceMark
          length := cfg.fence.toList.length +
            (cfg.fenceInfo.toList.takeWhile (· == cfg.fenceMark)).length
          info := cfg.fenceInfo.toList.dropWhile (· == cfg.fenceMark) } := by
  obtain ⟨hmark, -, hlen⟩ := h.fenceMark
  -- marks at the front of the info string make the opening fence longer
  have hrun : minFenceLength ≤ cfg.fence.toList.length +
      (cfg.fenceInfo.toList.takeWhile (· == cfg.fenceMark)).length := by omega
  rw [CodeFence.opening?, h.head?_fenceOpen]
  dsimp only
  rw [h.takeWhile_fenceOpen, h.dropWhile_fenceOpen, List.length_append]
  by_cases hbacktick : cfg.fenceMark = '`' ∧
      '`' ∈ cfg.fenceInfo.toList.dropWhile (· == cfg.fenceMark)
  · rw [if_pos hbacktick, if_neg fun hopens => hopens.2.2 hbacktick]
  · rw [if_neg hbacktick, if_pos ⟨hmark, hrun, hbacktick⟩]

theorem Valid.fenceCloses_iff (h : cfg.Valid) : cfg.FenceCloses ↔ cfg.InfoFits := by
  obtain ⟨-, hall, -⟩ := h.fenceMark
  have hmarks : cfg.fence.toList.all (· == cfg.fenceMark) = true :=
    List.all_eq_true.mpr fun d hd => beq_iff_eq.mpr (hall d hd)
  rw [FenceCloses, h.opening?_fenceOpen, infoFits_iff]
  split
  · next hbacktick =>
    -- the line opens no block that could be closed
    refine iff_of_false Bool.false_ne_true ?_
    rintro ⟨-, hnone⟩
    exact hnone hbacktick.1 hbacktick.2
  · next hnone =>
    have hshort (n m : Nat) : n + m ≤ n ↔ m = 0 := by omega
    rw [Option.any_some, CodeFence.closedBy, hmarks, Bool.true_and, decide_eq_true_eq, hshort,
      List.length_eq_zero_iff]
    exact (and_iff_left fun hmark hmem => hnone ⟨hmark, hmem⟩).symm

/-- The fences of valid settings pair up, the line that closes a block being as long as the run that
    opens it, exactly if the info word does not begin with the mark of the fence and has no backtick
    behind a fence of backticks; and exactly then CommonMark reads the one as the end of the other. -/
theorem fences_pair_iff (hv : cfg.Valid) :
    (cfg.FencesPair ↔ cfg.InfoFits) ∧ (cfg.FenceCloses ↔ cfg.InfoFits) :=
  ⟨hv.fencesPair_iff, hv.fenceCloses_iff⟩

/-- Behind tildes an info word may have a tilde, if it does not begin with it, and any backticks. -/
theorem fences_pair_of_tildes :
    Settings.Valid { fence := "~~~~", fenceInfo := "c`~" } ∧
      Settings.FencesPair { fence := "~~~~", fenceInfo := "c`~" } ∧
      Settings.FenceCloses { fence := "~~~~", fenceInfo := "c`~" } := by
  have hv : Settings.Valid { fence := "~~~~", fenceInfo := "c`~" } := by decide
  have hfits : Settings.InfoFits { fence := "~~~~", fenceInfo := "c`~" } := by decide
  exact ⟨hv, (fences_pair_iff hv).1.mpr hfits, (fences_pair_iff hv).2.mpr hfits⟩

/-- Valid settings in which the info word makes the opening run longer than the line that is to close
    it, and others in which it keeps the line from opening a block. -/
theorem fences_not_paired :
    (Settings.Valid { fenceInfo := "`c" } ∧
      CodeFence.opening? (Settings.fenceOpen { fenceInfo := "`c" }).toList =
        some { mark := '`', length := 4, info := ['c'] } ∧
      ¬Settings.FencesPair { fenceInfo := "`c" } ∧ ¬Settings.FenceCloses { fenceInfo := "`c" }) ∧
    Settings.Valid { fenceInfo := "c`" } ∧
      CodeFence.opening? (Settings.fenceOpen { fenceInfo := "c`" }).toList = none ∧
      ¬Settings.FencesPair { fenceInfo := "c`" } ∧ ¬Settings.FenceCloses { fenceInfo := "c`" } := by
  refine ⟨⟨by decide, by decide, ?_, by decide⟩, by decide, by decide, ?_, by decide⟩
  · intro hpair
    exact absurd hpair.length_run (by decide)
  · intro hpair
    exact absurd hpair.no_backtick (by decide)

end Settings
end SourceWeaver
