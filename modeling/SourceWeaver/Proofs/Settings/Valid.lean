/-
  What valid settings guarantee.

  `Settings.problem?` reports the first problem in a fixed order; `Settings.valid_iff` says which
  checks settings without a problem have passed, so that later modules need not open `problem?`
  again.  Main consequences: the line that opens a code block is not empty
  (`Valid.fenceOpen_ne_empty`), nor is the one that closes it, and trimming leaves the opening
  line as it is (`Valid.trim_fenceOpen`).
-/

import SourceWeaver.Markers
import SourceWeaver.Proofs.Text.Trimming
import SourceWeaver.Settings.Problem

namespace SourceWeaver

open Text

/-! ## Fences -/

/-- Every character of a fence is the same backtick or tilde. -/
theorem isFence_iff {fence : List Char} :
    isFence fence = true ↔
      ∃ c, (c = '`' ∨ c = '~') ∧ (∀ d ∈ fence, d = c) ∧ minFenceLength ≤ fence.length := by
  cases fence with
  | nil => simp [isFence, minFenceLength]
  | cons c rest =>
    simp only [isFence, Bool.and_eq_true, Bool.or_eq_true, beq_iff_eq, List.all_eq_true,
      decide_eq_true_eq, List.mem_cons, forall_eq_or_imp]
    constructor
    · rintro ⟨⟨hc, hall⟩, hlen⟩
      exact ⟨c, hc, ⟨rfl, hall⟩, hlen⟩
    · rintro ⟨d, hd, ⟨rfl, hall⟩, hlen⟩
      exact ⟨⟨hd, hall⟩, hlen⟩

namespace Settings

variable {s : Settings}

/-! ## The checks -/

/-- Settings are valid exactly if they pass every check. -/
theorem valid_iff :
    s.Valid ↔
      (0 < s.indentWidth ∧ s.indentWidth ≤ maxIndentWidth) ∧
      (∀ m, markerProblem? m (s.marker m) = none) ∧
      s.commentOpen ≠ s.commentClose ∧
      isFence s.fence.toList = true ∧
      ∀ c ∈ s.fenceInfo.toList, isBlank c = false := by
  -- the markers are checked in order, so there is no problem if none of them has one
  have hmarkers :
      (Marker.all.findSome? fun m => markerProblem? m (s.marker m)) = none ↔
        ∀ m, markerProblem? m (s.marker m) = none := by
    rw [List.findSome?_eq_none_iff]
    exact ⟨fun h m => h m (Marker.mem_all m), fun h m _ => h m⟩
  rw [← hmarkers]
  unfold Valid problem?
  grind

/-- Trimming leaves every marker as it is. -/
theorem Valid.trim_marker (h : s.Valid) (m : Marker) : trim (s.marker m) = s.marker m := by
  have hm := (valid_iff.mp h).2.1 m
  unfold markerProblem? at hm
  grind

theorem Valid.marker_ne_empty (h : s.Valid) (m : Marker) : s.marker m ≠ "" := by
  have hm := (valid_iff.mp h).2.1 m
  have hempty : trim "" = "" := by decide
  unfold markerProblem? at hm
  grind

/-- An empty line is no line of the entry-point wrapper. -/
theorem Valid.not_isEntryPoint_empty (h : s.Valid) : s.isEntryPoint "" = false := by
  have hopen : s.entryOpen ≠ "" := h.marker_ne_empty .entryOpen
  have hclose : s.entryClose ≠ "" := h.marker_ne_empty .entryClose
  simp [isEntryPoint, hopen.symm, hclose.symm]

theorem Valid.isFence (h : s.Valid) : isFence s.fence.toList = true :=
  (valid_iff.mp h).2.2.2.1

theorem Valid.no_blank_info (h : s.Valid) : ∀ c ∈ s.fenceInfo.toList, isBlank c = false :=
  (valid_iff.mp h).2.2.2.2

/-! ## The lines around a code block -/

theorem Valid.no_blank_fence (h : s.Valid) : ∀ c ∈ s.fence.toList, isBlank c = false := by
  intro c hc
  obtain ⟨d, hd, hall, -⟩ := isFence_iff.mp h.isFence
  rw [hall c hc]
  rcases hd with rfl | rfl <;> decide

/-- No character of the line that opens a code block is white space. -/
theorem Valid.no_blank_fenceOpen (h : s.Valid) : ∀ c ∈ s.fenceOpen.toList, isBlank c = false := by
  intro c hc
  rw [fenceOpen, String.toList_append, List.mem_append] at hc
  rcases hc with hc | hc
  · exact h.no_blank_fence c hc
  · exact h.no_blank_info c hc

theorem Valid.trim_fence (h : s.Valid) : trim s.fence = s.fence := by
  rw [trim, trimmed_eq_self h.no_blank_fence, String.ofList_toList]

theorem Valid.trim_fenceOpen (h : s.Valid) : trim s.fenceOpen = s.fenceOpen := by
  rw [trim, trimmed_eq_self h.no_blank_fenceOpen, String.ofList_toList]

theorem Valid.fence_ne_empty (h : s.Valid) : s.fence ≠ "" := by
  intro hempty
  obtain ⟨-, -, -, hlen⟩ := isFence_iff.mp h.isFence
  rw [hempty] at hlen
  exact absurd hlen (by decide)

theorem Valid.fenceOpen_ne_empty (h : s.Valid) : s.fenceOpen ≠ "" := by
  intro hempty
  apply h.fence_ne_empty
  rw [fenceOpen, String.append_eq_empty_iff] at hempty
  exact hempty.1

end Settings
end SourceWeaver
