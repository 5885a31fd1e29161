/-
  Comment markers on lines of their own.

  The line that opens a comment is tested against the texts of the entry-point wrapper and against
  the end of a comment first, and the line that closes one against the wrapper's texts.  So a marker
  that is one of these texts, or an opener that ends in the closer, is read as something else.  From
  one line alone it can be said when a comment is entered and left (`inComment_step_iff_opener`,
  `inComment_step_iff_closer`); what a conversion does with the markers of valid settings in all the
  states that it reaches then depends on three facts about the markers (`comments_delimited_iff`).
-/

import SourceWeaver.Proofs.Scan.Invariant
import SourceWeaver.Proofs.Settings.Valid

namespace SourceWeaver

open Text Scan

variable {cfg : Settings} {s : State} {raw : String}

namespace Scan

/-! ## One line -/

/-- Outside comments, the next line is in a comment behind a line that opens one, and behind no
    other. -/
theorem inComment_step_iff_opener (hout : s.inComment = false) :
    (step cfg s raw).1.inComment = true ↔ role cfg s (trim raw) = .opener := by
  cases hr : role cfg s (trim raw) with
  | wrapper => simp [step_of_wrapper hr, State.next, hout]
  | skipped => simp [step_of_skipped hr, State.next, hout]
  | closer => simp [step_of_closer hr, State.closeComment]
  | prose => simp [step_of_prose hr, State.next, hout]
  | opener => simp [step_of_opener hr, State.openComment]
  | code =>
    rw [step_of_code hr]
    simp [codeLine_inComment, State.next, hout]

/-- In a comment, the next line is outside behind a line that closes it, and behind no other; and then
    it is in a code block. -/
theorem inComment_step_iff_closer (hin : s.inComment = true) :
    (step cfg s raw).1.inComment = false ∧ (step cfg s raw).1.blockOpen = true ↔
      role cfg s (trim raw) = .closer := by
  cases hr : role cfg s (trim raw) with
  | wrapper => simp [step_of_wrapper hr, State.next, hin]
  | skipped => simp [step_of_skipped hr, State.next, hin]
  | closer => simp [step_of_closer hr, State.closeComment]
  | prose => simp [step_of_prose hr, State.next, hin]
  | opener => simp [step_of_opener hr, State.openComment]
  | code =>
    rw [step_of_code hr]
    simp [codeLine_inComment, State.next, hin]

/-! ## States of conversions -/

/-- A state that a conversion reaches: behind some of the lines of a source, after priming. -/
def Reached (cfg : Settings) (s : State) : Prop :=
  ∃ lines opening primed, primeHeader cfg lines = .ok (opening, primed) ∧
    ∃ read, read <+: primed ∧ (run cfg opening.start read).1 = s

theorem Reached.consistent (h : Reached cfg s) : s.Consistent := by
  obtain ⟨-, opening, -, -, read, -, rfl⟩ := h
  exact (consistent_start opening).run read

/-- A source whose second line is blank opens with a comment. -/
theorem primeHeader_blank (hv : cfg.Valid) (first : String) :
    primeHeader cfg [first, ""] = .ok (.comment, [first, "### " ++ trim ""]) := by
  have hmarker : cfg.lineComment ≠ "" := hv.marker_ne_empty .lineComment
  refine primeHeader_of_title ?_
  rw [← Bool.not_eq_true, Settings.isLineComment, startsWith, List.isPrefixOf_iff_prefix]
  exact fun hprefix => hmarker (String.toList_inj.mp (List.prefix_nil.mp hprefix))

theorem reached_start (hv : cfg.Valid) : Reached cfg Opening.comment.start :=
  ⟨["", ""], _, _, primeHeader_blank hv "", [], List.nil_prefix, rfl⟩

theorem reached_behind_first (hv : cfg.Valid) (first : String) :
    Reached cfg (step cfg Opening.comment.start first).1 :=
  ⟨[first, ""], _, _, primeHeader_blank hv first, [first], ⟨_, rfl⟩, rfl⟩

end Scan

namespace Settings

/-! ## Markers -/

/-- In every state that a conversion reaches, the opener enters a comment outside of one, unless lines
    are being skipped, and the closer leaves it for a code block. -/
structure DelimitsComments (cfg : Settings) : Prop where
  enters : ∀ s, Reached cfg s → s.inComment = false → s.skipping = false →
    (step cfg s cfg.commentOpen).1.inComment = true
  leaves : ∀ s, Reached cfg s → s.inComment = true →
    (step cfg s cfg.commentClose).1.inComment = false ∧
      (step cfg s cfg.commentClose).1.blockOpen = true

/-- Neither comment marker is left out with the entry-point wrapper, and the opener does not end in
    the closer. -/
structure MarkersApart (cfg : Settings) : Prop where
  opener_kept : cfg.elides cfg.commentOpen = false
  opener_closes_none : cfg.closesComment cfg.commentOpen = false
  closer_kept : cfg.elides cfg.commentClose = false

theorem opensComment_commentOpen (cfg : Settings) : cfg.opensComment cfg.commentOpen = true :=
  List.isPrefixOf_iff_prefix.mpr List.prefix_rfl

theorem closesComment_commentClose (cfg : Settings) : cfg.closesComment cfg.commentClose = true :=
  List.isSuffixOf_iff_suffix.mpr List.suffix_rfl

/-- What becomes of the opener does not depend on the state. -/
theorem Valid.enters_iff (hv : cfg.Valid) (hout : s.inComment = false) (hskip : s.skipping = false) :
    (step cfg s cfg.commentOpen).1.inComment = true ↔
      cfg.elides cfg.commentOpen = false ∧ cfg.closesComment cfg.commentOpen = false := by
  have htrim : trim cfg.commentOpen = cfg.commentOpen := hv.trim_marker .commentOpen
  rw [inComment_step_iff_opener hout, htrim, role_eq_opener_iff, hskip, hout,
    cfg.opensComment_commentOpen]
  simp

/-- Neither does what becomes of the closer, since no lines are skipped in a comment. -/
theorem Valid.leaves_iff (hv : cfg.Valid) (hs : s.Consistent) (hin : s.inComment = true) :
    ((step cfg s cfg.commentClose).1.inComment = false ∧
        (step cfg s cfg.commentClose).1.blockOpen = true) ↔
      cfg.elides cfg.commentClose = false := by
  have htrim : trim cfg.commentClose = cfg.commentClose := hv.trim_marker .commentClose
  have hskip : s.skipping = false := by
    cases hskip : s.skipping with
    | false => rfl
    | true => exact absurd (hin.symm.trans (hs.skipping hskip).1) (by decide)
  rw [inComment_step_iff_closer hin, htrim, role_eq_closer_iff, hskip,
    cfg.closesComment_commentClose]
  simp

/-- Valid settings delimit comments in every state that a conversion reaches exactly if neither
    comment marker is left out with the entry-point wrapper and the opener does not end in the
    closer. -/
theorem comments_delimited_iff (hv : cfg.Valid) : cfg.DelimitsComments ↔ cfg.MarkersApart := by
  constructor
  · intro h
    have hstart := h.enters _ (reached_start hv) rfl rfl
    -- behind the opener as the first line, the conversion is in a comment
    have hcloser := h.leaves _ (reached_behind_first hv cfg.commentOpen) hstart
    obtain ⟨hkept, hnone⟩ := (hv.enters_iff rfl rfl).mp hstart
    exact ⟨hkept, hnone, (hv.leaves_iff (reached_behind_first hv _).consistent hstart).mp hcloser⟩
  · intro h
    constructor
    · intro s _ hout hskip
      exact (hv.enters_iff hout hskip).mpr ⟨h.opener_kept, h.opener_closes_none⟩
    · intro s hs hin
      exact (hv.leaves_iff hs.consistent hin).mpr h.closer_kept

/-- The closer may be a text of the wrapper where the wrapper is kept, and the opener may contain the
    closer elsewhere than at its end. -/
theorem comments_delimited_of_kept_wrapper :
    Settings.Valid
        { keepEntryPoint := true, entryClose := "-->", commentOpen := "-->--", commentClose := "-->" } ∧
      Settings.DelimitsComments
        { keepEntryPoint := true, entryClose := "-->", commentOpen := "-->--",
          commentClose := "-->" } := by
  have hv : Settings.Valid
      { keepEntryPoint := true, entryClose := "-->", commentOpen := "-->--",
        commentClose := "-->" } := by decide
  exact ⟨hv, (comments_delimited_iff hv).mpr ⟨by decide, by decide, by decide⟩⟩

/-- Valid settings whose opener ends in the closer, so that it is read as the end of a comment; and
    others whose closer is a text of the wrapper, so that it is left out and the comment goes on. -/
theorem comments_not_delimited :
    (Settings.Valid { commentOpen := "/**/" } ∧
      ¬Settings.DelimitsComments { commentOpen := "/**/" } ∧
      convert { commentOpen := "/**/" } ["/**/", "T", "*/", "x;"] =
        .ok ⟨["", "```", "### T", "", "```", "x;", "```", ""]⟩) ∧
    Settings.Valid { entryClose := "*/" } ∧
      ¬Settings.DelimitsComments { entryClose := "*/" } ∧
      convert { entryClose := "*/" } ["/*", "T", "*/", "x;"] = .ok ⟨["### T", "x;"]⟩ := by
  have hopener : Settings.Valid { commentOpen := "/**/" } := by decide
  have hcloser : Settings.Valid { entryClose := "*/" } := by decide
  refine ⟨⟨hopener, ?_, by decide +kernel⟩, hcloser, ?_, by decide +kernel⟩
  · intro h
    exact absurd (h.enters _ (reached_start hopener) rfl rfl) (by decide)
  · intro h
    exact absurd (h.leaves _ (reached_behind_first hcloser "/*") (by decide)).1 (by decide)

end Settings
end SourceWeaver
