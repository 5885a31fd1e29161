/-
  The order of paths.

  Components are ordered by kind and names by their text; paths are ordered component by component.
  Not coming after is total and transitive, so that sorting by it gives a sorted list
  (`pairwise_mergeSort_le`), in which each path comes before the next if no two of them are the same
  (`pairwise_mergeSort_lt`).
-/

import SourceWeaver.Path

namespace SourceWeaver.Path

namespace Component

/-- A component comes before another if its kind does, or if both are names and its text does. -/
theorem lt_iff {a b : Component} :
    a.lt b = true ↔ a.rank < b.rank ∨ ∃ s t, a = name s ∧ b = name t ∧ s < t := by
  cases a <;> cases b <;> simp [lt, rank]

variable {a b c : Component}

theorem lt_asymm (h : a.lt b = true) : b.lt a = false := by
  rw [Bool.eq_false_iff]
  intro hback
  -- either the ranks differ or both are names, and each order is asymmetric
  rw [lt_iff] at h hback
  rcases h with h | ⟨s, t, rfl, rfl, hst⟩
  · rcases hback with hback | ⟨s, t, rfl, rfl, -⟩
    · exact Nat.lt_asymm h hback
    · exact Nat.lt_irrefl _ h
  · rcases hback with hback | ⟨s', t', hs, ht, hback⟩
    · exact Nat.lt_irrefl _ hback
    · obtain rfl := name.inj hs
      obtain rfl := name.inj ht
      exact String.lt_asymm hst hback

/-- Components of one kind that differ are names. -/
theorem eq_or_names_of_rank_eq (h : a.rank = b.rank) :
    a = b ∨ ∃ s t, a = name s ∧ b = name t := by
  cases a <;> cases b <;> simp_all [rank]

theorem lt_or_gt_of_ne (h : a ≠ b) : a.lt b = true ∨ b.lt a = true := by
  rw [lt_iff, lt_iff]
  rcases Nat.lt_trichotomy a.rank b.rank with hlt | heq | hgt
  · exact .inl (.inl hlt)
  -- components of one rank that differ are names, which the order on texts decides
  · rcases eq_or_names_of_rank_eq heq with hab | ⟨s, t, rfl, rfl⟩
    · exact absurd hab h
    · have hst : s ≠ t := fun hst => h (congrArg name hst)
      by_cases hlt : s < t
      · exact .inl (.inr ⟨s, t, rfl, rfl, hlt⟩)
      · by_cases hgt : t < s
        · exact .inr (.inr ⟨t, s, rfl, rfl, hgt⟩)
        · exact absurd (String.le_antisymm (String.not_lt.mp hgt) (String.not_lt.mp hlt)) hst
  · exact .inr (.inl hgt)

/-- Any component comes behind the first or before the second of two in order. -/
theorem lt_cotrans (h : a.lt c = true) (b : Component) : a.lt b = true ∨ b.lt c = true := by
  by_cases hab : a = b
  · exact .inr (hab ▸ h)
  · rcases lt_or_gt_of_ne hab with hlt | hgt
    · exact .inl hlt
    -- `b` is below `a`, so it is below all that `a` is below
    · refine .inr ?_
      rw [lt_iff] at h hgt ⊢
      rcases h with h | ⟨s, t, rfl, rfl, hst⟩
      · rcases hgt with hgt | ⟨s', t', rfl, rfl, -⟩
        · exact .inl (Nat.lt_trans hgt h)
        · exact .inl h
      · rcases hgt with hgt | ⟨s', t', rfl, ht, hback⟩
        · exact .inl hgt
        · obtain rfl := name.inj ht
          exact .inr ⟨s', t, rfl, rfl, String.lt_trans hback hst⟩

end Component

/-! ## Lists of components -/

theorem componentsLt_asymm {as bs : List Component} (h : componentsLt as bs = true) :
    componentsLt bs as = false := by
  induction as generalizing bs with
  | nil =>
    cases bs with
    | nil => rfl
    | cons b bs => rfl
  | cons a as ih =>
    cases bs with
    | nil => cases h
    | cons b bs =>
      rw [componentsLt] at h ⊢
      -- the first components that differ decide
      by_cases hab : a = b
      · rw [if_pos hab] at h
        rw [if_pos hab.symm]
        exact ih h
      · rw [if_neg hab] at h
        rw [if_neg (Ne.symm hab)]
        exact Component.lt_asymm h

theorem componentsLt_cotrans {as cs : List Component} (h : componentsLt as cs = true)
    (bs : List Component) : componentsLt as bs = true ∨ componentsLt bs cs = true := by
  induction as generalizing bs cs with
  | nil =>
    cases cs with
    | nil => cases h
    | cons c cs =>
      cases bs with
      | nil => exact .inr rfl
      | cons b bs => exact .inl rfl
  | cons a as ih =>
    cases cs with
    | nil => cases h
    | cons c cs =>
      cases bs with
      | nil => exact .inr rfl
      | cons b bs =>
        simp only [componentsLt] at h ⊢
        -- as long as the three agree the tails decide; else the first that differs does
        by_cases hab : a = b
        · subst hab
          by_cases hac : a = c
          · subst hac
            simp only [if_true] at h ⊢
            exact ih h bs
          · rw [if_neg hac] at h ⊢
            exact .inr h
        · rw [if_neg hab]
          by_cases hbc : b = c
          · subst hbc
            rw [if_neg hab] at h
            exact .inl h
          · rw [if_neg hbc]
            by_cases hac : a = c
            · subst hac
              exact Component.lt_or_gt_of_ne hab
            · rw [if_neg hac] at h
              exact Component.lt_cotrans h b

theorem componentsLt_or_gt_of_ne {as bs : List Component} (h : as ≠ bs) :
    componentsLt as bs = true ∨ componentsLt bs as = true := by
  induction as generalizing bs with
  | nil =>
    cases bs with
    | nil => exact absurd rfl h
    | cons b bs => exact .inl rfl
  | cons a as ih =>
    cases bs with
    | nil => exact .inr rfl
    | cons b bs =>
      rw [componentsLt, componentsLt]
      -- two lists that differ do so at a component or by their lengths
      by_cases hab : a = b
      · subst hab
        rw [if_pos rfl, if_pos rfl]
        exact ih fun heq => h (heq ▸ rfl)
      · rw [if_neg hab, if_neg (Ne.symm hab)]
        exact Component.lt_or_gt_of_ne hab

/-! ## Sorted paths -/

/-- No path comes before itself. -/
instance : Std.Irrefl fun p q : Path => p.lt q = true where
  irrefl p h := by
    have hback := componentsLt_asymm h
    rw [lt, hback] at h
    cases h

/-- No two paths come before each other. -/
instance : Std.Antisymm fun p q : Path => p.lt q = true where
  antisymm p q h hback := by
    rw [lt, componentsLt_asymm h] at hback
    cases hback

theorem le_total (p q : Path) : (p.le q || q.le p) = true := by
  unfold le lt
  cases h : componentsLt q.components p.components with
  | false => rfl
  | true =>
    rw [componentsLt_asymm h]
    rfl

theorem le_trans (p q r : Path) (hpq : p.le q = true) (hqr : q.le r = true) : p.le r = true := by
  simp only [le, lt, Bool.not_eq_true'] at hpq hqr ⊢
  rw [Bool.eq_false_iff]
  intro h
  rcases componentsLt_cotrans h q.components with hrq | hqp
  · rw [hqr] at hrq
    cases hrq
  · rw [hpq] at hqp
    cases hqp

theorem lt_of_le_of_ne {p q : Path} (h : p.le q = true) (hne : p.components ≠ q.components) :
    p.lt q = true := by
  rw [le, Bool.not_eq_true'] at h
  exact (componentsLt_or_gt_of_ne hne).resolve_right (Bool.eq_false_iff.mp h)

/-- Paths that are sorted are in order. -/
theorem pairwise_mergeSort_le (ps : List Path) :
    (ps.mergeSort le).Pairwise fun p q => p.le q = true :=
  List.pairwise_mergeSort le_trans le_total ps

/-- Of paths that are sorted each comes before those behind it, if no two of them are the same. -/
theorem pairwise_mergeSort_lt {ps : List Path} (h : (ps.map components).Nodup) :
    (ps.mergeSort le).Pairwise fun p q => p.lt q = true := by
  have hdistinct : ((ps.mergeSort le).map components).Nodup :=
    ((List.mergeSort_perm ps le).map components).nodup_iff.mpr h
  have hboth := (pairwise_mergeSort_le ps).and (List.pairwise_map.mp hdistinct)
  exact hboth.imp fun ⟨hle, hne⟩ => lt_of_le_of_ne hle hne

end SourceWeaver.Path
