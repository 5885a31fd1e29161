/-
  White space, trimming, and the beginnings and ends of lines.

  `isBlank` is the Unicode property White_Space.  `trim` removes it from both ends of a line:
  what is left neither begins nor ends with white space (`isBlank_head_trimmed`,
  `isBlank_getLast_trimmed`), and a second trim finds nothing to do (`trim_trim`).
-/

namespace SourceWeaver.Text

/-! ## White space -/

/-- Characters with the Unicode property White_Space. -/
def isBlank (c : Char) : Bool :=
  let n := c.toNat
  (9 ≤ n && n ≤ 13) || n == 0x20 || n == 0x85 || n == 0xA0 || n == 0x1680 ||
    (0x2000 ≤ n && n ≤ 0x200A) || n == 0x2028 || n == 0x2029 || n == 0x202F || n == 0x205F ||
    n == 0x3000

/-! ## Trimming -/

/-- A text without the white space at its end. -/
def trimmedEnd (cs : List Char) : List Char :=
  (cs.reverse.dropWhile isBlank).reverse

/-- A text without the white space at both ends. -/
def trimmed (cs : List Char) : List Char :=
  trimmedEnd (cs.dropWhile isBlank)

/-- A line without the white space at both ends. -/
def trim (s : String) : String :=
  String.ofList (trimmed s.toList)

theorem toList_trim (s : String) : (trim s).toList = trimmed s.toList :=
  String.toList_ofList

/-- The last character that trimming keeps is not white space. -/
theorem isBlank_getLast_trimmedEnd (cs : List Char) (h : trimmedEnd cs ≠ []) :
    isBlank ((trimmedEnd cs).getLast h) = false := by
  have hne : cs.reverse.dropWhile isBlank ≠ [] := fun hn => h (by simp [trimmedEnd, hn])
  have := List.head_dropWhile_not isBlank (l := cs.reverse) hne
  simpa [trimmedEnd, List.getLast_reverse] using this

/-- A text that does not end in white space keeps its end. -/
theorem trimmedEnd_eq_self {cs : List Char}
    (h : ∀ hne : cs ≠ [], isBlank (cs.getLast hne) = false) : trimmedEnd cs = cs := by
  by_cases hne : cs = []
  · subst hne; rfl
  · have hlast := h hne
    unfold trimmedEnd
    have hr : cs.reverse ≠ [] := by simpa using hne
    have hhead : cs.reverse.head hr = cs.getLast hne := by simp
    cases hc : cs.reverse with
    | nil => exact absurd hc hr
    | cons a as =>
      have ha : a = cs.getLast hne := by simpa [hc] using hhead
      rw [List.dropWhile_cons_of_neg (by simp [ha, hlast]), ← hc, List.reverse_reverse]

/-- Trimming the end of a text leaves a beginning of it. -/
theorem trimmedEnd_prefix (cs : List Char) : trimmedEnd cs <+: cs := by
  have h := (List.dropWhile_suffix isBlank (l := cs.reverse)).reverse
  rwa [List.reverse_reverse] at h

/-- The first character that trimming keeps is not white space. -/
theorem isBlank_head_trimmed (cs : List Char) (h : trimmed cs ≠ []) :
    isBlank ((trimmed cs).head h) = false := by
  have hp : trimmed cs <+: cs.dropWhile isBlank := trimmedEnd_prefix _
  have hd : cs.dropWhile isBlank ≠ [] := by
    intro hn
    rw [hn, List.prefix_nil] at hp
    exact h hp
  rw [hp.head h]
  exact List.head_dropWhile_not isBlank hd

/-- The last character that trimming keeps is not white space. -/
theorem isBlank_getLast_trimmed (cs : List Char) (h : trimmed cs ≠ []) :
    isBlank ((trimmed cs).getLast h) = false :=
  isBlank_getLast_trimmedEnd (cs.dropWhile isBlank) h

theorem trimmed_trimmed (cs : List Char) : trimmed (trimmed cs) = trimmed cs := by
  have hdrop : (trimmed cs).dropWhile isBlank = trimmed cs := by
    cases hc : trimmed cs with
    | nil => rfl
    | cons c rest =>
      have hne : trimmed cs ≠ [] := by rw [hc]; exact List.cons_ne_nil c rest
      have hhead : isBlank c = false := by simpa [hc] using isBlank_head_trimmed cs hne
      rw [List.dropWhile_cons_of_neg (by simp [hhead])]
  show trimmedEnd ((trimmed cs).dropWhile isBlank) = trimmed cs
  rw [hdrop]
  exact trimmedEnd_eq_self (isBlank_getLast_trimmed cs)

/-- A second trim finds nothing to do. -/
theorem trim_trim (s : String) : trim (trim s) = trim s := by
  rw [trim, toList_trim, trimmed_trimmed, trim]

/-! ## Beginnings and ends -/

/-- Whether a line begins with a marker. -/
def startsWith (line marker : String) : Bool :=
  marker.toList.isPrefixOf line.toList

/-- Whether a line ends with a marker. -/
def endsWith (line marker : String) : Bool :=
  marker.toList.isSuffixOf line.toList

end SourceWeaver.Text
