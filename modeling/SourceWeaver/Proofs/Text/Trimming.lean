/-
  Texts that trimming leaves as they are.

  Trimming takes away white space at both ends alone, so a text that neither begins nor ends with
  white space is its own trimmed form (`trimmed_eq_self_of_ends`).  White space in front of a text
  makes no difference to its trimmed form (`trimmed_append_of_blank`), and a word in front of a
  trimmed text stays (`trim_append_trim`).  What does not begin with white space keeps its beginning
  (`head?_trimmed_cons`), and a trimmed text has white space at neither end
  (`isBlank_of_mem_head?_trim`, `isBlank_of_mem_getLast?_trim`).
-/

import SourceWeaver.Text.Blank

namespace SourceWeaver.Text

/-- A text that neither begins nor ends with white space is its own trimmed form. -/
theorem trimmed_eq_self_of_ends {cs : List Char} (hhead : ∀ c ∈ cs.head?, isBlank c = false)
    (hlast : ∀ c ∈ cs.getLast?, isBlank c = false) : trimmed cs = cs := by
  have hdrop : cs.dropWhile isBlank = cs := by
    cases cs with
    | nil => rfl
    | cons c rest =>
      have hc : isBlank c = false := hhead c rfl
      rw [List.dropWhile_cons_of_neg (by simp [hc])]
  rw [trimmed, hdrop]
  exact trimmedEnd_eq_self fun hne => hlast _ (List.getLast?_eq_some_getLast hne)

/-- A text without white space is its own trimmed form. -/
theorem trimmed_eq_self {cs : List Char} (h : ∀ c ∈ cs, isBlank c = false) : trimmed cs = cs :=
  trimmed_eq_self_of_ends (fun c hc => h c (List.mem_of_mem_head? hc))
    fun c hc => h c (List.mem_of_getLast? hc)

/-- White space in front of a text is trimmed away. -/
theorem trimmed_append_of_blank {front : List Char} (h : ∀ c ∈ front, isBlank c = true)
    (cs : List Char) : trimmed (front ++ cs) = trimmed cs := by
  rw [trimmed, trimmed, List.dropWhile_append_of_pos h]

/-- Trimming keeps the first character of a text that does not begin with white space. -/
theorem head?_trimmed_cons {c : Char} (hc : isBlank c = false) (rest : List Char) :
    (trimmed (c :: rest)).head? = some c := by
  rw [trimmed, List.dropWhile_cons_of_neg (by simp [hc]), trimmedEnd, List.reverse_cons,
    List.dropWhile_append]
  -- read from its end, the text has its first character last
  split
  · rw [List.dropWhile_cons_of_neg (by simp [hc])]
    rfl
  · rw [List.reverse_append]
    rfl

theorem mem_of_mem_trim {c : Char} {s : String} (h : c ∈ (trim s).toList) : c ∈ s.toList := by
  have hfront : trimmed s.toList <+: s.toList.dropWhile isBlank := trimmedEnd_prefix _
  rw [toList_trim] at h
  exact (List.dropWhile_sublist isBlank).subset (hfront.subset h)

theorem isBlank_of_mem_head?_trim {c : Char} {s : String} (h : c ∈ (trim s).toList.head?) :
    isBlank c = false := by
  rw [toList_trim] at h
  have hne : trimmed s.toList ≠ [] := by
    intro hnil
    rw [hnil] at h
    cases h
  rw [List.head?_eq_some_head hne, Option.mem_some_iff] at h
  exact h ▸ isBlank_head_trimmed s.toList hne

theorem isBlank_of_mem_getLast?_trim {c : Char} {s : String} (h : c ∈ (trim s).toList.getLast?) :
    isBlank c = false := by
  rw [toList_trim] at h
  have hne : trimmed s.toList ≠ [] := by
    intro hnil
    rw [hnil] at h
    cases h
  rw [List.getLast?_eq_some_getLast hne, Option.mem_some_iff] at h
  exact h ▸ isBlank_getLast_trimmed s.toList hne

/-- Behind a word, a trimmed text that is not blank is trimmed as a whole. -/
theorem trim_append_trim {front text : String} {c : Char} (hfront : front.toList.head? = some c)
    (hc : isBlank c = false) (htext : trim text ≠ "") :
    trim (front ++ trim text) = front ++ trim text := by
  have hne : trimmed text.toList ≠ [] := by
    intro hnil
    apply htext
    rw [trim, hnil, String.ofList_nil]
  have hself : trimmed (front ++ trim text).toList = (front ++ trim text).toList := by
    rw [String.toList_append, toList_trim]
    -- nothing is trimmed where both ends are visible
    apply trimmed_eq_self_of_ends
    · intro d hd
      rw [List.head?_append, hfront, Option.some_or, Option.mem_some_iff] at hd
      exact hd ▸ hc
    · intro d hd
      rw [List.getLast?_append, List.getLast?_eq_some_getLast hne, Option.some_or,
        Option.mem_some_iff] at hd
      exact hd ▸ isBlank_getLast_trimmed text.toList hne
  rw [trim, hself, String.ofList_toList]

end SourceWeaver.Text
