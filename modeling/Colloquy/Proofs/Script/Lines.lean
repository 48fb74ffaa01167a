import Colloquy.Proofs.Script.Reading

/-!
# Lines of scripts

What the statements of a script are when its text is put together from parts or loses the blanks
around it.

* `exists_trim_append`: a text is its trimmed form with blanks on both sides;
* `statementsOf`: the statements of a text, each of them within one line;
* `statementsOf_append_lineFeed`: texts in two lines have the statements of both;
* `statementsOf_blank_append`, `statementsOf_append_blank`: blanks around a text do not matter;
* `scriptLines_strip`: a script without the blanks around it has the same statements.
-/

namespace Colloquy

open Text

/-! ### Blanks around a text -/

namespace Text

variable {s t : List Char}

theorem trim_blank_append (ht : ∀ c ∈ t, isBlank c = true) : trim (t ++ s) = trim s := by
  rw [trim, trim, List.dropWhile_append_of_pos ht]

theorem trimEnd_append_blank (ht : ∀ c ∈ t, isBlank c = true) : trimEnd (s ++ t) = trimEnd s := by
  have hreverse : ∀ c ∈ t.reverse, isBlank c = true := fun c hc => ht c (List.mem_reverse.mp hc)
  rw [trimEnd, trimEnd, List.reverse_append, List.dropWhile_append_of_pos hreverse]

theorem trim_append_blank (ht : ∀ c ∈ t, isBlank c = true) : trim (s ++ t) = trim s := by
  rw [trim, trim, List.dropWhile_append]
  split
  · next hempty =>
    -- the text is blank too, so nothing is left of either part
    have hrest : t.dropWhile isBlank = [] := by simpa [List.dropWhile_eq_nil_iff] using ht
    rw [List.isEmpty_iff.mp hempty, hrest]
  · exact trimEnd_append_blank ht

/-- A text is its trimmed form with blanks on both sides. -/
theorem exists_trim_append (s : List Char) :
    ∃ before after, (∀ c ∈ before, isBlank c = true) ∧ (∀ c ∈ after, isBlank c = true) ∧
      s = before ++ (trim s ++ after) := by
  have hend := @List.takeWhile_append_dropWhile _ isBlank (s.dropWhile isBlank).reverse
  have hsplit : s.dropWhile isBlank =
      trim s ++ ((s.dropWhile isBlank).reverse.takeWhile isBlank).reverse := by
    rw [trim, trimEnd, ← List.reverse_append, hend, List.reverse_reverse]
  refine ⟨s.takeWhile isBlank, ((s.dropWhile isBlank).reverse.takeWhile isBlank).reverse,
    fun c => List.mem_takeWhile_imp, fun c hc => ?_, ?_⟩
  · exact List.mem_takeWhile_imp (List.mem_reverse.mp hc)
  · rw [← hsplit, List.takeWhile_append_dropWhile]

theorem mem_of_mem_trim {c : Char} (hc : c ∈ trim s) : c ∈ s := by
  obtain ⟨before, after, -, -, htext⟩ := exists_trim_append s
  rw [htext]
  simp [hc]

/-- A text keeps its first character when it is trimmed, unless that is a blank. -/
theorem exists_trim_cons {c : Char} (hc : isBlank c = false) (s : List Char) :
    ∃ rest, trim (c :: s) = c :: rest := by
  have hdrop : (c :: s).dropWhile isBlank = c :: s := List.dropWhile_cons_of_neg (by simp [hc])
  rw [trim, hdrop, trimEnd, List.reverse_cons, List.dropWhile_append]
  split
  · exact ⟨[], by simp [hc]⟩
  · exact ⟨_, List.reverse_concat ..⟩

theorem lineFeed_notMem_of_mem_lines {line : List Char} (h : line ∈ lines s) : '\n' ∉ line := by
  intro hmem
  have hother := eq_false_of_mem_splitOnP h '\n' hmem
  simp at hother

end Text

/-! ### Statements of a text -/

/-- The statements of a text. -/
def statementsOf (s : List Char) : List (List Char) := ((lines s).map trim).filter isStatement

theorem scriptLines_eq (script : String) :
    scriptLines script = (statementsOf script.toList).map String.ofList := rfl

variable {s t : List Char}

/-- Texts in two lines have the statements of both.  The other facts about statements follow. -/
theorem statementsOf_append_lineFeed (s t : List Char) :
    statementsOf (s ++ '\n' :: t) = statementsOf s ++ statementsOf t := by
  have hlines : lines (s ++ '\n' :: t) = lines s ++ lines t :=
    List.splitOnP_append_cons s t (beq_self_eq_true '\n')
  rw [statementsOf, hlines, List.map_append, List.filter_append]
  rfl

/-- A text in one line is a statement at most. -/
theorem statementsOf_line (hs : '\n' ∉ s) : statementsOf s = [trim s].filter isStatement := by
  have hline : lines s = [s] := by
    refine List.splitOnP_eq_singleton fun c hc => beq_eq_false_iff_ne.mpr ?_
    rintro rfl
    exact hs hc
  rw [statementsOf, hline]
  rfl

/-- A statement stays within one line. -/
theorem lineFeed_notMem_of_mem_statementsOf (h : t ∈ statementsOf s) : '\n' ∉ t := by
  obtain ⟨line, hline, rfl⟩ := List.mem_map.mp (List.mem_of_mem_filter h)
  exact fun hmem => lineFeed_notMem_of_mem_lines hline (mem_of_mem_trim hmem)

/-- A text ends its first line or has only one. -/
theorem line_or_lines (s : List Char) :
    '\n' ∉ s ∨ ∃ line rest, '\n' ∉ line ∧ s = line ++ '\n' :: rest := by
  by_cases hs : '\n' ∈ s
  · obtain ⟨line, rest, htext, hline⟩ := List.eq_append_cons_of_mem hs
    exact .inr ⟨line, rest, hline, htext⟩
  · exact .inl hs

theorem statementsOf_blank_append (ht : ∀ c ∈ t, isBlank c = true) :
    statementsOf (t ++ s) = statementsOf s := by
  induction t with
  | nil => rfl
  | cons c t ih =>
    obtain ⟨hc, ht⟩ := List.forall_mem_cons.mp ht
    rw [List.cons_append, ← ih ht]
    generalize t ++ s = text
    by_cases hfeed : c = '\n'
    · rw [hfeed]
      exact statementsOf_append_lineFeed [] text
    · -- the blank stands at the start of the first line, which is trimmed
      have hblank : ∀ d ∈ [c], isBlank d = true := by simpa using hc
      have hnot {line : List Char} (hline : '\n' ∉ line) : '\n' ∉ c :: line := by
        simp [hline, Ne.symm hfeed]
      rcases line_or_lines text with hline | ⟨line, rest, hline, rfl⟩
      · rw [statementsOf_line (hnot hline), statementsOf_line hline]
        exact congrArg (fun l => [l].filter isStatement) (trim_blank_append hblank)
      · rw [← List.cons_append, statementsOf_append_lineFeed, statementsOf_append_lineFeed,
          statementsOf_line (hnot hline), statementsOf_line hline]
        exact congrArg (fun l => [l].filter isStatement ++ _) (trim_blank_append hblank)

theorem statementsOf_blank (ht : ∀ c ∈ t, isBlank c = true) : statementsOf t = [] := by
  rw [← List.append_nil t, statementsOf_blank_append ht]
  rfl

theorem statementsOf_append_blank (ht : ∀ c ∈ t, isBlank c = true) :
    statementsOf (s ++ t) = statementsOf s := by
  induction hlength : s.length using Nat.strong_induction_on generalizing s with
  | _ n ih =>
    rcases line_or_lines s with hline | ⟨line, rest, hline, rfl⟩
    · -- the last line of the text goes on with the blanks up to their first line feed
      rcases line_or_lines t with hblank | ⟨blank, after, hblank, rfl⟩
      · rw [statementsOf_line (by simp [hline, hblank]), statementsOf_line hline,
          trim_append_blank ht]
      · rw [List.forall_mem_append, List.forall_mem_cons] at ht
        rw [← List.append_assoc, statementsOf_append_lineFeed, statementsOf_blank ht.2.2,
          List.append_nil, statementsOf_line (by simp [hline, hblank]), statementsOf_line hline,
          trim_append_blank ht.1]
    · have hshorter : rest.length < n := by
        rw [← hlength, List.length_append, List.length_cons]
        omega
      rw [List.append_assoc, List.cons_append, statementsOf_append_lineFeed,
        statementsOf_append_lineFeed, ih rest.length hshorter rfl]

theorem statementsOf_trim (s : List Char) : statementsOf (trim s) = statementsOf s := by
  obtain ⟨before, after, hbefore, hafter, htext⟩ := exists_trim_append s
  calc statementsOf (trim s)
      = statementsOf (trim s ++ after) := (statementsOf_append_blank hafter).symm
    _ = statementsOf (before ++ (trim s ++ after)) := (statementsOf_blank_append hbefore).symm
    _ = statementsOf s := by rw [← htext]

/-- A script without the blanks around it has the same statements. -/
theorem scriptLines_strip (script : String) : scriptLines (strip script) = scriptLines script := by
  rw [scriptLines_eq, scriptLines_eq, toList_strip, statementsOf_trim]

/-- A statement is trimmed. -/
theorem trim_of_mem_scriptLines {script line : String} (h : line ∈ scriptLines script) :
    trim line.toList = line.toList := by
  rw [scriptLines_eq, List.mem_map] at h
  obtain ⟨statement, hstatement, rfl⟩ := h
  obtain ⟨text, -, rfl⟩ := List.mem_map.mp (List.mem_filter.mp hstatement).1
  rw [String.toList_ofList, trim_trim]

end Colloquy
