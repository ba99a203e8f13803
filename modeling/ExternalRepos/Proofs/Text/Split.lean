import ExternalRepos.Text.Split

/-!
# Splitting text that was put together

`append_of_splitOnce?` says that the pieces of a text make it up again. Here is
the other direction: a text that is put together is cut where it was joined, if
the first character of the separator does not occur before that place. The same
is said of `afterLast` and what follows the last mark.
-/

namespace ExternalRepos.Text

variable {mark : Char} {tail text before after : List Char}

theorem splitOnce?_append (absent : mark ∉ before) :
    splitOnce? (mark :: tail) (before ++ (mark :: tail ++ after)) = some (before, after) := by
  induction before with
  | nil =>
      have here : (mark :: tail).isPrefixOf (mark :: (tail ++ after)) = true := by
        rw [List.isPrefixOf_iff_prefix]
        exact List.prefix_append (mark :: tail) after
      simp only [List.nil_append, List.cons_append, splitOnce?, here, if_true]
      simp
  | cons char rest ih =>
      rw [List.mem_cons, not_or] at absent
      have elsewhere : (mark :: tail).isPrefixOf (char :: (rest ++ (mark :: tail ++ after))) =
          false := by
        simp [List.isPrefixOf, absent.1]
      simp only [List.cons_append, splitOnce?] at ih ⊢
      rw [List.cons_append] at elsewhere
      rw [elsewhere, ih absent.2]
      rfl

theorem splitOnce?_eq_none (absent : mark ∉ text) : splitOnce? (mark :: tail) text = none := by
  induction text with
  | nil => rfl
  | cons char rest ih =>
      rw [List.mem_cons, not_or] at absent
      have elsewhere : (mark :: tail).isPrefixOf (char :: rest) = false := by
        simp [List.isPrefixOf, absent.1]
      rw [splitOnce?, elsewhere, ih absent.2]
      rfl

theorem ne_of_mem_reverse (absent : mark ∉ text) :
    ∀ char ∈ text.reverse, decide (char ≠ mark) = true := by
  intro char charMem
  rw [decide_eq_true_eq]
  rintro rfl
  exact absent (List.mem_reverse.1 charMem)

theorem afterLast_of_not_mem (absent : mark ∉ text) : afterLast mark text = text := by
  rw [afterLast, ← List.append_nil text.reverse,
    List.takeWhile_append_of_pos (ne_of_mem_reverse absent)]
  simp

theorem afterLast_append (absent : mark ∉ after) :
    afterLast mark (before ++ mark :: after) = after := by
  rw [afterLast, List.reverse_append, List.reverse_cons, List.append_assoc,
    List.takeWhile_append_of_pos (ne_of_mem_reverse absent)]
  simp

/-- A text is what follows its last mark, or it has something before that mark. -/
theorem afterLast_cases (mark : Char) (text : List Char) :
    afterLast mark text = text ∨ ∃ before, text = before ++ mark :: afterLast mark text := by
  by_cases found : mark ∈ text
  · right
    rcases List.eq_append_cons_of_mem (List.mem_reverse.2 found) with
      ⟨after, before, reversed, absent⟩
    have joined : text = before.reverse ++ mark :: after.reverse := by
      rw [← List.reverse_reverse text, reversed]
      simp
    refine ⟨before.reverse, ?_⟩
    rw [joined, afterLast_append (by simpa using absent)]
  · exact Or.inl (afterLast_of_not_mem found)

end ExternalRepos.Text
