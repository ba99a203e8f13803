import ExternalRepos.Extension
import ExternalRepos.Name
import ExternalRepos.Proofs.Text.Split

/-!
# Canonical names of generated repositories

A canonical name is put together from five pieces, and the name of the module in
front may itself hold the separator. The pieces are still found again, from the
right: a chosen name cannot hold a character of the separator, so it stands behind
the last occurrence of the separator's last character, and what is left when it is
cut off ends with the name of the extension, for which the same is asked.
-/

namespace ExternalRepos

/-- The characters of the names that users may choose. -/
def NameChar (char : Char) : Prop :=
  ('A' ≤ char ∧ char ≤ 'Z') ∨ ('a' ≤ char ∧ char ≤ 'z') ∨ ('0' ≤ char ∧ char ≤ '9') ∨
    char ∈ ['-', '_', '.']

theorem isNameChar_iff {char : Char} : isNameChar char = true ↔ NameChar char := by
  simp only [isNameChar, Char.isAlphanum]
  delta Char.isAlpha Char.isUpper Char.isLower
  simp only [Char.isDigit, Bool.or_eq_true, Bool.and_eq_true, decide_eq_true_eq, NameChar,
    List.mem_cons, List.not_mem_nil, or_false, Char.le_def, ge_iff_le, or_assoc]

theorem nameChar_of_mem {name : String} (allowed : isUserProvided name = true) {char : Char}
    (charMem : char ∈ name.toList) : NameChar char := by
  unfold isUserProvided at allowed
  split at allowed
  · cases allowed
  · rename_i first rest chars
    rw [Bool.and_eq_true] at allowed
    rw [chars, List.mem_cons] at charMem
    rw [← isNameChar_iff]
    rcases charMem with rfl | later
    · simp [isNameChar, Char.isAlphanum, allowed.1]
    · exact List.all_eq_true.1 allowed.2 char later

namespace Text

/-- What stands behind a separator is known if it has none of the separator's characters. -/
theorem append_separator_inj {separator before after otherBefore otherAfter : List Char}
    (nonempty : separator ≠ []) (free : ∀ char ∈ separator, char ∉ after)
    (otherFree : ∀ char ∈ separator, char ∉ otherAfter)
    (same : before ++ separator ++ after = otherBefore ++ separator ++ otherAfter) :
    before = otherBefore ∧ after = otherAfter := by
  obtain ⟨front, mark, rfl⟩ : ∃ front mark, separator = front ++ [mark] :=
    ⟨_, _, (List.dropLast_concat_getLast nonempty).symm⟩
  have behind : ∀ start rest : List Char, (∀ char ∈ front ++ [mark], char ∉ rest) →
      afterLast mark (start ++ (front ++ [mark]) ++ rest) = rest := by
    intro start rest absent
    have joined : start ++ (front ++ [mark]) ++ rest = (start ++ front) ++ mark :: rest := by simp
    rw [joined, afterLast_append (absent mark (by simp))]
  have sameAfter : after = otherAfter :=
    calc
      after = afterLast mark (before ++ (front ++ [mark]) ++ after) := (behind _ _ free).symm
      _ = afterLast mark (otherBefore ++ (front ++ [mark]) ++ otherAfter) := by rw [same]
      _ = otherAfter := behind _ _ otherFree
  subst sameAfter
  exact ⟨by simpa using same, rfl⟩

end Text

namespace ModuleExtension

/--
Canonical names are unique: the name of a generated repository tells its module, the
extension and the name that was chosen, for every separator that cannot occur in
chosen names and does not share a character with the names of the extensions.
-/
theorem canonicalName_inj {separator module extension name otherModule otherExtension
      otherName : String} (nonempty : separator ≠ "")
    (foreign : ∀ char ∈ separator.toList, ¬ NameChar char)
    (free : ∀ char ∈ separator.toList, char ∉ extension.toList)
    (otherFree : ∀ char ∈ separator.toList, char ∉ otherExtension.toList)
    (allowed : isUserProvided name = true) (otherAllowed : isUserProvided otherName = true)
    (same : repoPrefix module extension separator ++ name =
      repoPrefix otherModule otherExtension separator ++ otherName) :
    module = otherModule ∧ extension = otherExtension ∧ name = otherName := by
  have separatorChars : separator.toList ≠ [] := by
    rwa [ne_eq, String.toList_eq_nil_iff]
  have absent : ∀ char ∈ separator.toList, char ∉ name.toList := fun char charMem nameMem =>
    foreign char charMem (nameChar_of_mem allowed nameMem)
  have otherAbsent : ∀ char ∈ separator.toList, char ∉ otherName.toList :=
    fun char charMem nameMem => foreign char charMem (nameChar_of_mem otherAllowed nameMem)
  rw [← String.toList_inj] at same
  simp only [repoPrefix, String.toList_append] at same
  rcases Text.append_separator_inj separatorChars absent otherAbsent same with
    ⟨samePrefix, sameName⟩
  rcases Text.append_separator_inj separatorChars free otherFree samePrefix with
    ⟨sameFront, sameExtension⟩
  have sameModule := List.append_cancel_right sameFront
  exact ⟨String.toList_inj.1 sameModule, String.toList_inj.1 sameExtension,
    String.toList_inj.1 sameName⟩

/-- A module whose own name holds the separator three times. -/
theorem canonicalName_inj_of_plus :
    (∀ char ∈ "+".toList, ¬ NameChar char) ∧ (∀ char ∈ "+".toList, char ∉ "deps".toList) ∧
      isUserProvided "zlib-1.3" = true ∧
      repoPrefix "rules++go+" "deps" "+" ++ "zlib-1.3" = "rules++go+++deps+zlib-1.3" ∧
      "rules++go+" = "rules++go+" ∧ "deps" = "deps" ∧ "zlib-1.3" = "zlib-1.3" := by
  have foreign : ∀ char ∈ "+".toList, ¬ NameChar char := by
    simp [← isNameChar_iff, isNameChar]
  have free : ∀ char ∈ "+".toList, char ∉ "deps".toList := by simp
  have allowed : isUserProvided "zlib-1.3" = true := rfl
  exact ⟨foreign, free, allowed, rfl,
    canonicalName_inj (by decide) foreign free free allowed allowed rfl⟩

end ModuleExtension

end ExternalRepos
