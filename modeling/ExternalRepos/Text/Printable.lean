import ExternalRepos.Text.Unprintable

/-!
# Printable characters

Diagnostics show text that users chose. `isPrintable` tells which characters
may be shown as they are, and `sanitize` puts a question mark in place of every
other one, so that a sanitized text lies on one line and holds no control
character (`isPrintable_of_mem_sanitize`).
-/

namespace ExternalRepos.Text

/-- Whether a character may be shown as it is; of the separators only the ASCII space is. -/
def isPrintable (char : Char) : Bool :=
  if char.toNat < 0x7f then
    decide (0x20 ≤ char.toNat)
  else
    !unprintableRanges.any fun range =>
      decide (range.1 ≤ char.toNat) && decide (char.toNat ≤ range.2)

/-- A printable stand-in for a character. -/
def sanitizeChar (char : Char) : Char :=
  if isPrintable char then char else '?'

/-- The text with every unprintable character shown as a question mark. -/
def sanitize (text : String) : String :=
  String.ofList (text.toList.map sanitizeChar)

theorem isPrintable_sanitizeChar (char : Char) : isPrintable (sanitizeChar char) = true := by
  by_cases printable : isPrintable char = true
  · simp [sanitizeChar, printable]
  · simp only [sanitizeChar, printable, Bool.false_eq_true, if_false]
    decide

@[simp]
theorem toList_sanitize (text : String) :
    (sanitize text).toList = text.toList.map sanitizeChar := by
  simp [sanitize]

theorem isPrintable_of_mem_sanitize {text : String} {char : Char}
    (shown : char ∈ (sanitize text).toList) : isPrintable char = true := by
  rw [toList_sanitize, List.mem_map] at shown
  obtain ⟨given, _, rfl⟩ := shown
  exact isPrintable_sanitizeChar given

end ExternalRepos.Text
