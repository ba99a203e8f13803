import ExternalRepos.Text.Blank

/-!
# Splitting text

`splitOnce?` cuts a text at the first occurrence of a separator, and
`afterLast` gives what follows the last occurrence of a character. Both lose
nothing: the pieces and the separator make up the text again
(`append_of_splitOnce?`). `trim` and `trimEnd` take blanks from the ends of a
text, and `blankSeparated` cuts it at all of them.
-/

namespace ExternalRepos.Text

/-- The text before and after the first occurrence of a separator. -/
def splitOnce? (separator : List Char) : List Char → Option (List Char × List Char)
  | [] => if separator.isEmpty then some ([], []) else none
  | char :: rest =>
      if separator.isPrefixOf (char :: rest) then
        some ([], (char :: rest).drop separator.length)
      else
        (splitOnce? separator rest).map fun pieces => (char :: pieces.1, pieces.2)

theorem append_of_splitOnce? {separator text before after : List Char}
    (split : splitOnce? separator text = some (before, after)) :
    text = before ++ separator ++ after := by
  induction text generalizing before with
  | nil =>
      by_cases emptySeparator : separator = []
      · simp [splitOnce?, emptySeparator] at split
        simp [split, emptySeparator]
      · simp [splitOnce?, emptySeparator] at split
  | cons char rest ih =>
      by_cases here : separator.isPrefixOf (char :: rest) = true
      · simp only [splitOnce?, here, if_true, Option.some.injEq, Prod.mk.injEq] at split
        obtain ⟨rfl, rfl⟩ := split
        obtain ⟨tail, tailEq⟩ := List.isPrefixOf_iff_prefix.1 here
        simp [← tailEq]
      · simp only [splitOnce?, here, Bool.false_eq_true, if_false, Option.map_eq_some_iff] at split
        obtain ⟨⟨start, finish⟩, found, equal⟩ := split
        simp only [Prod.mk.injEq] at equal
        obtain ⟨rfl, rfl⟩ := equal
        simp [ih found]

/-- The text after the last occurrence of a character; the whole text if there is none. -/
def afterLast (mark : Char) (text : List Char) : List Char :=
  (text.reverse.takeWhile (· ≠ mark)).reverse

theorem not_mem_afterLast (mark : Char) (text : List Char) : mark ∉ afterLast mark text := by
  intro found
  have kept := List.all_takeWhile (p := (· ≠ mark)) (l := text.reverse)
  rw [List.all_eq_true] at kept
  simpa using kept mark (List.mem_reverse.1 found)

/-- A text without the blanks at its end. -/
def trimEnd (text : List Char) : List Char :=
  (text.reverse.dropWhile isBlank).reverse

/-- A text without the blanks at its ends. -/
def trim (text : List Char) : List Char :=
  trimEnd (text.dropWhile isBlank)

/-- The words of a text without the blanks between them. -/
def blankSeparated (text : List Char) : List (List Char) :=
  (text.splitOnP isBlank).filter (· ≠ [])

end ExternalRepos.Text
