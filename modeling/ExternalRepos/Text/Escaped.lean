import ExternalRepos.Text.Quoted

/-!
# Escaped text

The form of texts in JSON documents, kept within graphic ASCII: a text stands
between quotation marks; the mark and the backslash are escaped by a backslash,
five controls have escapes of their own, and every other character outside the
graphic ASCII ones is written by its UTF-16 code units, four hexadecimal digits
each.
-/

namespace ExternalRepos.Text

/-- Whether a character is the ASCII space or a graphic ASCII character. -/
def isGraphic (char : Char) : Bool :=
  decide (0x20 ≤ char.toNat) && decide (char.toNat < 0x7f)

/-- The UTF-16 code units of a code point. -/
def codeUnits (code : Nat) : List Nat :=
  if code < 0x10000 then [code]
  else [0xd800 + (code - 0x10000) / 0x400, 0xdc00 + (code - 0x10000) % 0x400]

/-- The characters that are written by a letter after a backslash, with their letters. -/
def escapeLetters : List (Char × Char) :=
  [('"', '"'), ('\\', '\\'), ('\n', 'n'), ('\r', 'r'), ('\t', 't'), ('\x08', 'b'), ('\x0c', 'f')]

/-- The letter that stands for a character after a backslash, if it has one. -/
def escapeLetter? (char : Char) : Option Char :=
  (escapeLetters.find? fun entry => entry.1 = char).map Prod.snd

/-- How a character is written inside an escaped text. -/
def escapeChar (char : Char) : List Char :=
  match escapeLetter? char with
  | some letter => ['\\', letter]
  | none =>
      if isGraphic char then [char]
      else (codeUnits char.toNat).flatMap fun unit => '\\' :: 'u' :: hexDigits 4 unit

/-- The escaped form of a text, with its quotation marks. -/
def escape (text : String) : String :=
  String.ofList ('"' :: text.toList.flatMap escapeChar ++ ['"'])

theorem isGraphic_digitChar {digit : Nat} (small : digit < 16) :
    isGraphic (Nat.digitChar digit) = true := by
  have every : ∀ digit : Fin 16, isGraphic (Nat.digitChar digit) = true := by decide
  exact every ⟨digit, small⟩

theorem isGraphic_of_mem_hexDigits {width number : Nat} {char : Char}
    (shown : char ∈ hexDigits width number) : isGraphic char = true := by
  induction width generalizing number with
  | zero => simp [hexDigits] at shown
  | succ width ih =>
      simp only [hexDigits, List.mem_append, List.mem_singleton] at shown
      rcases shown with shown | rfl
      · exact ih shown
      · exact isGraphic_digitChar (Nat.mod_lt _ (by decide))

end ExternalRepos.Text
