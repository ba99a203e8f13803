/-!
# Blank characters

Two classes of blanks occur in the syntax of labels. Package names exclude the
six blanks of ASCII text, target names exclude every character that separates
words in any script. The first class is contained in the second.
-/

namespace ExternalRepos.Text

/-- The blanks of ASCII text: space, tab, line feed, vertical tab, form feed, carriage return. -/
def isAsciiBlank (char : Char) : Bool :=
  char.toNat = 0x20 || (0x9 ≤ char.toNat && char.toNat ≤ 0xd)

/--
The characters that separate words: the ASCII blanks, the four information
separators, the next-line control, and the Unicode space, line and paragraph
separators.
-/
def isBlank (char : Char) : Bool :=
  isAsciiBlank char
    || (0x1c ≤ char.toNat && char.toNat ≤ 0x1f)
    || (0x2000 ≤ char.toNat && char.toNat ≤ 0x200a)
    || [0x85, 0xa0, 0x1680, 0x2028, 0x2029, 0x202f, 0x205f, 0x3000].contains char.toNat

end ExternalRepos.Text
