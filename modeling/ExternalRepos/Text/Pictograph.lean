import ExternalRepos.Text.Lower
import ExternalRepos.Text.PictographNames
import ExternalRepos.Text.Split

/-!
# Pictographs by name

A pictograph may be written as its short name between two colons, in capitals or
small letters. `-emoji` and `-text` behind the name ask for one of its two forms.
What stands between colons and is no name is left as it is.
-/

namespace ExternalRepos.Text

/-- The value of a hexadecimal digit. -/
def hexDigitValue (digit : Char) : Nat :=
  if digit.isDigit then digit.toNat - '0'.toNat else digit.toNat - 'a'.toNat + 10

/-- The character of a code point in hexadecimal digits. -/
def charOfHex (digits : List Char) : Char :=
  Char.ofNat (digits.foldl (fun value digit => 16 * value + hexDigitValue digit) 0)

/-- A name and its pictograph. -/
def readPictograph (entry : List Char) : List Char × List Char :=
  let (name, codes) := entry.span (· ≠ ':')
  (name, ((codes.drop 1).splitOn '-').map charOfHex)

/-- The pictographs by name. -/
def pictographs : List (List Char × List Char) :=
  (blankSeparated pictographNames.toList).map readPictograph

/-- The endings of names that ask for a form, with the character that selects it. -/
def pictographForms : List (String × Char) :=
  [("-emoji", Char.ofNat 0xfe0f), ("-text", Char.ofNat 0xfe0e)]

/-- A name without the form that is asked for, and the selector of the form. -/
def splitForm (code : List Char) : List Char × List Char :=
  match pictographForms.find? fun form => form.1.toList.isSuffixOf code with
  | some form => (code.take (code.length - form.1.length), [form.2])
  | none => (code, [])

/-- The pictograph of what stands between two colons. -/
def pictograph? (code : List Char) : Option (List Char) :=
  let (name, selector) := splitForm code
  (pictographs.lookup (lower name)).map (· ++ selector)

/-- What stands between a colon and the next one, if there are no blanks in between. -/
def codeAfter? (text : List Char) : Option (List Char) :=
  let code := text.takeWhile (· ≠ ':')
  if code.length < text.length && !code.any isBlank then some code else none

/-- A text with pictographs for their names, after some characters that are left out. -/
def pictographsAfter : Nat → List Char → List Char
  | _, [] => []
  | skipped + 1, _ :: rest => pictographsAfter skipped rest
  | 0, char :: rest =>
      match if char = ':' then codeAfter? rest else none with
      | some code =>
          (pictograph? code).getD (':' :: code ++ [':']) ++ pictographsAfter (code.length + 1) rest
      | none => char :: pictographsAfter 0 rest

/-- A text with pictographs for their names. -/
def withPictographs (text : List Char) : List Char :=
  pictographsAfter 0 text

end ExternalRepos.Text
