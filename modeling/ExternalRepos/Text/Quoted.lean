import ExternalRepos.Text.Printable

/-!
# Quoted text

The written form of texts and byte strings inside diagnostics. A text stands
between apostrophes, or between quotation marks when it holds an apostrophe and
no quotation mark. The mark, the backslash, and line feed, carriage return and
tab are escaped by a backslash; every other unprintable character is written by
its code point in two, four or eight hexadecimal digits. So the written form is
printable throughout.
-/

namespace ExternalRepos.Text

/-- The last `width` hexadecimal digits of a number. -/
def hexDigits : (width number : Nat) → List Char
  | 0, _ => []
  | width + 1, number => hexDigits width (number / 16) ++ [Nat.digitChar (number % 16)]

/-- The mark that surrounds a text. -/
def quoteMark (text : List Char) : Char :=
  if text.contains '\'' && !text.contains '"' then '"' else '\''

/-- The escape of a character that has one of its own between the given marks. -/
def shortEscape? (mark char : Char) : Option (List Char) :=
  if char = mark ∨ char = '\\' then some ['\\', char]
  else if char = '\n' then some ['\\', 'n']
  else if char = '\r' then some ['\\', 'r']
  else if char = '\t' then some ['\\', 't']
  else none

/-- The escape of a code point by its hexadecimal digits. -/
def codeEscape (code : Nat) : List Char :=
  if code < 0x100 then '\\' :: 'x' :: hexDigits 2 code
  else if code < 0x10000 then '\\' :: 'u' :: hexDigits 4 code
  else '\\' :: 'U' :: hexDigits 8 code

/-- How a character is written between the given marks. -/
def quoteChar (mark char : Char) : List Char :=
  match shortEscape? mark char with
  | some escape => escape
  | none => if isPrintable char then [char] else codeEscape char.toNat

/-- The written form of a text. -/
def quote (text : String) : String :=
  let mark := quoteMark text.toList
  String.ofList (mark :: text.toList.flatMap (quoteChar mark) ++ [mark])

/-- How a byte is written between the given marks: graphic ASCII characters as themselves. -/
def quoteByte (mark : Char) (byte : UInt8) : List Char :=
  let char := Char.ofNat byte.toNat
  match shortEscape? mark char with
  | some escape => escape
  | none => if 0x20 ≤ byte ∧ byte < 0x7f then [char] else codeEscape byte.toNat

/-- The written form of a byte string. -/
def quoteBytes (bytes : List UInt8) : String :=
  let mark := quoteMark (bytes.map fun byte => Char.ofNat byte.toNat)
  String.ofList ('b' :: mark :: bytes.flatMap (quoteByte mark) ++ [mark])

end ExternalRepos.Text
