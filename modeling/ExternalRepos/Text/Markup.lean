import ExternalRepos.Text.Pictograph
import ExternalRepos.Text.Style

/-!
# Markup

Titles and cells of tables are written in a markup with tags: a bracket, then a
small letter or one of `#`, `/` and `@`, then anything up to the closing
bracket. Tags only style the text around them, so nothing of them is seen. A
tag after an odd number of backslashes is text, and of a pair of backslashes
before a tag one is seen; before a bracket that opens no tag a single backslash
is lost. Between tags, names of pictographs become pictographs, and some control
characters are left out.

`escapeMarkup` turns text into markup, `plainText` tells what is seen of markup,
and `tagsMatch` whether every closing tag closes one that is open.
-/

namespace ExternalRepos.Text

/-- Whether a character may follow the opening bracket of a tag. -/
def startsTag (char : Char) : Bool :=
  char.isLower || char = '#' || char = '/' || char = '@'

/-- Whether what follows an opening bracket makes it a tag. -/
def opensTag : List Char → Bool
  | [] => false
  | first :: rest =>
      startsTag first && (rest.dropWhile fun char => char ≠ '[' && char ≠ ']').head? = some ']'

/-- A number of backslashes. -/
def backslashes (count : Nat) : List Char :=
  List.replicate count '\\'

/-- Escapes what follows a number of backslashes, and these themselves. -/
def escapeAfter (pending : Nat) : List Char → List Char
  | [] => if pending = 1 then backslashes 2 else backslashes pending
  | '\\' :: rest => escapeAfter (pending + 1) rest
  | '[' :: rest =>
      backslashes (if opensTag rest then 2 * pending + 1 else pending) ++ '[' :: escapeAfter 0 rest
  | char :: rest => backslashes pending ++ char :: escapeAfter 0 rest

/-- Markup for a text: its tags are escaped, and so is a single backslash at its end. -/
def escapeMarkup (text : String) : String :=
  String.ofList (escapeAfter 0 text.toList)

/-- A piece of markup. -/
inductive MarkupPiece
  | text (content : List Char)
  /-- A tag, by what stands between its brackets. -/
  | tag (content : List Char)
  deriving DecidableEq, Inhabited

/-- Where in markup a character stands. -/
inductive MarkupPlace
  /-- Outside of tags, after text, which is kept backwards, and a number of backslashes. -/
  | outside (before : List Char) (pending : Nat)
  /-- Inside a tag, after what is kept backwards of it; an escaped tag is text. -/
  | inside (escaped : Bool) (before : List Char)

/-- A text as a piece, unless it is empty. -/
def textPiece (content : List Char) : List MarkupPiece :=
  if content = [] then [] else [.text content]

/-- The pieces of markup from a place on. -/
def piecesFrom : MarkupPlace → List Char → List MarkupPiece
  | .outside before pending, [] => textPiece (before.reverse ++ backslashes pending)
  | .outside before pending, '\\' :: rest => piecesFrom (.outside before (pending + 1)) rest
  | .outside before pending, '[' :: rest =>
      if opensTag rest then
        textPiece before.reverse ++ textPiece (backslashes (pending / 2)) ++
          piecesFrom (.inside (pending % 2 == 1) []) rest
      else
        piecesFrom (.outside ('[' :: (backslashes pending ++ before)) 0) rest
  | .outside before pending, char :: rest =>
      piecesFrom (.outside (char :: (backslashes pending ++ before)) 0) rest
  | .inside _ _, [] => []
  | .inside escaped before, char :: rest =>
      if char = ']' then
        (if escaped then .text ('[' :: before.reverse ++ [']']) else .tag before.reverse) ::
          piecesFrom (.outside [] 0) rest
      else
        piecesFrom (.inside escaped (char :: before)) rest

/-- The pieces of markup. -/
def pieces (markup : String) : List MarkupPiece :=
  piecesFrom (.outside [] 0) markup.toList

/-- A text without the backslashes that stand before brackets. -/
def unescapeBrackets : List Char → List Char
  | '\\' :: '[' :: rest => '[' :: unescapeBrackets rest
  | char :: rest => char :: unescapeBrackets rest
  | [] => []

/-- Whether a character is never printed: the bell, backspace, and three that move the cursor. -/
def isUnseen (char : Char) : Bool :=
  [0x7, 0x8, 0xb, 0xc, 0xd].contains char.toNat

/-- What is seen of a piece. -/
def MarkupPiece.seen : MarkupPiece → List Char
  | .text content =>
      (withPictographs (unescapeBrackets content)).filter fun char => !isUnseen char
  | .tag _ => []

/-- What is seen of markup. -/
def plainText (markup : String) : String :=
  String.ofList ((pieces markup).flatMap MarkupPiece.seen)

/-- A tag that is open: the normal form of its name, and its parameters. -/
structure OpenTag where
  name : List Char
  parameters : List Char
  deriving DecidableEq, Inhabited

/-- Whether a text is a number, a word for a constant, or text in quotes. -/
def isConstant (text : List Char) : Bool :=
  ["None", "True", "False"].contains (String.ofList text) ||
    match text with
    | [] => false
    | '-' :: digits => digits ≠ [] && digits.all Char.isDigit
    | first :: rest =>
        (first :: rest).all Char.isDigit ||
          ((first = '"' || first = '\'') && rest.getLast? = some first &&
            rest.dropLast.all fun char => char ≠ first && char ≠ '\\')

/-- Whether the parameters of a handler can be read: a dotted name, constants, or both. -/
def isHandler (parameters : List Char) : Bool :=
  let trimmed := trim parameters
  match trimmed.dropWhile fun char => char.isAlphanum || char = '_' || char = '.' with
  | [] => true
  | '(' :: arguments =>
      arguments.getLast? = some ')' &&
        (trim arguments.dropLast = [] ||
          (arguments.dropLast.splitOn ',').all fun argument => isConstant (trim argument))
  | _ => isConstant trimmed

/-- Whether an open tag can be closed; a handler must have parameters that can be read. -/
def OpenTag.canClose (tag : OpenTag) : Bool :=
  tag.name.head? ≠ some '@' || isHandler tag.parameters

/-- The tags that are open after a tag, the last first; none if it closes one that is not open. -/
def afterTag? (stack : List OpenTag) (content : List Char) : Option (List OpenTag) :=
  let (name, parameters) := content.span (· ≠ '=')
  match name with
  | '/' :: closed =>
      let found :=
        if blankSeparated closed = [] then stack.head?
        else stack.find? fun tag => tag.name = styleNormalForm closed
      match found with
      | some tag => if tag.canClose then some (stack.erase tag) else none
      | none => none
  | _ => some (⟨styleNormalForm name, parameters.drop 1⟩ :: stack)

/-- Whether the closing tags among pieces close tags that are open. -/
def tagsMatchAfter (stack : List OpenTag) : List MarkupPiece → Bool
  | [] => true
  | .text _ :: rest => tagsMatchAfter stack rest
  | .tag content :: rest =>
      match afterTag? stack content with
      | some later => tagsMatchAfter later rest
      | none => false

/-- Whether every closing tag of markup closes a tag that is open. -/
def tagsMatch (markup : String) : Bool :=
  tagsMatchAfter [] (pieces markup)

end ExternalRepos.Text
