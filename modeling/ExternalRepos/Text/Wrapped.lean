import ExternalRepos.Text.Cluster
import ExternalRepos.Text.Split

/-!
# Wrapped text

Text laid out on lines of a given width. Every line feed ends a line, and tabs
lead to the next of equally distant stops. A line takes as many words as fit; the
blanks behind the last word of a line may stick out. A word that is wider than a
whole line starts a line of its own, and is either cut into pieces of at most the
width or left to stick out.
-/

namespace ExternalRepos.Text

/-- The words of a text, each with the blanks after it, the first also with those before it. -/
def wordsFrom (word : List Char) (ended : Bool) : List Char → List (List Char)
  | [] => if word = [] then [] else [word]
  | char :: rest =>
      if isBlank char then
        wordsFrom (word ++ [char]) (word.any fun char => !isBlank char) rest
      else if ended then
        word :: wordsFrom [char] false rest
      else
        wordsFrom (word ++ [char]) false rest

/-- The words of a text. -/
def words (text : List Char) : List (List Char) :=
  wordsFrom [] false text

/-- A text without its last blanks, as far as it has more characters than the width. -/
def trimExcess (width : Nat) (text : List Char) : List Char :=
  let blanks := text.length - (trimEnd text).length
  text.take (text.length - min blanks (text.length - width))

/-- Whether words that are wider than a line are cut. -/
inductive Folding
  | cut
  | keep
  deriving DecidableEq, Inhabited

/-- Lays words out on lines; the first line holds some text, which takes a number of cells. -/
def layOut (folding : Folding) (width : Nat) (line : List Char) (filled : Nat) :
    List (List Char) → List (List Char)
  | [] => [line]
  | word :: rest =>
      let needed := Text.width (trimEnd word)
      if filled + needed ≤ width then
        layOut folding width (line ++ word) (filled + Text.width word) rest
      else if line = [] then
        match folding with
        | .cut =>
            let pieces := chop width word
            let last := pieces.getLast?.getD []
            pieces.dropLast ++ layOut folding width last (Text.width last) rest
        | .keep => layOut folding width word (Text.width word) rest
      else if needed ≤ width ∨ folding = .keep then
        line :: layOut folding width word (Text.width word) rest
      else
        let pieces := chop width word
        let last := pieces.getLast?.getD []
        line :: pieces.dropLast ++ layOut folding width last (Text.width last) rest

/-- The distance of tab stops. -/
def tabStop : Nat := 8

/-- Puts spaces for the tabs between parts of a line, the first of which begins at a position. -/
def joinTabbed (position : Nat) : List (List Char) → List Char
  | [] => []
  | [last] => last
  | part :: rest =>
      let reached := position + Text.width (part ++ [' '])
      let more := (tabStop - reached % tabStop) % tabStop
      part ++ List.replicate (more + 1) ' ' ++ joinTabbed (reached + more) rest

/-- A line with spaces for its tabs. -/
def expandTabs (line : List Char) : List Char :=
  joinTabbed 0 (line.splitOn '\t')

/-- The lines of a text at a width. -/
def wrap (folding : Folding) (width : Nat) (text : List Char) : List (List Char) :=
  (text.splitOn '\n').flatMap fun line =>
    (layOut folding width [] 0 (words (expandTabs line))).map (trimExcess width)

/-- The lines of a text of which no line is wrapped. -/
def unwrapped (width : Nat) (text : List Char) : List (List Char) :=
  (text.splitOn '\n').map fun line => trimExcess width (expandTabs line)

end ExternalRepos.Text
