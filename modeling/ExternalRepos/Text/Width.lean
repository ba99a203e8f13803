import ExternalRepos.Text.CellRanges

/-!
# Display width

How many cells of a terminal line a text takes. A character takes one, two or
none by itself. Two characters act on their neighbours: a joiner makes one
pictograph of the character before it and the one after it, which takes no more
cells, and the selector of the pictograph form widens some narrow characters.
-/

namespace ExternalRepos.Text

/-- Joins the characters around it into one pictograph. -/
def joiner : Char := Char.ofNat 0x200d

/-- Selects the pictograph form of the character before it. -/
def pictographSelector : Char := Char.ofNat 0xfe0f

/-- The number of cells that a character takes by itself. -/
def charWidth (char : Char) : Nat :=
  let code := char.toNat
  if code < 0x20 || (0x7f ≤ code && code < 0xa0) then 0
  else if code < 0xa0 then 1
  else if inRanges zeroWidthRanges code then 0
  else if inRanges wideRanges code then 2
  else 1

/-- Whether the pictograph form of a character is wider than the character. -/
def isWidened (char : Char) : Bool :=
  inRanges widenedRanges char.toNat

/-- The cells that the pictograph selector adds after a character. -/
def widening (last : Option Char) : Nat :=
  if last.any isWidened then 1 else 0

/-- The number of cells that a text takes behind a character that took some, if there is one. -/
def widthAfter (last : Option Char) : List Char → Nat
  | [] => 0
  | char :: rest =>
      if char = joiner then
        match rest with
        | [] => 0
        | _ :: later => widthAfter last later
      else if char = pictographSelector then
        widening last + widthAfter none rest
      else
        charWidth char + widthAfter (if charWidth char = 0 then last else some char) rest

/-- The number of cells that a text takes. -/
def width (text : List Char) : Nat :=
  widthAfter none text

end ExternalRepos.Text
