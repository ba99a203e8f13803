/-!
# Echoed text

What becomes of text that is sent to a place that is no terminal: its control
sequences are left out (an escape character and an opening bracket, parameters,
and a letter), and every line ends with a line feed alone. A text without escape
characters is left as it is (`withoutSequences_of_no_escape`).
-/

namespace ExternalRepos.Text

/-- The character that begins a control sequence. -/
def sequenceStart : Char := Char.ofNat 0x1b

/-- Whether a character may stand among the parameters of a control sequence. -/
def isSequenceParameter (char : Char) : Bool :=
  char.isDigit || char = ';' || char = '?'

/-- The number of characters that complete a control sequence behind its escape character. -/
def sequenceLength? : List Char → Option Nat
  | '[' :: rest =>
      let parameters := rest.takeWhile isSequenceParameter
      match rest.drop parameters.length with
      | final :: _ => if final.isAlpha then some (parameters.length + 2) else none
      | [] => none
  | _ => none

/-- A text without control sequences, after some characters that are left out. -/
def sequencesAfter : Nat → List Char → List Char
  | _, [] => []
  | skipped + 1, _ :: rest => sequencesAfter skipped rest
  | 0, char :: rest =>
      match if char = sequenceStart then sequenceLength? rest else none with
      | some length => sequencesAfter length rest
      | none => char :: sequencesAfter 0 rest

/-- A text without control sequences. -/
def withoutSequences (text : String) : String :=
  String.ofList (sequencesAfter 0 text.toList)

/-- A text with a line feed for every carriage return and the line feed behind it. -/
def lineFeeds : List Char → List Char
  | '\r' :: '\n' :: rest => '\n' :: lineFeeds rest
  | char :: rest => char :: lineFeeds rest
  | [] => []

/-- A text whose lines end with a line feed alone. -/
def withLineFeeds (text : String) : String :=
  String.ofList (lineFeeds text.toList)

theorem sequencesAfter_of_no_escape {text : List Char} (none : sequenceStart ∉ text) :
    sequencesAfter 0 text = text := by
  induction text with
  | nil => rfl
  | cons char rest ih =>
      simp only [List.mem_cons, not_or] at none
      have here : char ≠ sequenceStart := fun equal => none.1 equal.symm
      simp [sequencesAfter, here, ih none.2]

theorem withoutSequences_of_no_escape {text : String} (none : sequenceStart ∉ text.toList) :
    withoutSequences text = text := by
  simp [withoutSequences, sequencesAfter_of_no_escape none]

theorem lineFeeds_of_no_return {text : List Char} (none : '\r' ∉ text) :
    lineFeeds text = text := by
  induction text with
  | nil => rfl
  | cons char rest ih =>
      simp only [List.mem_cons, not_or] at none
      rw [lineFeeds]
      · rw [ih none.2]
      · exact fun _ equal => absurd equal.symm none.1

theorem withLineFeeds_of_no_return {text : String} (none : '\r' ∉ text.toList) :
    withLineFeeds text = text := by
  simp [withLineFeeds, lineFeeds_of_no_return none]

end ExternalRepos.Text
