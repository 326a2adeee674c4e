import RuleGate.Text.Blank

/-!
Cutting a text: into lines, at the first occurrence of a character or of a word, and at every
occurrence of a character.
-/

namespace RuleGate.Text

/-- A finished line, given backwards: one carriage return before the line feed is dropped. -/
def endLine : List Char → List Char
  | '\r' :: line => line.reverse
  | line => line.reverse

/-- The lines of a text, of which the first has already begun; its beginning is given backwards. -/
def linesFrom : List Char → List Char → List (List Char)
  | [], [] => []
  | [], line => [line.reverse]
  | '\n' :: rest, line => endLine line :: linesFrom rest []
  | c :: rest, line => linesFrom rest (c :: line)

/-- The lines of a text. A line ends at a line feed, which is dropped together with one carriage
return before it. What follows the last line feed is a line as it stands, unless it is empty. -/
def lines (s : List Char) : List (List Char) :=
  linesFrom s []

def firstLine (s : List Char) : List Char :=
  s.takeWhile (· != '\n')

/-- The parts before and after the first `mark`. -/
def splitFirst? (mark : Char) (s : List Char) : Option (List Char × List Char) :=
  match s.dropWhile (· != mark) with
  | [] => none
  | _ :: after => some (s.takeWhile (· != mark), after)

/-- The parts between the occurrences of `mark`, of which the first has already begun. -/
def splitFrom (mark : Char) : List Char → List Char → List (List Char)
  | [], part => [part.reverse]
  | c :: rest, part =>
    if c = mark then part.reverse :: splitFrom mark rest [] else splitFrom mark rest (c :: part)

/-- The parts between the occurrences of `mark`; one more than there are occurrences. -/
def splitAll (mark : Char) (s : List Char) : List (List Char) :=
  splitFrom mark s []

/-- The parts before and after the leftmost `word` in a text that follows a part given backwards. -/
def cutFrom (word : List Char) : List Char → List Char → Option (List Char × List Char)
  | [], before => if word.isEmpty then some (before.reverse, []) else none
  | c :: rest, before =>
    if word.isPrefixOf (c :: rest) then some (before.reverse, (c :: rest).drop word.length)
    else cutFrom word rest (c :: before)

/-- The parts before and after the leftmost occurrence of `word`. -/
def cutAt? (word s : List Char) : Option (List Char × List Char) :=
  cutFrom word s []

end RuleGate.Text
