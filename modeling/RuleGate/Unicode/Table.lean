import RuleGate.Text.Hexadecimal
import RuleGate.Unicode.CharSet

/-!
The written form of the tables in this folder. A table is a text of words separated by spaces and
line feeds. A set is written as ranges of code points in hexadecimal, `0041-005A 00AA`. A map is
written as ranges with the image of their first code point, `0061-007A=0041`, or with a slash for
ranges of which every second code point counts, `0101-012F/0100`.
-/

namespace RuleGate.Unicode

/-- The number with the given hexadecimal digits; other characters make it zero. -/
def ofHex (digits : List Char) : Nat :=
  (Text.hexNumber? digits).getD 0

/-- The words of a text between spaces and line feeds, of which the first has already begun. -/
def wordsFrom : List Char → List Char → List (List Char)
  | [], [] => []
  | [], word => [word.reverse]
  | c :: rest, word =>
    if c = ' ' ∨ c = '\n' then
      if word.isEmpty then wordsFrom rest [] else word.reverse :: wordsFrom rest []
    else wordsFrom rest (c :: word)

def words (text : String) : List (List Char) :=
  wordsFrom text.toList []

/-- The parts before and after the first character that fails the test. -/
def splitAtMark (word : List Char) (mark : Char) : List Char × List Char :=
  (word.takeWhile (· != mark), (word.dropWhile (· != mark)).drop 1)

/-- A range written as `lo-hi`, or as one code point. -/
def readRange (word : List Char) : Nat × Nat :=
  let (lo, hi) := splitAtMark word '-'
  if hi.isEmpty then (ofHex lo, ofHex lo) else (ofHex lo, ofHex hi)

def readSet (text : String) : CharSet :=
  ⟨((words text).map readRange).toArray⟩

/-- The pairs of the ranges `lo-hi=image` and `lo-hi/image` of a map. -/
def readPairs (word : List Char) : List (Nat × Nat) :=
  let step := if word.contains '/' then 2 else 1
  let (range, image) := splitAtMark word (if word.contains '/' then '/' else '=')
  let (lo, hi) := readRange range
  let first := ofHex image
  (List.range ((hi - lo) / step + 1)).map fun i => (lo + step * i, first + step * i)

/-- The map that a text writes, as pairs in ascending order. -/
def readMap (text : String) : Array (Nat × Nat) :=
  ((words text).flatMap readPairs).toArray

end RuleGate.Unicode
