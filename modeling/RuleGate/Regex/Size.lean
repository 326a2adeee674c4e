import RuleGate.Regex.Basic

/-!
How large the matching program of an expression would be. A program is a row of states of equal
size; states with several ways on take more room for these. Characters are matched byte by byte in
UTF-8, and a repetition that is counted is written out. There is a program that reads a text
forwards and one that reads it backwards, and neither may pass a limit.
-/

namespace RuleGate.Regex

/-! ### Characters as rows of bytes -/

/-- A row of ranges of bytes, one for each byte of a character. -/
abbrev ByteRow := List (Nat × Nat)

def continuationBytes (c : Nat) : Nat :=
  if c ≤ 0x7F then 0 else if c ≤ 0x7FF then 1 else if c ≤ 0xFFFF then 2 else 3

/-- The mark in the first byte of a character with the given number of continuation bytes. -/
def leadMark : Nat → Nat
  | 0 => 0x00
  | 1 => 0xC0
  | 2 => 0xE0
  | _ => 0xF0

/-- The last bytes of the code points of a range that differ in their last bytes alone, the first of
them first. -/
def tailRow : Nat → Nat → Nat → ByteRow
  | 0, _, _ => []
  | n + 1, lo, hi => tailRow n (lo / 64) (hi / 64) ++ [(0x80 + lo % 64, 0x80 + hi % 64)]

/-- The bytes of the code points of a range that need no further splitting. -/
def byteRow (lo hi : Nat) : ByteRow :=
  let n := continuationBytes hi
  (leadMark n + lo / Nat.pow 64 n, leadMark n + hi / Nat.pow 64 n) :: tailRow n lo hi

/-- Splits a range of code points behind the surrogates, behind the code points of one length in
bytes, and at the continuation bytes, until each part is one row of ranges of bytes. -/
def splitRange : Nat → Nat → Nat → List ByteRow
  | 0, _, _ => []
  | fuel + 1, lo, hi =>
    if hi < lo then []
    else
      let cutAt (m : Nat) := splitRange fuel lo m ++ splitRange fuel (m + 1) hi
      if lo < 0xE000 && 0xD7FF < hi then
        splitRange fuel lo 0xD7FF ++ splitRange fuel 0xE000 hi
      else
        match [0x7F, 0x7FF, 0xFFFF].find? fun m => lo ≤ m && m < hi with
        | some m => cutAt m
        | none =>
          if hi ≤ 0x7F then [byteRow lo hi]
          else
            let cut? := [0x3F, 0xFFF, 0x3FFFF].findSome? fun m =>
              if lo / (m + 1) = hi / (m + 1) then none
              else if lo % (m + 1) != 0 then some (lo - lo % (m + 1) + m)
              else if hi % (m + 1) != m then some (hi - hi % (m + 1) - 1)
              else none
            match cut? with
            | some m => cutAt m
            | none => [byteRow lo hi]

def byteRows (s : CharSet) : List ByteRow :=
  s.ranges.toList.flatMap fun r => splitRange 64 r.1 r.2

/-! ### Sizes of sets -/

def stateSize : Nat := 32

/-- The room that a way on takes in a state that chooses by the next byte. -/
def transitionSize : Nat := 8

/-- The room that a way on takes in a state that chooses freely. -/
def alternativeSize : Nat := 4

/-- A state that chooses by the next byte. -/
def choiceSize (ways : Nat) : Nat :=
  stateSize + if ways ≤ 1 then 0 else transitionSize * ways

def byteLength (c : Nat) : Nat :=
  continuationBytes c + 1

/-- What can follow each of the first ranges of bytes of some rows. -/
def groupRows : List ByteRow → List ((Nat × Nat) × List ByteRow)
  | [] => []
  | [] :: rest => groupRows rest
  | (first :: more) :: rest =>
    match groupRows rest with
    | (next, rows) :: groups =>
      if next = first then (first, more :: rows) :: groups
      else (first, [more]) :: (next, rows) :: groups
    | [] => [(first, [more])]

/-- The distinct parts of a program that reads the given rows forwards, each given by its rows;
parts with equal rows are shared. -/
def sharedParts : Nat → List ByteRow → List (List ByteRow)
  | 0, _ => []
  | fuel + 1, rows =>
    let groups := groupRows rows
    if groups.isEmpty then []
    else rows :: ((groups.map Prod.snd).eraseDups.flatMap (sharedParts fuel)).eraseDups

/-- The number of ranges that begin no part before them, in a program that reads rows backwards and
shares their beginnings. -/
def sharedBeginnings : Nat → List ByteRow → Nat
  | 0, _ => 0
  | fuel + 1, rows =>
    ((groupRows rows).map fun g => 1 + sharedBeginnings fuel g.2).foldl Nat.add 0

/-- The room that a set takes that holds more than ASCII characters. -/
def wideSize (backwards : Bool) (s : CharSet) : Nat :=
  let rows := byteRows s
  if backwards then
    2 * stateSize + alternativeSize * rows.length + stateSize * sharedBeginnings 4 rows
  else
    ((sharedParts 4 rows).map fun part => choiceSize (groupRows part).length).foldl Nat.add
      stateSize

/-- The room that a set takes in a program that reads backwards or forwards. -/
def setSize (backwards : Bool) (s : CharSet) : Nat :=
  match s.ranges.toList with
  | [] => stateSize
  | [(lo, hi)] =>
    if lo = hi then stateSize * byteLength lo
    else if hi ≤ 0x7F then 2 * stateSize
    else wideSize backwards s
  | ranges => if s.isAscii then stateSize + choiceSize ranges.length else wideSize backwards s

/-! ### Sizes of expressions -/

/-- A state that chooses freely between a number of ways. -/
def freeSize (ways : Nat) : Nat :=
  stateSize + alternativeSize * ways

/-- The room that a repetition takes whose body takes the given room. -/
def repeatedSize (canBeEmpty : Bool) (body least : Nat) (most : Option Nat) : Nat :=
  match most with
  | some most =>
    if least = 0 ∧ most = 1 then body + freeSize 2 + stateSize
    else
      max (least * body) (if least = 0 then stateSize else 0) +
        if least = most then 0 else stateSize + (most - least) * (body + freeSize 2)
  | none =>
    if least = 0 then
      if canBeEmpty then body + 2 * freeSize 2 + stateSize else body + freeSize 2
    else least * body + freeSize 2

mutual

/-- The room that an expression takes. The program that reads forwards also records the groups. -/
def programSize (backwards : Bool) : Regex → Nat
  | .empty => stateSize
  | .set chars => setSize backwards chars
  | .look _ => stateSize
  | .group body => body.programSize backwards + if backwards then 0 else 2 * stateSize
  | .repeated body least most _ =>
    repeatedSize body.canBeEmpty (body.programSize backwards) least most
  | .alternation branches =>
    programSizes backwards branches + freeSize branches.length + stateSize
  | .concatenation parts => programSizes backwards parts

def programSizes (backwards : Bool) : List Regex → Nat
  | [] => 0
  | r :: rest => r.programSize backwards + programSizes backwards rest

end

/-- The room that a whole program takes besides its expression: the search for a beginning, and the
end of a match. -/
def frameSize (backwards : Bool) : Nat :=
  freeSize 2 + 3 * stateSize + if backwards then 0 else 2 * stateSize

/-- The room that a program may take. -/
def sizeLimit : Nat := 10485760

/-- Whether the programs for an expression take too much room. -/
def isTooLarge (r : Regex) : Bool :=
  sizeLimit < r.programSize false + frameSize false ||
    sizeLimit < r.programSize true + frameSize true

end RuleGate.Regex
