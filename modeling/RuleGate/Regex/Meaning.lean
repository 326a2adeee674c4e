import RuleGate.Regex.Basic
import RuleGate.Regex.Pattern
import RuleGate.Unicode.Folding
import RuleGate.Unicode.Query

/-!
What a pattern means: the regular expression that it stands for under the switches in force. A
pattern without meaning is refused; it names no class that there is, or it would match a part of a
character.
-/

namespace RuleGate.Regex

/-- The switches in force. -/
structure Mode where
  ignoreCase : Bool
  multiLine : Bool
  dotMatchesNewline : Bool
  swapGreed : Bool
  unicode : Bool
  crlf : Bool
  deriving DecidableEq

namespace Mode

def start : Mode :=
  ⟨true, false, false, false, true, false⟩

def change (mode : Mode) (c : FlagChange) : Mode where
  ignoreCase := (c.state? .ignoreCase).getD mode.ignoreCase
  multiLine := (c.state? .multiLine).getD mode.multiLine
  dotMatchesNewline := (c.state? .dotMatchesNewline).getD mode.dotMatchesNewline
  swapGreed := (c.state? .swapGreed).getD mode.swapGreed
  unicode := (c.state? .unicode).getD mode.unicode
  crlf := (c.state? .crlf).getD mode.crlf

/-! ### Characters and classes -/

/-- The ASCII letters of a set, in the other case. -/
def otherCase (s : CharSet) : CharSet :=
  let upper := s.inter (CharSet.ofRanges [(0x41, 0x5A)])
  let lower := s.inter (CharSet.ofRanges [(0x61, 0x7A)])
  (CharSet.ofRanges (upper.ranges.toList.map fun r => (r.1 + 0x20, r.2 + 0x20))).union
    (CharSet.ofRanges (lower.ranges.toList.map fun r => (r.1 - 0x20, r.2 - 0x20)))

/-- A set together with the characters that differ from its own in case only, if case is ignored. -/
def fold (mode : Mode) (s : CharSet) : CharSet :=
  if !mode.ignoreCase then s
  else if mode.unicode then Unicode.foldedLike s
  else s.union (otherCase s)

/-- The complement of a set. Without Unicode it would hold bytes that are no characters. -/
def negate? (mode : Mode) (negated : Bool) (s : CharSet) : Option CharSet :=
  if !negated then some s
  else if mode.unicode then some s.complement
  else none

/-- The code point of a literal. Without Unicode, a byte beyond ASCII is no character. -/
def codePoint? (mode : Mode) (l : Literal) : Option Nat :=
  if !mode.unicode && l.isByte && 0x7F < l.char.toNat then none else some l.char.toNat

/-- The code point of a literal in a class, which without Unicode holds ASCII characters alone. -/
def classPoint? (mode : Mode) (l : Literal) : Option Nat :=
  if !mode.unicode && 0x7F < l.char.toNat then none else some l.char.toNat

/-- The characters of a class that has a letter of its own. -/
def shortSet (mode : Mode) : ShortClass → CharSet
  | .digit => if mode.unicode then Unicode.decimalDigits else CharSet.ofRanges [(0x30, 0x39)]
  | .space =>
    if mode.unicode then Unicode.whiteSpace else CharSet.ofRanges [(0x09, 0x0D), (0x20, 0x20)]
  | .word =>
    if mode.unicode then Unicode.wordCharacters
    else CharSet.ofRanges [(0x30, 0x39), (0x41, 0x5A), (0x5F, 0x5F), (0x61, 0x7A)]

/-- The characters of a class that has a letter of its own, or all others. -/
def shortSet? (mode : Mode) (negated : Bool) (kind : ShortClass) : Option CharSet :=
  mode.negate? negated (mode.shortSet kind)

/-- The characters of a named class, or all others. -/
def namedSet? (mode : Mode) (negated : Bool) (name : ClassName) : Option CharSet := do
  if !mode.unicode then none
  else
    let s ←
      match name with
      | .name name => Unicode.setOfName? name
      | .value property value => Unicode.setOfValue? property value
    mode.negate? negated (mode.fold s)

def combine : ClassOp → CharSet → CharSet → CharSet
  | .intersection => CharSet.inter
  | .difference => CharSet.diff
  | .symmetricDifference => CharSet.symmDiff

mutual

/-- The characters that a part of a class stands for. -/
def itemSet? (mode : Mode) : ClassItem → Option CharSet
  | .empty => some CharSet.empty
  | .literal l => (mode.classPoint? l).map CharSet.singleton
  | .range first last => do
    return CharSet.ofRanges [(← mode.classPoint? first, ← mode.classPoint? last)]
  | .ascii negated ranges => mode.negate? negated (mode.fold (CharSet.ofRanges ranges))
  | .short negated kind => mode.shortSet? negated kind
  | .named negated name => mode.namedSet? negated name
  | .bracketed negated item => do mode.negate? negated (mode.fold (← mode.itemSet? item))
  | .union items => do return CharSet.unions (← mode.itemSets? items)
  | .op kind left right => do
    return combine kind (mode.fold (← mode.itemSet? left)) (mode.fold (← mode.itemSet? right))

def itemSets? (mode : Mode) : List ClassItem → Option (List CharSet)
  | [] => some []
  | item :: rest => do return (← mode.itemSet? item) :: (← mode.itemSets? rest)

end

def dotSet? (mode : Mode) : Option CharSet :=
  if !mode.unicode then none
  else if mode.dotMatchesNewline then some CharSet.all
  else if mode.crlf then some (CharSet.ofRanges [(0x0A, 0x0A), (0x0D, 0x0D)]).complement
  else some (CharSet.singleton 0x0A).complement

/-! ### Places -/

def look (mode : Mode) : Assertion → Look
  | .lineStart =>
    if !mode.multiLine then .textStart else if mode.crlf then .crlfStart else .lineStart
  | .lineEnd => if !mode.multiLine then .textEnd else if mode.crlf then .crlfEnd else .lineEnd
  | .textStart => .textStart
  | .textEnd => .textEnd
  | .wordBoundary => .word mode.unicode .boundary
  | .notWordBoundary => .word mode.unicode .notBoundary
  | .wordStart => .word mode.unicode .start
  | .wordEnd => .word mode.unicode .stop
  | .wordStartHalf => .word mode.unicode .startHalf
  | .wordEndHalf => .word mode.unicode .stopHalf

end Mode

/-! ### Patterns -/

mutual

/-- The expression that a pattern stands for, and the switches in force behind it. A change of
switches lasts up to the end of the group around it, through all its branches. -/
def Pattern.meaning? (mode : Mode) : Pattern → Option (Regex × Mode)
  | .empty => some (.empty, mode)
  | .flags change => some (.empty, mode.change change)
  | .literal l => do
    return (.set (mode.fold (CharSet.singleton (← mode.codePoint? l))), mode)
  | .dot => do return (.set (← mode.dotSet?), mode)
  | .assertion kind => some (.look (mode.look kind), mode)
  | .short negated kind => do return (.set (← mode.shortSet? negated kind), mode)
  | .named negated name => do return (.set (← mode.namedSet? negated name), mode)
  | .bracketed negated item => do
    return (.set (← mode.negate? negated (mode.fold (← mode.itemSet? item))), mode)
  | .repeated body least most isLazy => do
    let (r, mode) ← body.meaning? mode
    return (Regex.repetition r least most (isLazy != mode.swapGreed), mode)
  | .group captures change body => do
    let (r, _) ← body.meaning? (mode.change change)
    return (if captures then .group r else r, mode)
  | .alternation branches => do
    let (rs, mode) ← Pattern.meanings? mode branches
    return (Regex.choice rs, mode)
  | .concatenation parts => do
    let (rs, mode) ← Pattern.meanings? mode parts
    return (Regex.concat rs, mode)

/-- The expressions that patterns stand for that are read one after the other. -/
def Pattern.meanings? (mode : Mode) : List Pattern → Option (List Regex × Mode)
  | [] => some ([], mode)
  | part :: rest => do
    let (r, mode) ← part.meaning? mode
    let (rs, mode) ← Pattern.meanings? mode rest
    return (r :: rs, mode)

end

end RuleGate.Regex
