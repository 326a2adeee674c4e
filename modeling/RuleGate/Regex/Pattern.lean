/-!
The syntax of patterns: what a pattern says, before it is said what it means. Whether a repetition
takes as much or as little as it can makes no difference to whether there is a match; it only counts
where two repetitions are compared.
-/

namespace RuleGate.Regex

/-- The switches that a pattern can turn on and off. -/
inductive Flag where
  | ignoreCase
  | multiLine
  | dotMatchesNewline
  | swapGreed
  | unicode
  | crlf
  | ignoreWhitespace
  deriving DecidableEq

/-- The switches turned on and those turned off. -/
structure FlagChange where
  on : List Flag
  off : List Flag
  deriving DecidableEq

/-- What a change makes of a switch; nothing if it does not name it. -/
def FlagChange.state? (change : FlagChange) (flag : Flag) : Option Bool :=
  if change.on.contains flag then some true
  else if change.off.contains flag then some false
  else none

/-- A character of a pattern. One that is written by its two hexadecimal digits alone stands for a
byte where a pattern is not about Unicode. -/
structure Literal where
  char : Char
  isByte : Bool
  deriving DecidableEq

/-- The places that a pattern can ask for. -/
inductive Assertion where
  | lineStart
  | lineEnd
  | textStart
  | textEnd
  | wordBoundary
  | notWordBoundary
  | wordStart
  | wordEnd
  | wordStartHalf
  | wordEndHalf
  deriving DecidableEq

/-- The classes that have a letter of their own. -/
inductive ShortClass where
  | digit
  | space
  | word
  deriving DecidableEq

/-- A class by a name of the Unicode standard, or by a property and its value. -/
inductive ClassName where
  | name (name : List Char)
  | value (property value : List Char)
  deriving DecidableEq

/-- How two classes are combined. -/
inductive ClassOp where
  | intersection
  | difference
  | symmetricDifference
  deriving DecidableEq

/-- What stands in a bracketed class. -/
inductive ClassItem where
  | empty
  | literal (l : Literal)
  | range (first last : Literal)
  | ascii (negated : Bool) (ranges : List (Nat × Nat))
  | short (negated : Bool) (kind : ShortClass)
  | named (negated : Bool) (name : ClassName)
  | bracketed (negated : Bool) (item : ClassItem)
  | union (items : List ClassItem)
  | op (kind : ClassOp) (left right : ClassItem)

/-- What a pattern says. -/
inductive Pattern where
  | empty
  | flags (change : FlagChange)
  | literal (l : Literal)
  | dot
  | assertion (kind : Assertion)
  | short (negated : Bool) (kind : ShortClass)
  | named (negated : Bool) (name : ClassName)
  | bracketed (negated : Bool) (item : ClassItem)
  | repeated (body : Pattern) (least : Nat) (most : Option Nat) (isLazy : Bool)
  | group (captures : Bool) (change : FlagChange) (body : Pattern)
  | alternation (branches : List Pattern)
  | concatenation (parts : List Pattern)

/-! ### Depth

A pattern whose parts lie too deep inside each other is refused. -/

mutual

def ClassItem.depth : ClassItem → Nat
  | .bracketed _ item => item.depth + 1
  | .union items => ClassItem.depthOfAll items + 1
  | .op _ left right => max left.depth right.depth + 1
  | _ => 0

def ClassItem.depthOfAll : List ClassItem → Nat
  | [] => 0
  | item :: rest => max item.depth (depthOfAll rest)

end

mutual

/-- How many parts of a pattern lie inside each other. -/
def Pattern.depth : Pattern → Nat
  | .bracketed _ item => item.depth + 1
  | .repeated body _ _ _ => body.depth + 1
  | .group _ _ body => body.depth + 1
  | .alternation branches => Pattern.depthOfAll branches + 1
  | .concatenation parts => Pattern.depthOfAll parts + 1
  | _ => 0

def Pattern.depthOfAll : List Pattern → Nat
  | [] => 0
  | part :: rest => max part.depth (depthOfAll rest)

end

/-- How deep the parts of a pattern may lie inside each other. -/
def maxDepth : Nat := 250

/-- Parts one after the other; a single part stands for itself. -/
def Pattern.ofParts : List Pattern → Pattern
  | [] => .empty
  | [part] => part
  | parts => .concatenation parts

/-- The choice between branches; a single branch stands for itself. -/
def Pattern.ofBranches : List Pattern → Pattern
  | [] => .empty
  | [branch] => branch
  | branches => .alternation branches

/-- The union of parts of a class; a single part stands for itself. -/
def ClassItem.ofItems : List ClassItem → ClassItem
  | [] => .empty
  | [item] => item
  | items => .union items

end RuleGate.Regex
