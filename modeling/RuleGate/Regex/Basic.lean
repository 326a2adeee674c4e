import RuleGate.Unicode.CharSet

/-!
Regular expressions over code points, with conditions on the place between two characters. The
constructors in lower case below put simple expressions into simple form.
-/

namespace RuleGate

namespace Regex

/-- Conditions on the words before and after a place. -/
inductive WordLook where
  | boundary
  | notBoundary
  | start
  | stop
  | startHalf
  | stopHalf
  deriving DecidableEq

/-- Conditions on a place in a text. Words may consist of Unicode or of ASCII characters. -/
inductive Look where
  | textStart
  | textEnd
  | lineStart
  | lineEnd
  | crlfStart
  | crlfEnd
  | word (unicode : Bool) (kind : WordLook)
  deriving DecidableEq

end Regex

/-- A regular expression: the empty text, one character of a set, a place, a group, a repetition, a
choice, or parts one after the other. -/
inductive Regex where
  | empty
  | set (chars : CharSet)
  | look (kind : Regex.Look)
  | group (body : Regex)
  | repeated (body : Regex) (least : Nat) (most : Option Nat) (isLazy : Bool)
  | alternation (branches : List Regex)
  | concatenation (parts : List Regex)
  deriving Inhabited

namespace Regex

mutual

/-- Whether an expression matches no text but the empty one. -/
def isVoid : Regex → Bool
  | .empty => true
  | .set _ => false
  | .look _ => true
  | .group body => body.isVoid
  | .repeated body _ most _ => body.isVoid || most == some 0
  | .alternation branches => allVoid branches
  | .concatenation parts => allVoid parts

def allVoid : List Regex → Bool
  | [] => true
  | r :: rest => r.isVoid && allVoid rest

end

mutual

/-- Whether an expression matches the empty text at some place. -/
def canBeEmpty : Regex → Bool
  | .empty => true
  | .set _ => false
  | .look _ => true
  | .group body => body.canBeEmpty
  | .repeated body least _ _ => least == 0 || body.canBeEmpty
  | .alternation branches => someCanBeEmpty branches
  | .concatenation parts => allCanBeEmpty parts

def someCanBeEmpty : List Regex → Bool
  | [] => false
  | r :: rest => r.canBeEmpty || someCanBeEmpty rest

def allCanBeEmpty : List Regex → Bool
  | [] => true
  | r :: rest => r.canBeEmpty && allCanBeEmpty rest

end

mutual

/-- Whether two expressions are written alike. Groups are counted, so none is like another. -/
def isLike : Regex → Regex → Bool
  | .empty, .empty => true
  | .set chars, .set others => chars == others
  | .look kind, .look other => kind == other
  | .repeated body least most isLazy, .repeated other least' most' isLazy' =>
    least == least' && most == most' && isLazy == isLazy' && body.isLike other
  | .alternation branches, .alternation others => allLike branches others
  | .concatenation parts, .concatenation others => allLike parts others
  | _, _ => false

/-- Whether expressions are written alike in pairs, and none is left over. -/
def allLike : List Regex → List Regex → Bool
  | [], [] => true
  | r :: rest, s :: others => r.isLike s && allLike rest others
  | _, _ => false

end

def set? : Regex → Option CharSet
  | .set chars => some chars
  | _ => none

/-- Whether an expression is one character, which is written out and not a class. -/
def isLetter (r : Regex) : Bool :=
  r.set?.any CharSet.isSingleton

/-- The repetition of an expression. What matches only the empty text need not be repeated. -/
def repetition (body : Regex) (least : Nat) (most : Option Nat) (isLazy : Bool) : Regex :=
  let (least, most) :=
    if body.isVoid then (min least 1, some (min (most.getD 1) 1)) else (least, most)
  if most = some 0 then .empty
  else if least = 1 ∧ most = some 1 then body
  else .repeated body least most isLazy

/-! ### Parts and branches -/

def partsOf : Regex → List Regex
  | .empty => []
  | .concatenation parts => parts
  | r => [r]

def branchesOf : Regex → List Regex
  | .alternation branches => branches
  | r => [r]

def concat (parts : List Regex) : Regex :=
  match parts.flatMap partsOf with
  | [] => .empty
  | [part] => part
  | parts => .concatenation parts

/-- The choice between branches as they stand. A choice between single characters, or between sets
of several characters, is a set. -/
def gather (branches : List Regex) : Regex :=
  match branches.flatMap branchesOf with
  | [branch] => branch
  | branches =>
    match branches.mapM set? with
    | some sets =>
      if sets.all CharSet.isSingleton || !sets.any CharSet.isSingleton then
        .set (CharSet.unions sets)
      else .alternation branches
    | none => .alternation branches

/-- Parts in rows: single characters next to each other make one word. -/
def words : List Regex → List (List Regex)
  | [] => []
  | part :: rest =>
    match words rest with
    | (next :: more) :: others =>
      if part.isLetter && next.isLetter then (part :: next :: more) :: others
      else [part] :: (next :: more) :: others
    | others => [part] :: others

/-- The words of a branch that has more than one. -/
def branchWords? : Regex → Option (List (List Regex))
  | .concatenation parts => if 1 < (words parts).length then some (words parts) else none
  | _ => none

/-- The words with which both rows begin. -/
def commonWords : List (List Regex) → List (List Regex) → List (List Regex)
  | word :: rest, other :: others =>
    if allLike word other then word :: commonWords rest others else []
  | _, _ => []

/-- The choice between branches in which the words that all of them begin with stand before it. -/
def factored (branches : List Regex) : Regex :=
  match branches.mapM branchWords? with
  | some (first :: others) =>
    let common := others.foldl commonWords first
    if common.isEmpty then .alternation branches
    else
      let ends := (first :: others).map fun row => concat (row.drop common.length).flatten
      concat (common.flatten ++ [gather ends])
  | _ => .alternation branches

/-- The choice between branches in its simplest form. -/
def choice (branches : List Regex) : Regex :=
  match gather branches with
  | .alternation branches => factored branches
  | r => r

end Regex

end RuleGate
