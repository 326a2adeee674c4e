import RuleGate.Regex.Basic
import RuleGate.Unicode.Property

/-!
Searching a text for a match. An expression is written out as a tree in which the leaves are sets of
characters and conditions on places. A leaf is marked while a match that began somewhere can have
read its last character there; each character read moves the marks on. Every node remembers what can
be said of it at the place reached, so that parts without marks are not looked at.
-/

namespace RuleGate.Regex

/-! ### Places -/

/-- A place in a text: the characters around it. -/
structure Place where
  before : Option Char
  after : Option Char

def isWordChar (unicode : Bool) (c : Char) : Bool :=
  if unicode && 0x7F < c.toNat then Unicode.wordCharacters.contains c.toNat
  else c.isAlphanum || c == '_'

/-- Whether a place fulfils a condition on words. -/
def WordLook.holds (before after : Bool) : WordLook → Bool
  | .boundary => before != after
  | .notBoundary => before == after
  | .start => !before && after
  | .stop => before && !after
  | .startHalf => !before
  | .stopHalf => !after

/-- Whether a place fulfils a condition. A line may end with a carriage return, a line feed, or
both; then it does not end between them. -/
def Look.holds (p : Place) : Look → Bool
  | .textStart => p.before.isNone
  | .textEnd => p.after.isNone
  | .lineStart => p.before.isNone || p.before == some '\n'
  | .lineEnd => p.after.isNone || p.after == some '\n'
  | .crlfStart =>
    p.before.isNone || p.before == some '\n' || (p.before == some '\r' && p.after != some '\n')
  | .crlfEnd =>
    p.after.isNone || p.after == some '\r' || (p.after == some '\n' && p.before != some '\r')
  | .word unicode kind =>
    kind.holds (p.before.any (isWordChar unicode)) (p.after.any (isWordChar unicode))

/-! ### Marked trees -/

/-- What is remembered of a node: whether it matches the empty text at the place reached, whether a
match of it can end there, and whether reading on can change what is remembered. -/
structure Standing where
  isNullable : Bool
  isFinal : Bool
  isAlive : Bool

/-- An expression written out, with marks. The last kind of node repeats its body once or more. -/
inductive Marked where
  | empty
  | set (chars : CharSet) (mark : Bool)
  | look (kind : Look) (holds : Bool)
  | either (s : Standing) (left right : Marked)
  | both (s : Standing) (left right : Marked)
  | again (s : Standing) (body : Marked)
  deriving Inhabited

namespace Marked

def standing : Marked → Standing
  | .empty => ⟨true, false, false⟩
  | .set _ mark => ⟨false, mark, mark⟩
  | .look _ holds => ⟨holds, false, true⟩
  | .either s _ _ => s
  | .both s _ _ => s
  | .again s _ => s

def eitherOf (left right : Marked) : Marked :=
  let a := left.standing
  let b := right.standing
  .either ⟨a.isNullable || b.isNullable, a.isFinal || b.isFinal, a.isAlive || b.isAlive⟩ left right

def bothOf (left right : Marked) : Marked :=
  let a := left.standing
  let b := right.standing
  .both ⟨a.isNullable && b.isNullable, (a.isFinal && b.isNullable) || b.isFinal,
    a.isAlive || b.isAlive⟩ left right

/-- A node once or more. -/
def againOf (body : Marked) : Marked :=
  .again body.standing body

def optional (body : Marked) : Marked :=
  eitherOf .empty body

/-- The tree after a character, at the place behind it. The character is read from the place before
it, where `enters` says whether a match of the node can begin. -/
def read (enters : Bool) (c : Char) (next : Place) : Marked → Marked
  | .empty => .empty
  | .set chars _ => .set chars (enters && chars.contains c.toNat)
  | .look kind _ => .look kind (kind.holds next)
  | .either s left right =>
    if enters || s.isAlive then eitherOf (left.read enters c next) (right.read enters c next)
    else .either s left right
  | .both s left right =>
    if enters || s.isAlive then
      let a := left.standing
      bothOf (left.read enters c next) (right.read ((enters && a.isNullable) || a.isFinal) c next)
    else .both s left right
  | .again s body =>
    if enters || s.isAlive then againOf (body.read (enters || s.isFinal) c next)
    else .again s body

/-- The tree at the first place of a text. -/
def place (p : Place) : Marked → Marked
  | .empty => .empty
  | .set chars mark => .set chars mark
  | .look kind _ => .look kind (kind.holds p)
  | .either _ left right => eitherOf (left.place p) (right.place p)
  | .both _ left right => bothOf (left.place p) (right.place p)
  | .again _ body => againOf (body.place p)

/-- Joins neighbours in pairs. -/
def joinPairs (join : Marked → Marked → Marked) : List Marked → List Marked
  | a :: b :: rest => join a b :: joinPairs join rest
  | rest => rest

/-- Joins nodes to one tree, which is as shallow as it can be. Each round halves their number. -/
def joinAll (join : Marked → Marked → Marked) (ofNone : Marked) : Nat → List Marked → Marked
  | _, [] => ofNone
  | _, [a] => a
  | 0, a :: b :: rest => (b :: rest).foldl join a
  | rounds + 1, nodes => joinAll join ofNone rounds (joinPairs join nodes)

def sequence (nodes : List Marked) : Marked :=
  joinAll bothOf .empty nodes.length nodes

/-- The choice between nodes, of which there may be none. -/
def choice (nodes : List Marked) : Marked :=
  joinAll eitherOf (.set CharSet.empty false) nodes.length nodes

/-- A node as often as a repetition says. -/
def repeated (body : Marked) (least : Nat) (most : Option Nat) : Marked :=
  match most with
  | some most =>
    sequence (List.replicate least body ++ List.replicate (most - least) (optional body))
  | none =>
    if least = 0 then optional (againOf body)
    else sequence (List.replicate (least - 1) body ++ [againOf body])

end Marked

mutual

def marked : Regex → Marked
  | .empty => .empty
  | .set chars => .set chars false
  | .look kind => .look kind false
  | .group body => body.marked
  | .repeated body least most _ => body.marked.repeated least most
  | .alternation branches => .choice (markedAll branches)
  | .concatenation parts => .sequence (markedAll parts)

def markedAll : List Regex → List Marked
  | [] => []
  | r :: rest => r.marked :: markedAll rest

end

/-- Whether a match ends at the place that a tree has reached or at one behind it, where `c` is the
next character. A match can begin at every place. -/
def findsFrom (tree : Marked) : List Char → Bool
  | [] => tree.standing.isNullable || tree.standing.isFinal
  | c :: rest =>
    tree.standing.isNullable || tree.standing.isFinal ||
      findsFrom (tree.read true c ⟨some c, rest.head?⟩) rest

/-- Whether a text holds a match of an expression that has been written out. -/
def finds (tree : Marked) (text : List Char) : Bool :=
  findsFrom (tree.place ⟨none, text.head?⟩) text

end RuleGate.Regex
