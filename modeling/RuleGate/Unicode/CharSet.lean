/-!
Sets of code points, held as ascending ranges that neither overlap nor touch. The operations build
lists of ranges and put them in order again; membership is decided by halving.
-/

namespace RuleGate

/-- A set of code points: ranges with both ends included, ascending, none touching the next. -/
structure CharSet where
  ranges : Array (Nat × Nat)
  deriving DecidableEq, Inhabited

namespace CharSet

def maxCodePoint : Nat := 0x10FFFF

/-- Joins a range to ranges that start no earlier, as long as they overlap or touch it. -/
def joinFrom (lo hi : Nat) : List (Nat × Nat) → List (Nat × Nat)
  | [] => [(lo, hi)]
  | (a, b) :: rest =>
    if a ≤ hi + 1 then joinFrom lo (max hi b) rest else (lo, hi) :: joinFrom a b rest

/-- The set of the code points in any of the given ranges. A range whose ends are in the wrong order
is empty. -/
def ofRanges (ranges : List (Nat × Nat)) : CharSet :=
  match (ranges.filter (fun r => r.1 ≤ r.2)).mergeSort (fun r s => r.1 ≤ s.1) with
  | [] => ⟨#[]⟩
  | (lo, hi) :: rest => ⟨(joinFrom lo hi rest).toArray⟩

def empty : CharSet :=
  ⟨#[]⟩

def all : CharSet :=
  ⟨#[(0, maxCodePoint)]⟩

def singleton (c : Nat) : CharSet :=
  ⟨#[(c, c)]⟩

def isEmpty (s : CharSet) : Bool :=
  s.ranges.isEmpty

/-- Whether one of the ranges from `lo` up to but not including `hi` holds `c`. -/
def searchFrom (ranges : Array (Nat × Nat)) (c lo hi : Nat) : Bool :=
  if lo < hi then
    let mid := (lo + hi) / 2
    match ranges[mid]? with
    | none => false
    | some (a, b) =>
      if c < a then searchFrom ranges c lo mid
      else if b < c then searchFrom ranges c (mid + 1) hi
      else true
  else false
termination_by hi - lo

def contains (s : CharSet) (c : Nat) : Bool :=
  searchFrom s.ranges c 0 s.ranges.size

def union (s t : CharSet) : CharSet :=
  ofRanges (s.ranges.toList ++ t.ranges.toList)

/-- The gaps between ascending ranges, from `next` to the greatest code point. -/
def gapsFrom (next : Nat) : List (Nat × Nat) → List (Nat × Nat)
  | [] => if next ≤ maxCodePoint then [(next, maxCodePoint)] else []
  | (a, b) :: rest =>
    if next < a then (next, a - 1) :: gapsFrom (b + 1) rest else gapsFrom (b + 1) rest

def complement (s : CharSet) : CharSet :=
  ⟨(gapsFrom 0 s.ranges.toList).toArray⟩

def inter (s t : CharSet) : CharSet :=
  (s.complement.union t.complement).complement

/-- The code points in the first set alone. -/
def diff (s t : CharSet) : CharSet :=
  s.inter t.complement

/-- The code points in exactly one of the sets. -/
def symmDiff (s t : CharSet) : CharSet :=
  (s.union t).diff (s.inter t)

def unions (sets : List CharSet) : CharSet :=
  ofRanges (sets.flatMap fun s => s.ranges.toList)

/-- Whether the set holds exactly one code point. -/
def isSingleton (s : CharSet) : Bool :=
  match s.ranges.toList with
  | [(lo, hi)] => lo == hi
  | _ => false

def isAscii (s : CharSet) : Bool :=
  match s.ranges.back? with
  | none => true
  | some (_, hi) => hi ≤ 0x7F

end CharSet

end RuleGate
