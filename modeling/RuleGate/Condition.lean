import RuleGate.Event.Extraction

/-!
Conditions on events: a field, an operator and a pattern. A condition is judged with a cache of the
patterns that have been made ready so far, which never changes the judgement: a cached search is the
one that its pattern gives, and a pattern that cannot be searched for is not cached.
-/

namespace RuleGate

/-- How the value of a field is compared with a pattern. An operator that is not known never
holds. -/
inductive Operator where
  | regexMatch
  | contains
  | equals
  | notContains
  | startsWith
  | endsWith
  | unrecognized (name : String)
  deriving DecidableEq

namespace Operator

/-- The operator with the given name. Where none is given, a pattern is searched for. -/
def ofName (name : Option String) : Operator :=
  match name.getD "" with
  | "" => .regexMatch
  | "regex_match" => .regexMatch
  | "contains" => .contains
  | "equals" => .equals
  | "not_contains" => .notContains
  | "starts_with" => .startsWith
  | "ends_with" => .endsWith
  | name => .unrecognized name

def name : Operator → String
  | .regexMatch => "regex_match"
  | .contains => "contains"
  | .equals => "equals"
  | .notContains => "not_contains"
  | .startsWith => "starts_with"
  | .endsWith => "ends_with"
  | .unrecognized name => name

def isRecognized : Operator → Bool
  | .unrecognized _ => false
  | _ => true

end Operator

structure Condition where
  field : String
  operator : Operator
  pattern : String
  deriving DecidableEq

/-- The searches that have been made ready, under the texts of their patterns. -/
structure SearchCache where
  searches : Dictionary Search
  deriving Inhabited

namespace SearchCache

/-- Nothing made ready yet. -/
def empty : SearchCache :=
  ⟨Dictionary.empty⟩

def size (cache : SearchCache) : Nat :=
  cache.searches.entries.length

def isEmpty (cache : SearchCache) : Bool :=
  cache.searches.isEmpty

/-- The search for a pattern, and the cache that then holds it. -/
def search (cache : SearchCache) (pattern : String) : Except Regex.Error Search × SearchCache :=
  match cache.searches.find? pattern with
  | some search => (.ok search, cache)
  | none =>
    match Search.ofPattern pattern with
    | .ok search => (.ok search, ⟨cache.searches.insert pattern search⟩)
    | .error e => (.error e, cache)

end SearchCache

/-- What judging leaves behind: the cache, and the warnings so far. -/
structure Notes where
  cache : SearchCache
  warnings : List Warning

/-- A judgement that uses the cache and may note warnings. -/
abbrev Judgement (α : Type) : Type :=
  StateM Notes α

namespace Judgement

/-- Makes a pattern ready. A pattern that cannot be searched for is noted. -/
def search? (pattern : String) : Judgement (Option Search) := fun notes =>
  match notes.cache.search pattern with
  | (.ok search, cache) => (some search, { notes with cache := cache })
  | (.error e, cache) =>
    (none, ⟨cache, notes.warnings ++ [.ignored (.invalidPattern pattern e)]⟩)

/-- What a judgement gives with a cache, and what it notes. -/
def runWith {α : Type} (j : Judgement α) (cache : SearchCache) : α × Notes :=
  j.run ⟨cache, []⟩

end Judgement

/-- Whether a value passes the comparison with a pattern. -/
def Operator.test (op : Operator) (value pattern : String) : Judgement Bool :=
  match op with
  | .regexMatch => do
    match ← Judgement.search? pattern with
    | some search => pure (search.isMatch value)
    | none => pure false
  | .contains => pure (value.contains pattern)
  | .equals => pure (value == pattern)
  | .notContains => pure (!value.contains pattern)
  | .startsWith => pure (value.startsWith pattern)
  | .endsWith => pure (value.endsWith pattern)
  | .unrecognized _ => pure false

/-- Whether an event fulfils a condition. A field without a value fulfils none. -/
def Condition.holds (c : Condition) (e : Event) (files : FileSystem) : Judgement Bool :=
  match e.field? files c.field with
  | some value => c.operator.test value c.pattern
  | none => pure false

end RuleGate
