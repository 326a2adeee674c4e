import RuleGate.Evaluation
import RuleGate.Proofs.Dictionary
import RuleGate.Proofs.TextCutting

/-! What judging comes to without its cache. From a cache in which every search is the one that its
pattern gives, an evaluation answers as a plain function of the rules, the event and the files. What
it leaves behind is told by the patterns that it searches for, which do not depend on the cache
either. -/

namespace RuleGate

/-! ### The answers -/

/-- When a value passes the comparison with a pattern. A pattern that cannot be searched for and an
operator that is not known let no value pass. -/
def Operator.Holds (op : Operator) (value pattern : String) : Prop :=
  match op with
  | .regexMatch => ∃ search, Search.ofPattern pattern = .ok search ∧ search.isMatch value = true
  | .contains => pattern.toList <:+: value.toList
  | .equals => value = pattern
  | .notContains => ¬ pattern.toList <:+: value.toList
  | .startsWith => pattern.toList <+: value.toList
  | .endsWith => pattern.toList <:+ value.toList
  | .unrecognized _ => False

/-- Whether a value passes the comparison with a pattern, without a cache. -/
def Operator.passes (op : Operator) (value pattern : String) : Bool :=
  match op with
  | .regexMatch => ((Search.ofPattern pattern).toOption.map (·.isMatch value)).getD false
  | .contains => value.contains pattern
  | .equals => value == pattern
  | .notContains => !value.contains pattern
  | .startsWith => value.startsWith pattern
  | .endsWith => value.endsWith pattern
  | .unrecognized _ => false

/-- Whether an event fulfils a condition, without a cache. -/
def Condition.isMet (c : Condition) (e : Event) (files : FileSystem) : Bool :=
  ((e.field? files c.field).map (c.operator.passes · c.pattern)).getD false

/-- Whether a rule fires for an event, without a cache. -/
def Rule.isMet (r : Rule) (e : Event) (files : FileSystem) : Bool :=
  r.admits e.toolName && !r.conditions.isEmpty && r.conditions.all (·.isMet e files)

theorem Operator.passes_iff_holds (op : Operator) (value pattern : String) :
    op.passes value pattern = true ↔ op.Holds value pattern := by
  cases op with
  | regexMatch =>
      rw [passes, Holds]
      cases Search.ofPattern pattern with
      | error e => simp [Except.toOption]
      | ok search => simp [Except.toOption]
  | contains => exact String.contains_string_iff
  | equals => exact beq_iff_eq
  | notContains =>
      rw [passes, Holds, Bool.not_eq_true', String.contains_string_eq_false_iff]
  | startsWith => exact String.startsWith_string_iff
  | endsWith => exact Text.endsWith_iff
  | unrecognized name => simp [passes, Holds]

instance (op : Operator) (value pattern : String) : Decidable (op.Holds value pattern) :=
  match op with
  | .regexMatch => decidable_of_iff _ (Operator.passes_iff_holds .regexMatch value pattern)
  | .contains => inferInstanceAs (Decidable (pattern.toList <:+: value.toList))
  | .equals => inferInstanceAs (Decidable (value = pattern))
  | .notContains => inferInstanceAs (Decidable (¬ pattern.toList <:+: value.toList))
  | .startsWith => inferInstanceAs (Decidable (pattern.toList <+: value.toList))
  | .endsWith => inferInstanceAs (Decidable (pattern.toList <:+ value.toList))
  | .unrecognized _ => inferInstanceAs (Decidable False)

theorem Condition.isMet_iff (c : Condition) (e : Event) (files : FileSystem) :
    c.isMet e files = true ↔
      ∃ value, e.field? files c.field = some value ∧ c.operator.Holds value c.pattern := by
  rw [isMet]
  cases e.field? files c.field with
  | none => simp
  | some value => simp [Operator.passes_iff_holds]

theorem Rule.isMet_iff (r : Rule) (e : Event) (files : FileSystem) :
    r.isMet e files = true ↔ r.admits e.toolName = true ∧ r.conditions ≠ [] ∧
      ∀ c ∈ r.conditions, ∃ value, e.field? files c.field = some value ∧
        c.operator.Holds value c.pattern := by
  rw [isMet, Bool.and_eq_true, Bool.and_eq_true, List.all_eq_true, and_assoc]
  simp only [Condition.isMet_iff, Bool.not_eq_true', ne_eq, List.isEmpty_eq_false_iff]

/-! ### The patterns that are searched for -/

/-- The patterns that a comparison searches for. -/
def Operator.sought (op : Operator) (pattern : String) : List String :=
  match op with
  | .regexMatch => [pattern]
  | _ => []

/-- The patterns that a condition searches for. A field without a value is compared with none. -/
def Condition.sought (c : Condition) (e : Event) (files : FileSystem) : List String :=
  if (e.field? files c.field).isSome then c.operator.sought c.pattern else []

/-- The conditions that are looked at: all that are fulfilled before the first that is not, and that
one. -/
def Rule.tried (e : Event) (files : FileSystem) (conditions : List Condition) : List Condition :=
  conditions.takeWhile (·.isMet e files) ++ (conditions.dropWhile (·.isMet e files)).take 1

/-- The patterns that a rule searches for. A rule for other tools searches for none. -/
def Rule.sought (r : Rule) (e : Event) (files : FileSystem) : List String :=
  if r.admits e.toolName then (tried e files r.conditions).flatMap (·.sought e files) else []

/-- The warning about a pattern, if it cannot be searched for. -/
def Search.warning? (pattern : String) : Option Warning :=
  match ofPattern pattern with
  | .ok _ => none
  | .error e => some (.ignored (.invalidPattern pattern e))

theorem Rule.tried_cons (e : Event) (files : FileSystem) (c : Condition) (rest : List Condition) :
    tried e files (c :: rest) = if c.isMet e files then c :: tried e files rest else [c] := by
  rw [tried, tried, List.takeWhile_cons, List.dropWhile_cons]
  cases c.isMet e files with
  | true => rfl
  | false => rfl

/-! ### The cache -/

namespace SearchCache

/-- Every search that has been made ready is the one that its pattern gives. -/
def Sound (cache : SearchCache) : Prop :=
  ∀ pattern search, cache.searches.find? pattern = some search →
    Search.ofPattern pattern = .ok search

/-- The cache after searches for some patterns. -/
def prepare (cache : SearchCache) (patterns : List String) : SearchCache :=
  patterns.foldl (fun cache pattern => (cache.search pattern).2) cache

theorem prepare_append (cache : SearchCache) (patterns others : List String) :
    cache.prepare (patterns ++ others) = (cache.prepare patterns).prepare others :=
  List.foldl_append

theorem sound_empty : empty.Sound := by
  intro pattern search h
  simp [empty] at h

variable {cache : SearchCache}

/-- A sound cache finds what the pattern gives. -/
theorem Sound.search_fst (h : cache.Sound) (pattern : String) :
    (cache.search pattern).1 = Search.ofPattern pattern := by
  rw [search]
  cases hfound : cache.searches.find? pattern with
  | some search => exact (h pattern search hfound).symm
  | none =>
      cases hmade : Search.ofPattern pattern with
      | error e => rfl
      | ok search => rfl

/-- A search adds its own pattern to the cache, if it is one, and changes nothing else. -/
theorem Sound.find?_search (h : cache.Sound) {pattern other : String} {search : Search} :
    (cache.search pattern).2.searches.find? other = some search ↔
      cache.searches.find? other = some search ∨ other = pattern ∧
      Search.ofPattern other = .ok search := by
  rw [SearchCache.search]
  cases hfound : cache.searches.find? pattern with
  | some found =>
      refine ⟨Or.inl, ?_⟩
      rintro (hother | ⟨rfl, hmade⟩)
      · exact hother
      · rw [hfound]
        exact congrArg some (Except.ok.inj ((h other found hfound).symm.trans hmade))
  | none =>
      cases hmade : Search.ofPattern pattern with
      | error e =>
          refine ⟨Or.inl, ?_⟩
          rintro (hother | ⟨rfl, hok⟩)
          · exact hother
          · exact absurd (hmade.symm.trans hok) (by simp)
      | ok made =>
          simp only [Dictionary.find?_insert]
          by_cases heq : other = pattern
          · subst heq
            simp [hfound, hmade]
          · simp [heq]

theorem Sound.search (h : cache.Sound) (pattern : String) : (cache.search pattern).2.Sound := by
  intro other search hother
  rcases h.find?_search.mp hother with hold | ⟨_, hmade⟩
  · exact h other search hold
  · exact hmade

theorem Sound.prepare (h : cache.Sound) (patterns : List String) :
    (cache.prepare patterns).Sound := by
  induction patterns generalizing cache with
  | nil => exact h
  | cons pattern rest ih => exact ih (h.search pattern)

/-- Searches add their own patterns to the cache, as far as they are patterns, and change nothing
else. -/
theorem Sound.find?_prepare (h : cache.Sound) {patterns : List String} {other : String}
    {search : Search} :
    (cache.prepare patterns).searches.find? other = some search ↔
      cache.searches.find? other = some search ∨
        other ∈ patterns ∧ Search.ofPattern other = .ok search := by
  induction patterns generalizing cache with
  | nil => simp [SearchCache.prepare]
  | cons pattern rest ih =>
      have hrest := ih (h.search pattern)
      rw [h.find?_search] at hrest
      rw [List.mem_cons, or_and_right, ← or_assoc]
      exact hrest

end SearchCache

/-! ### Evaluations -/

namespace Judgement

variable {α β : Type}

/-- From every sound cache the judgement gives the value and searches for the patterns: they are in
the cache that it leaves behind, and the bad ones among them are noted. -/
def Gives (j : Judgement α) (value : α) (sought : List String) : Prop :=
  ∀ notes : Notes, notes.cache.Sound →
    j.run notes = (value, ⟨notes.cache.prepare sought,
      notes.warnings ++ sought.filterMap Search.warning?⟩)

theorem Gives.pure (value : α) : Gives (pure value) value [] := by
  intro notes _
  rw [List.filterMap_nil, List.append_nil]
  rfl

theorem Gives.bind {j : Judgement α} {next : α → Judgement β} {a : α} {b : β}
    {sought others : List String} (hj : j.Gives a sought) (hnext : (next a).Gives b others) :
    Gives (j >>= next) b (sought ++ others) := by
  intro notes h
  have hrun : (j >>= next).run notes = (next (j.run notes).1).run (j.run notes).2 := rfl
  rw [hrun, hj notes h, hnext _ (h.prepare sought), SearchCache.prepare_append,
    List.filterMap_append, List.append_assoc]

theorem Gives.bind_pure {j : Judgement α} {a : α} {sought : List String} (hj : j.Gives a sought)
    (f : α → β) : (j >>= fun x => Pure.pure (f x)).Gives (f a) sought := by
  rw [← List.append_nil sought]
  exact hj.bind (.pure (f a))

/-- What such a judgement gives and leaves behind when it starts without warnings. -/
theorem Gives.runWith_eq {j : Judgement α} {value : α} {sought : List String}
    (h : j.Gives value sought) {cache : SearchCache} (hcache : cache.Sound) :
    j.runWith cache = (value, ⟨cache.prepare sought, sought.filterMap Search.warning?⟩) := by
  rw [runWith, h ⟨cache, []⟩ hcache, List.nil_append]

theorem gives_search? (pattern : String) :
    (search? pattern).Gives (Search.ofPattern pattern).toOption [pattern] := by
  intro notes h
  have hcache : notes.cache.prepare [pattern] = (notes.cache.search pattern).2 := rfl
  have hresult := h.search_fst pattern
  change search? pattern notes = _
  rw [search?, hcache, List.filterMap_cons, List.filterMap_nil, Search.warning?, ← hresult]
  cases hsearch : notes.cache.search pattern with
  | mk result cache =>
      cases result with
      | ok search => simp [Except.toOption]
      | error e => simp [Except.toOption]

end Judgement

theorem Operator.test_gives (op : Operator) (value pattern : String) :
    (op.test value pattern).Gives (op.passes value pattern) (op.sought pattern) := by
  cases op with
  | regexMatch =>
      rw [sought, ← List.append_nil [pattern]]
      refine (Judgement.gives_search? pattern).bind ?_
      rw [passes]
      cases (Search.ofPattern pattern).toOption with
      | none => exact .pure _
      | some search => exact .pure _
  | _ => exact Judgement.Gives.pure _

theorem Condition.holds_gives (c : Condition) (e : Event) (files : FileSystem) :
    (c.holds e files).Gives (c.isMet e files) (c.sought e files) := by
  rw [holds, isMet, sought]
  cases e.field? files c.field with
  | none => exact .pure _
  | some value => exact c.operator.test_gives value c.pattern

namespace Rule

theorem allHold_gives (e : Event) (files : FileSystem) (conditions : List Condition) :
    (allHold e files conditions).Gives (conditions.all (·.isMet e files))
      ((tried e files conditions).flatMap (·.sought e files)) := by
  induction conditions with
  | nil => exact .pure _
  | cons c rest ih =>
      have hc := c.holds_gives e files
      rw [List.all_cons, tried_cons, allHold]
      cases hmet : c.isMet e files with
      | false =>
          rw [hmet] at hc
          exact hc.bind (.pure _)
      | true =>
          rw [hmet] at hc
          exact hc.bind ih

theorem fires_gives (r : Rule) (e : Event) (files : FileSystem) :
    (r.fires e files).Gives (r.isMet e files) (r.sought e files) := by
  rw [fires, isMet, sought]
  cases r.admits e.toolName with
  | false => exact .pure _
  | true =>
      cases hconditions : r.conditions with
      | nil => exact .pure _
      | cons c rest => exact allHold_gives e files (c :: rest)

theorem firing_gives (e : Event) (files : FileSystem) (rules : List Rule) :
    (firing e files rules).Gives (rules.filter (·.isMet e files))
      (rules.flatMap (·.sought e files)) := by
  induction rules with
  | nil => exact .pure _
  | cons r rest ih =>
      rw [List.filter_cons, List.flatMap_cons]
      exact (r.fires_gives e files).bind (ih.bind_pure _)

end Rule

theorem Decision.judge_gives (rules : List Rule) (e : Event) (files : FileSystem) :
    (judge rules e files).Gives (ofFiring e (rules.filter (·.isMet e files)))
      (rules.flatMap (·.sought e files)) :=
  (Rule.firing_gives e files rules).bind_pure _

end RuleGate
