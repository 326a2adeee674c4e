import RuleGate.Proofs.SearchEffects

/-! Rules that cannot fire. One condition that no value can meet is enough, wherever it stands and
whatever is searched for before it; such a rule has no say in any decision, whether it would block
or warn. -/

namespace RuleGate

/-- The event cannot meet the condition: its operator is not known, what it searches for is not a
pattern, or its field has no value. -/
inductive Condition.IsBroken (c : Condition) (e : Event) (files : FileSystem) : Prop where
  | operator (name : String) (h : c.operator = .unrecognized name)
  | pattern (err : Regex.Error) (hsearch : c.operator = .regexMatch)
      (h : Search.ofPattern c.pattern = .error err)
  | field (h : e.field? files c.field = none)

theorem Condition.IsBroken.not_met {c : Condition} {e : Event} {files : FileSystem}
    (h : c.IsBroken e files) : ¬ c.Met e files := by
  cases h with
  | operator name h =>
      rintro ⟨value, -, hholds⟩
      rw [h] at hholds
      exact hholds
  | pattern err hsearch h => exact not_met_of_error hsearch h
  | field h =>
      rintro ⟨value, hvalue, -⟩
      rw [h] at hvalue
      cases hvalue

namespace Rule

variable {r : Rule} {e : Event} {files : FileSystem}

/-- The rule has no conditions, or a broken one among them. -/
def IsBroken (r : Rule) (e : Event) (files : FileSystem) : Prop :=
  r.conditions = [] ∨ ∃ c ∈ r.conditions, c.IsBroken e files

theorem IsBroken.isMet_eq_false (h : r.IsBroken e files) : r.isMet e files = false := by
  rw [← Bool.not_eq_true, isMet_iff]
  rintro ⟨-, hsome, hmet⟩
  rcases h with hnone | ⟨c, hc, hbroken⟩
  · exact hsome hnone
  · exact hbroken.not_met (hmet c hc)

/-- The action of a rule plays no part in whether it can fire. -/
theorem IsBroken.with_action (h : r.IsBroken e files) (action : Action) :
    IsBroken { r with action := action } e files := h

theorem filter_isMet_insert (h : r.isMet e files = false) (before after : List Rule) :
    (before ++ r :: after).filter (·.isMet e files) =
      (before ++ after).filter (·.isMet e files) := by
  rw [List.filter_append, List.filter_append, List.filter_cons_of_neg (by simp [h])]

end Rule

namespace SearchCache

variable {cache : SearchCache}

/-- A broken rule does not fire, and with either action it may stand anywhere among other rules: the
same rules fire, and the decision is the one that is made without it. -/
theorem decide_insert_of_isBroken (hcache : cache.Reachable) {r : Rule} {e : Event}
    {files : FileSystem} (h : r.IsBroken e files) :
    ((r.fires e files).runWith cache).1 = false ∧
    ∀ (action : Action) (before after : List Rule),
      cache.firing (before ++ { r with action := action } :: after) e files =
        cache.firing (before ++ after) e files ∧
      cache.decide (before ++ { r with action := action } :: after) e files =
        cache.decide (before ++ after) e files := by
  constructor
  · rw [(r.fires_gives e files).runWith_fst hcache.sound]
    exact h.isMet_eq_false
  · intro action before after
    have hfiring : cache.firing (before ++ { r with action := action } :: after) e files =
        cache.firing (before ++ after) e files := by
      rw [hcache.firing_eq_filter_isMet, hcache.firing_eq_filter_isMet]
      exact Rule.filter_isMet_insert (h.with_action action).isMet_eq_false before after
    refine ⟨hfiring, ?_⟩
    rw [hcache.decide_eq, hcache.decide_eq, hfiring]

/-- A rule whose second condition searches for what is not a pattern. -/
def stuckRule : Rule :=
  reasonRule "a" .warn [⟨"reason", .regexMatch, "\\b"⟩, ⟨"reason", .regexMatch, "("⟩]

def doneRule (action : Action) : Rule :=
  reasonRule "b" action [⟨"reason", .equals, "done"⟩]

theorem decide_insert_of_isBroken_stuckRule :
    servedCache.Reachable ∧ stuckRule.IsBroken reasonedStop ⟨.directory [], []⟩ ∧
      ((stuckRule.fires reasonedStop ⟨.directory [], []⟩).runWith servedCache).1 = false ∧
      servedCache.decide [doneRule .warn, { stuckRule with action := .block },
        doneRule .block] reasonedStop
          ⟨.directory [], []⟩ =
        servedCache.decide [doneRule .warn, doneRule .block] reasonedStop ⟨.directory [], []⟩ ∧
      servedCache.decide [doneRule .warn, doneRule .block] reasonedStop ⟨.directory [], []⟩ =
        .blockStop "**[b]**\nGo on." := by
  have hbroken : stuckRule.IsBroken reasonedStop ⟨.directory [], []⟩ := by
    cases hsearch : Search.ofPattern "(" with
    | error err =>
        exact Or.inr ⟨⟨"reason", .regexMatch, "("⟩, by decide, .pattern err rfl hsearch⟩
    | ok search =>
        have hnone : Search.isPattern "(" = false := by decide +kernel
        exact absurd (Search.isPattern_iff.mpr ⟨search, hsearch⟩) (by rw [hnone]; decide)
  obtain ⟨hfires, hdecide⟩ := decide_insert_of_isBroken reachable_servedCache hbroken
  refine ⟨reachable_servedCache, hbroken, hfires, ?_, ?_⟩
  · exact (hdecide .block [doneRule .warn] [doneRule .block]).2
  · decide +kernel

end SearchCache

end RuleGate
