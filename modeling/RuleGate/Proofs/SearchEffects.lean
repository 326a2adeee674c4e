import RuleGate.Proofs.WinningRules

/-! What an evaluation leaves behind. The searches that it adds to the cache and the warnings that
it notes are told by the conditions that are reached, and these by the rules and the event alone; so
a second evaluation adds nothing and says the same again. -/

namespace RuleGate

theorem Warning.message_invalidPattern (pattern : String) (err : Regex.Error) :
    (Warning.ignored (.invalidPattern pattern err)).message =
      "Invalid regex pattern '" ++ (pattern ++ ("': " ++ err.message)) := by
  show "Invalid regex pattern '" ++ pattern ++ "': " ++ err.message = _
  rw [String.append_assoc, String.append_assoc]

/-! ### Conditions -/

namespace Condition

variable {c : Condition} {e : Event} {files : FileSystem}

/-- The field has a value, and the value passes the comparison. -/
def Met (c : Condition) (e : Event) (files : FileSystem) : Prop :=
  ∃ value, e.field? files c.field = some value ∧ c.operator.Holds value c.pattern

theorem isMet_eq_true_iff : c.isMet e files = true ↔ c.Met e files :=
  c.isMet_iff e files

theorem isMet_eq_false_iff : c.isMet e files = false ↔ ¬ c.Met e files := by
  rw [← isMet_eq_true_iff, Bool.not_eq_true]

/-- A condition whose search is not a pattern is not met. -/
theorem not_met_of_error {err : Regex.Error} (hsearch : c.operator = .regexMatch)
    (herror : Search.ofPattern c.pattern = .error err) : ¬ c.Met e files := by
  rintro ⟨value, -, hholds⟩
  rw [hsearch] at hholds
  obtain ⟨search, hmade, -⟩ := hholds
  rw [herror] at hmade
  cases hmade

theorem mem_sought_iff {pattern : String} :
    pattern ∈ c.sought e files ↔
      (e.field? files c.field).isSome = true ∧ c.operator = .regexMatch ∧ c.pattern = pattern := by
  unfold sought
  split_ifs with hvalue
  · cases hop : c.operator <;> simp [Operator.sought, hvalue, eq_comm]
  · simp [hvalue]

/-- The warning about the pattern of a condition, if it is searched for. -/
def warning? (c : Condition) (e : Event) (files : FileSystem) : Option Warning :=
  (c.sought e files).findSome? Search.warning?

theorem filterMap_sought :
    (c.sought e files).filterMap Search.warning? = (c.warning? e files).toList := by
  unfold warning? sought
  split_ifs with hvalue
  · cases c.operator with
    | regexMatch =>
        rw [Operator.sought, List.filterMap_cons, List.findSome?_cons]
        cases Search.warning? c.pattern <;> rfl
    | _ => rfl
  · rfl

theorem warning?_eq_some_iff {w : Warning} :
    c.warning? e files = some w ↔
      (e.field? files c.field).isSome = true ∧ c.operator = .regexMatch ∧
        ∃ err, Search.ofPattern c.pattern = .error err ∧
          w = .ignored (.invalidPattern c.pattern err) := by
  have hsearch : ∀ pattern, Search.warning? pattern = some w ↔
      ∃ err, Search.ofPattern pattern = .error err ∧
          w = .ignored (.invalidPattern pattern err) := by
    intro pattern
    unfold Search.warning?
    cases Search.ofPattern pattern with
    | ok search => simp
    | error err => simp [eq_comm]
  rw [← hsearch]
  unfold warning? sought
  split_ifs with hvalue
  · cases hop : c.operator with
    | regexMatch =>
        rw [Operator.sought, List.findSome?_cons]
        cases Search.warning? c.pattern <;> simp [hvalue]
    | _ => simp [Operator.sought]
  · simp [hvalue]

theorem warning?_of_met (h : c.Met e files) : c.warning? e files = none := by
  rw [Option.eq_none_iff_forall_ne_some]
  intro w hw
  obtain ⟨-, hsearch, err, herror, -⟩ := warning?_eq_some_iff.mp hw
  exact not_met_of_error hsearch herror h

end Condition

/-! ### Rules -/

namespace Rule

variable {r : Rule} {e : Event} {files : FileSystem}

/-- An event gets as far as a condition: the rule is for the tool of the event, the event fulfils
all conditions before this one, and the field of this one has a value. -/
structure Reaches (r : Rule) (e : Event) (files : FileSystem) (c : Condition) : Prop where
  admitted : r.admits e.toolName = true
  resolved : (e.field? files c.field).isSome = true
  settled : ∃ before after, r.conditions = before ++ c :: after ∧ ∀ b ∈ before, b.Met e files

/-- Either a member stands first, or it stands behind the first one. -/
theorem exists_cons_eq_append_iff {α : Type} {P : α → Prop} {c d : α} {rest : List α} :
    (∃ before after, d :: rest = before ++ c :: after ∧ ∀ b ∈ before, P b) ↔
      c = d ∨ P d ∧ ∃ before after, rest = before ++ c :: after ∧ ∀ b ∈ before, P b := by
  constructor
  · rintro ⟨before, after, heq, hbefore⟩
    cases before with
    | nil => exact Or.inl (List.cons.inj heq).1.symm
    | cons b before =>
        obtain ⟨rfl, hrest⟩ := List.cons.inj heq
        obtain ⟨hfirst, hothers⟩ := List.forall_mem_cons.mp hbefore
        exact Or.inr ⟨hfirst, before, after, hrest, hothers⟩
  · rintro (rfl | ⟨hfirst, before, after, rfl, hbefore⟩)
    · exact ⟨[], rest, rfl, by simp⟩
    · exact ⟨d :: before, after, rfl, List.forall_mem_cons.mpr ⟨hfirst, hbefore⟩⟩

theorem mem_tried_iff {c : Condition} {conditions : List Condition} :
    c ∈ tried e files conditions ↔
      ∃ before after, conditions = before ++ c :: after ∧ ∀ b ∈ before, b.Met e files := by
  induction conditions with
  | nil => simp [tried]
  | cons d rest ih =>
      rw [tried_cons, exists_cons_eq_append_iff, ← ih, ← Condition.isMet_eq_true_iff]
      split_ifs with hmet
      · simp [hmet]
      · simp [hmet]

theorem mem_sought_iff {pattern : String} :
    pattern ∈ r.sought e files ↔
      ∃ c, r.Reaches e files c ∧ c.operator = .regexMatch ∧ c.pattern = pattern := by
  unfold sought
  split_ifs with hadmits
  · rw [List.mem_flatMap]
    constructor
    · rintro ⟨c, htried, hsought⟩
      obtain ⟨hvalue, hsearch, rfl⟩ := Condition.mem_sought_iff.mp hsought
      exact ⟨c, ⟨hadmits, hvalue, mem_tried_iff.mp htried⟩, hsearch, rfl⟩
    · rintro ⟨c, hreaches, hsearch, rfl⟩
      exact ⟨c, mem_tried_iff.mpr hreaches.settled,
        Condition.mem_sought_iff.mpr ⟨hreaches.resolved, hsearch, rfl⟩⟩
  · simp only [List.not_mem_nil, false_iff]
    rintro ⟨c, hreaches, -⟩
    exact hadmits hreaches.admitted

/-- The warning that a rule leaves behind: the one about its first condition that is not met. -/
def warning? (r : Rule) (e : Event) (files : FileSystem) : Option Warning :=
  if r.admits e.toolName then
    (r.conditions.find? fun c => !c.isMet e files).bind (·.warning? e files)
  else none

/-- Of the conditions that are tried only the one that is not met, which is the last, can give a
warning. -/
theorem filterMap_flatMap_tried (conditions : List Condition) :
    ((tried e files conditions).flatMap (·.sought e files)).filterMap Search.warning? =
      ((conditions.find? fun c => !c.isMet e files).bind (·.warning? e files)).toList := by
  induction conditions with
  | nil => rfl
  | cons c rest ih =>
      rw [tried_cons, List.find?_cons]
      cases hmet : c.isMet e files with
      | true =>
          have hquiet := Condition.warning?_of_met (Condition.isMet_eq_true_iff.mp hmet)
          simp only [if_true, Bool.not_true, List.flatMap_cons, List.filterMap_append, ih,
            Condition.filterMap_sought, hquiet, Option.toList_none, List.nil_append]
      | false =>
          simp only [Bool.false_eq_true, if_false, Bool.not_false, List.flatMap_cons,
            List.flatMap_nil, List.append_nil, Option.bind_some, Condition.filterMap_sought]

theorem filterMap_sought (r : Rule) (e : Event) (files : FileSystem) :
    (r.sought e files).filterMap Search.warning? = (r.warning? e files).toList := by
  unfold sought warning?
  split_ifs
  · exact filterMap_flatMap_tried r.conditions
  · rfl

theorem warning?_eq_some_iff {w : Warning} :
    r.warning? e files = some w ↔
      ∃ c err, r.Reaches e files c ∧ ¬ c.Met e files ∧ c.operator = .regexMatch ∧
        Search.ofPattern c.pattern = .error err ∧ w = .ignored (.invalidPattern c.pattern err) := by
  have hfirst : ∀ c, (r.conditions.find? fun c => !c.isMet e files) = some c ↔
      ¬ c.Met e files ∧ ∃ before after, r.conditions = before ++ c :: after ∧
          ∀ b ∈ before, b.Met e files := by
    intro c
    simp [List.find?_eq_some_iff_append, Condition.isMet_eq_false_iff, Condition.isMet_eq_true_iff]
  unfold warning?
  split_ifs with hadmits
  · simp only [Option.bind_eq_some_iff, hfirst, Condition.warning?_eq_some_iff]
    constructor
    · rintro ⟨c, ⟨hunmet, hsettled⟩, hvalue, hsearch, err, herror, rfl⟩
      exact ⟨c, err, ⟨hadmits, hvalue, hsettled⟩, hunmet, hsearch, herror, rfl⟩
    · rintro ⟨c, err, hreaches, hunmet, hsearch, herror, rfl⟩
      exact ⟨c, ⟨hunmet, hreaches.settled⟩, hreaches.resolved, hsearch, err, herror, rfl⟩
  · simp only [false_iff]
    rintro ⟨c, err, hreaches, -⟩
    exact hadmits hreaches.admitted

theorem filterMap_flatMap_sought (rules : List Rule) (e : Event) (files : FileSystem) :
    (rules.flatMap (·.sought e files)).filterMap Search.warning? =
      rules.filterMap (·.warning? e files) := by
  induction rules with
  | nil => rfl
  | cons r rest ih =>
      rw [List.flatMap_cons, List.filterMap_append, filterMap_sought, ih, List.filterMap_cons]
      cases r.warning? e files <;> rfl

theorem sought_congr {files' : FileSystem} (h : e.transcriptText files = e.transcriptText files')
    (r : Rule) : r.sought e files = r.sought e files' := by
  simp only [sought, tried, Condition.sought, Condition.isMet, Gate.field?_congr h]

end Rule

/-! ### Evaluations -/

namespace SearchCache

variable {cache : SearchCache}

/-- A cache that holds all patterns among some texts is not changed by searches for them. -/
theorem Sound.prepare_eq_self (h : cache.Sound) {patterns : List String}
    (hheld : ∀ pattern ∈ patterns, ∀ search, Search.ofPattern pattern = .ok search →
      cache.searches.find? pattern = some search) : cache.prepare patterns = cache := by
  have hsearches : (cache.prepare patterns).searches = cache.searches := by
    apply Dictionary.ext_find?
    intro pattern
    apply Option.ext
    intro search
    rw [h.find?_prepare]
    constructor
    · rintro (hfound | ⟨hmem, hmade⟩)
      · exact hfound
      · exact hheld pattern hmem search hmade
    · exact Or.inl
  exact congrArg SearchCache.mk hsearches

theorem Sound.prepare_prepare (h : cache.Sound) (patterns : List String) :
    (cache.prepare patterns).prepare patterns = cache.prepare patterns := by
  apply (h.prepare patterns).prepare_eq_self
  intro pattern hmem search hmade
  exact h.find?_prepare.mpr (Or.inr ⟨hmem, hmade⟩)

/-- What the decision about an event leaves behind when it is made with a cache. -/
def notesOf (cache : SearchCache) (rules : List Rule) (e : Event) (files : FileSystem) : Notes :=
  ((Decision.judge rules e files).runWith cache).2

theorem Sound.runWith_judge (h : cache.Sound) (rules : List Rule) (e : Event) (files : FileSystem) :
    (Decision.judge rules e files).runWith cache =
      (.ofFiring e (rules.filter (·.isMet e files)),
        ⟨cache.prepare (rules.flatMap (·.sought e files)),
          rules.filterMap (·.warning? e files)⟩) := by
  rw [(Decision.judge_gives rules e files).runWith_eq h, Rule.filterMap_flatMap_sought]

theorem Sound.runWith_firing (h : cache.Sound) (rules : List Rule) (e : Event)
    (files : FileSystem) :
    (Rule.firing e files rules).runWith cache =
      (rules.filter (·.isMet e files),
        ⟨cache.prepare (rules.flatMap (·.sought e files)),
          rules.filterMap (·.warning? e files)⟩) := by
  rw [(Rule.firing_gives e files rules).runWith_eq h, Rule.filterMap_flatMap_sought]

theorem Reachable.notesOf_eq (h : cache.Reachable) (rules : List Rule) (e : Event)
    (files : FileSystem) :
    cache.notesOf rules e files =
      ⟨cache.prepare (rules.flatMap (·.sought e files)), rules.filterMap (·.warning? e files)⟩ :=
  congrArg Prod.snd (h.sound.runWith_judge rules e files)

/-- A second decision, from the cache that the first one leaves behind, repeats it in everything. -/
theorem Reachable.runWith_judge_again (h : cache.Reachable) (rules : List Rule) (e : Event)
    {files files' : FileSystem} (htranscript : e.transcriptText files = e.transcriptText files') :
    (Decision.judge rules e files').runWith (cache.notesOf rules e files).cache =
      (cache.decide rules e files, cache.notesOf rules e files) := by
  have hsought : rules.flatMap (·.sought e files') = rules.flatMap (·.sought e files) := by
    simp only [fun r => (Rule.sought_congr htranscript r).symm]
  have hmet : rules.filter (·.isMet e files') = rules.filter (·.isMet e files) := by
    simp only [fun r => (Rule.isMet_congr htranscript r).symm]
  have hdecide : cache.decide rules e files = .ofFiring e (rules.filter (·.isMet e files)) :=
    congrArg Prod.fst (h.sound.runWith_judge rules e files)
  -- The warnings of the second run are read off its searches, which are those of the first.
  rw [h.notesOf_eq, (h.sound.prepare _).runWith_judge, hdecide, hmet,
    ← Rule.filterMap_flatMap_sought rules e files', hsought, h.sound.prepare_prepare,
    Rule.filterMap_flatMap_sought]

/-- A decision adds to the cache the patterns of the searches that are reached, and notes one
warning for each rule that a bad pattern stops, in the order of the rules; the rules that fire are
found in the same way. Made again from the cache that it leaves behind, the decision is the same,
and so are the warnings and the cache. -/
theorem notesOf_reached_and_again (hcache : cache.Reachable) (rules : List Rule) (e : Event)
    {files files' : FileSystem} (htranscript : e.transcriptText files = e.transcriptText files') :
    ((Rule.firing e files rules).runWith cache).2 = cache.notesOf rules e files ∧
    (∀ pattern search, (cache.notesOf rules e files).cache.searches.find? pattern = some search ↔
      cache.searches.find? pattern = some search ∨
        (∃ r ∈ rules, ∃ c, r.Reaches e files c ∧ c.operator = .regexMatch ∧ c.pattern = pattern) ∧
          Search.ofPattern pattern = .ok search) ∧
    (cache.notesOf rules e files).warnings = rules.filterMap (·.warning? e files) ∧
    (∀ r w, Rule.warning? r e files = some w ↔
      ∃ c err, r.Reaches e files c ∧ ¬ c.Met e files ∧ c.operator = .regexMatch ∧
        Search.ofPattern c.pattern = .error err ∧ w = .ignored (.invalidPattern c.pattern err)) ∧
    (∀ w ∈ (cache.notesOf rules e files).warnings, w.level = "WARN" ∧
      ∃ rest, w.message = "Invalid regex pattern '" ++ rest) ∧
    (Decision.judge rules e files').runWith (cache.notesOf rules e files).cache =
      (cache.decide rules e files, cache.notesOf rules e files) := by
  have hnotes := hcache.notesOf_eq rules e files
  refine ⟨?_, ?_, ?_, fun r w => Rule.warning?_eq_some_iff, ?_,
    hcache.runWith_judge_again rules e htranscript⟩
  · rw [hcache.sound.runWith_firing, hnotes]
  · intro pattern search
    rw [hnotes, hcache.sound.find?_prepare]
    simp only [List.mem_flatMap, Rule.mem_sought_iff]
  · rw [hnotes]
  · intro w hw
    rw [hnotes] at hw
    obtain ⟨r, -, hr⟩ := List.mem_filterMap.mp hw
    obtain ⟨c, err, -, -, -, -, rfl⟩ := Rule.warning?_eq_some_iff.mp hr
    exact ⟨rfl, _, Warning.message_invalidPattern c.pattern err⟩

/-- A cache that has served a search. -/
def servedCache : SearchCache :=
  (empty.serve [.search ""]).2

theorem reachable_servedCache : servedCache.Reachable := ⟨_, rfl⟩

/-- A rule that a bad pattern stops between two searches, one that is stopped before its search, one
for another tool, and one that fires. -/
def searchingRules : List Rule :=
  [reasonRule "a" .warn
      [⟨"reason", .regexMatch, "\\b"⟩, ⟨"reason", .regexMatch, "("⟩, ⟨"reason", .regexMatch, "$"⟩],
    reasonRule "b" .block [⟨"reason", .equals, "d"⟩, ⟨"reason", .regexMatch, "["⟩],
    { reasonRule "c" .block [⟨"reason", .regexMatch, "^$"⟩] with tools? := some "Bash" },
    reasonRule "d" .warn [⟨"reason", .regexMatch, "^"⟩]]

theorem notesOf_reached_and_again_searchingRules :
    servedCache.Reachable ∧
      reasonedStop.transcriptText ⟨.directory [], []⟩ =
        reasonedStop.transcriptText ⟨.file ⟨#[]⟩, []⟩ ∧
      (servedCache.notesOf searchingRules reasonedStop ⟨.directory [], []⟩).warnings =
        [.ignored (.invalidPattern "(" .malformed)] ∧
      (servedCache.notesOf searchingRules reasonedStop
        ⟨.directory [], []⟩).cache.searches.entries.map Prod.fst =
        ["", "\\b", "^"] ∧
      (Decision.judge searchingRules reasonedStop ⟨.file ⟨#[]⟩, []⟩).runWith
          (servedCache.notesOf searchingRules reasonedStop ⟨.directory [], []⟩).cache =
        (servedCache.decide searchingRules reasonedStop ⟨.directory [], []⟩,
          servedCache.notesOf searchingRules reasonedStop ⟨.directory [], []⟩) := by
  refine ⟨reachable_servedCache, rfl, ?_, ?_, ?_⟩
  · decide +kernel
  · decide +kernel
  · exact (notesOf_reached_and_again
      reachable_servedCache searchingRules reasonedStop rfl).2.2.2.2.2

end SearchCache

end RuleGate
