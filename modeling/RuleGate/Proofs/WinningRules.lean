import RuleGate.Proofs.SearchSession
import RuleGate.Proofs.ToolHooks

/-! What a decision depends on. Of the rules that fire only those of the winning action count, and
of them only what is shown; rules that lose, the order of conditions and the searches that a cache
holds leave no trace. -/

namespace RuleGate

/-! ### Decisions from a cache -/

namespace SearchCache

/-- Caches as sessions leave them behind. -/
def Reachable (cache : SearchCache) : Prop :=
  ∃ requests, cache = (empty.serve requests).2

theorem Reachable.sound {cache : SearchCache} (h : cache.Reachable) : cache.Sound := by
  obtain ⟨requests, rfl⟩ := h
  rw [sound_empty.serve_eq]
  exact sound_empty.prepare _

/-- The decision about an event that is made with a cache. -/
def decide (cache : SearchCache) (rules : List Rule) (e : Event) (files : FileSystem) : Decision :=
  ((Decision.judge rules e files).runWith cache).1

/-- The rules that fire for an event when they are judged with a cache. -/
def firing (cache : SearchCache) (rules : List Rule) (e : Event) (files : FileSystem) : List Rule :=
  ((Rule.firing e files rules).runWith cache).1

end SearchCache

/-- Whether a rule fires for an event when nothing was judged before it. -/
def Rule.firesAlone (r : Rule) (e : Event) (files : FileSystem) : Bool :=
  ((r.fires e files).runWith SearchCache.empty).1

theorem Judgement.Gives.runWith_fst {α : Type} {j : Judgement α} {value : α} {sought : List String}
    (h : j.Gives value sought) {cache : SearchCache} (hcache : cache.Sound) :
    (j.runWith cache).1 = value := by
  rw [h.runWith_eq hcache]

theorem Rule.firesAlone_eq_isMet (r : Rule) (e : Event) (files : FileSystem) :
    r.firesAlone e files = r.isMet e files :=
  (r.fires_gives e files).runWith_fst SearchCache.sound_empty

namespace SearchCache

variable {cache : SearchCache}

theorem Reachable.firing_eq (h : cache.Reachable) (rules : List Rule) (e : Event)
    (files : FileSystem) : cache.firing rules e files = rules.filter (·.firesAlone e files) := by
  simp only [Rule.firesAlone_eq_isMet]
  exact (Rule.firing_gives e files rules).runWith_fst h.sound

theorem Reachable.firing_eq_filter_isMet (h : cache.Reachable) (rules : List Rule) (e : Event)
    (files : FileSystem) : cache.firing rules e files = rules.filter (·.isMet e files) := by
  rw [h.firing_eq]
  simp only [Rule.firesAlone_eq_isMet]

theorem Reachable.decide_eq (h : cache.Reachable) (rules : List Rule) (e : Event)
    (files : FileSystem) :
    cache.decide rules e files = .ofFiring e (cache.firing rules e files) := by
  rw [h.firing_eq_filter_isMet]
  exact (Decision.judge_gives rules e files).runWith_fst h.sound

end SearchCache

/-! ### What is shown of the rules -/

/-- The names and messages of the rules with an action, in their order. -/
def Rule.shown (action : Action) (rules : List Rule) : List (String × String) :=
  (rules.filter (·.action == action)).map fun r => (r.name, r.message)

namespace Decision

/-- Of two lists of rules that fire the same rules win, as far as they are shown. -/
def SameWinners (firing firing' : List Rule) : Prop :=
  (Rule.shown .block firing ≠ [] ∧ Rule.shown .block firing = Rule.shown .block firing') ∨
    (Rule.shown .block firing = [] ∧ Rule.shown .block firing' = [] ∧
      Rule.shown .warn firing = Rule.shown .warn firing')

/-- Names and messages, one rule after the other with blank lines between them. -/
def headings (shown : List (String × String)) : String :=
  "\n\n".intercalate (shown.map fun s => "**[" ++ s.1 ++ "]**\n" ++ s.2)

theorem render_eq_headings (action : Action) (rules : List Rule) :
    Rule.render (rules.filter (·.action == action)) = headings (Rule.shown action rules) := by
  rw [Rule.render, headings, Rule.shown, List.map_map]
  rfl

theorem ofFiring_eq_ite (e : Event) (firing : List Rule) :
    ofFiring e firing =
      if Rule.shown .block firing ≠ [] then blocking e (headings (Rule.shown .block firing))
      else if Rule.shown .warn firing ≠ [] then inform (headings (Rule.shown .warn firing))
      else allow := by
  have hshown : ∀ action, Rule.shown action firing = [] ↔ firing.filter (·.action == action) = [] :=
    fun action => List.map_eq_nil_iff
  simp only [ofFiring, render_eq_headings, ne_eq, hshown, Bool.not_eq_true',
    List.isEmpty_eq_false_iff]

theorem SameWinners.ofFiring_eq {firing firing' : List Rule} (h : SameWinners firing firing')
    (e : Event) : ofFiring e firing = ofFiring e firing' := by
  rw [ofFiring_eq_ite, ofFiring_eq_ite]
  rcases h with ⟨hsome, hblock⟩ | ⟨hnone, hnone', hwarn⟩
  · rw [← hblock, if_pos hsome, if_pos hsome]
  · rw [hnone, hnone', hwarn]

theorem SameWinners.of_shown_eq {firing firing' : List Rule}
    (h : ∀ action, Rule.shown action firing = Rule.shown action firing') :
    SameWinners firing firing' := by
  by_cases hblock : Rule.shown .block firing = []
  · exact Or.inr ⟨hblock, h .block ▸ hblock, h .warn⟩
  · exact Or.inl ⟨hblock, h .block⟩

theorem deciding_eq_nil_iff {firing : List Rule} : deciding firing = [] ↔ firing = [] := by
  constructor
  · intro h
    rw [List.eq_nil_iff_forall_not_mem]
    intro r hr
    rw [deciding] at h
    split_ifs at h with hblockers
    · have hwarn : (r.action == .warn) = true := by
        cases haction : r.action with
        | warn => rfl
        | block =>
            have hmem : r ∈ firing.filter (·.action == .block) :=
              List.mem_filter.mpr ⟨hr, by simp [haction]⟩
            rw [List.isEmpty_iff.mp hblockers] at hmem
            exact absurd hmem List.not_mem_nil
      exact absurd (h ▸ List.mem_filter.mpr ⟨hr, hwarn⟩) List.not_mem_nil
    · exact hblockers (List.isEmpty_iff.mpr h)
  · rintro rfl
    rfl

theorem ofFiring_eq_allow_iff {e : Event} {firing : List Rule} :
    ofFiring e firing = allow ↔ firing = [] := by
  constructor
  · intro h
    have hmessage := message?_ofFiring e firing
    rw [h] at hmessage
    by_contra hne
    rw [if_neg (by simpa [deciding_eq_nil_iff] using hne)] at hmessage
    exact absurd hmessage (by simp [allow])
  · rintro rfl
    rfl

end Decision

/-! ### Conditions -/

namespace Rule

/-- A rule with its conditions in another order or number, but no others. -/
def SameButOrder (r r' : Rule) : Prop :=
  r' = { r with conditions := r'.conditions } ∧ ∀ c, c ∈ r.conditions ↔ c ∈ r'.conditions

theorem SameButOrder.isMet_eq {r r' : Rule} (h : r.SameButOrder r') (e : Event)
    (files : FileSystem) : r.isMet e files = r'.isMet e files := by
  obtain ⟨heq, hmem⟩ := h
  have hadmits : r'.admits = r.admits := by rw [heq]; rfl
  have hempty : r.conditions.isEmpty = r'.conditions.isEmpty := by
    rw [Bool.eq_iff_iff, List.isEmpty_iff, List.isEmpty_iff, List.eq_nil_iff_forall_not_mem,
      List.eq_nil_iff_forall_not_mem]
    simp only [hmem]
  have hall : r.conditions.all (·.isMet e files) = r'.conditions.all (·.isMet e files) := by
    rw [Bool.eq_iff_iff, List.all_eq_true, List.all_eq_true]
    simp only [hmem]
  rw [isMet, isMet, hadmits, hempty, hall]

theorem shown_cons (action : Action) (r : Rule) (rules : List Rule) :
    shown action (r :: rules) =
      if r.action == action then
        (r.name, r.message) :: shown action rules else shown action rules := by
  rw [shown, List.filter_cons]
  split_ifs <;> rfl

/-- Rules that differ in the order of conditions only fire alike. -/
theorem shown_filter_isMet_of_forall₂ {rules rules' : List Rule}
    (h : List.Forall₂ SameButOrder rules rules') (e : Event) (files : FileSystem)
    (action : Action) :
    shown action (rules.filter (·.isMet e files)) =
      shown action (rules'.filter (·.isMet e files)) := by
  induction h with
  | nil => rfl
  | @cons r r' rules rules' hr _ ih =>
      have haction : r'.action = r.action := by rw [hr.1]
      have hname : r'.name = r.name := by rw [hr.1]
      have hmessage : r'.message = r.message := by rw [hr.1]
      rw [List.filter_cons, List.filter_cons, ← hr.isMet_eq]
      split_ifs with hmet
      · rw [shown_cons, shown_cons, haction, hname, hmessage, ih]
      · exact ih

theorem isMet_congr {e : Event} {files files' : FileSystem}
    (h : e.transcriptText files = e.transcriptText files') (r : Rule) :
    r.isMet e files = r.isMet e files' := by
  simp only [isMet, Condition.isMet, Gate.field?_congr h]

end Rule

/-! ### The winning rules -/

namespace SearchCache

/-- A decision follows from what is shown of the winning rules, whatever the caches held before.
Once a rule blocks, rules that warn have no say, and rules do not tell in which order or how often
they state their conditions. Nothing is decided if no rule fires; otherwise the winning rules are
shown in their order. -/
theorem decide_eq_of_sameWinners {cache cache' : SearchCache} (hcache : cache.Reachable)
    (hcache' : cache'.Reachable) (e : Event) {files files' : FileSystem}
    (htranscript : e.transcriptText files = e.transcriptText files') (rules rules' : List Rule) :
    (Decision.SameWinners (cache.firing rules e files) (cache'.firing rules' e files') →
      cache.decide rules e files = cache'.decide rules' e files') ∧
    ((∃ r ∈ cache.firing rules e files, r.action = .block) →
      rules.filter (·.action == .block) = rules'.filter (·.action == .block) →
      cache.decide rules e files = cache'.decide rules' e files') ∧
    (List.Forall₂ Rule.SameButOrder rules rules' →
      cache.decide rules e files = cache'.decide rules' e files') ∧
    cache.firing rules e files = rules.filter (·.firesAlone e files) ∧
    (cache.decide rules e files = .allow ↔ cache.firing rules e files = []) ∧
    (cache.firing rules e files ≠ [] →
      (cache.decide rules e files).message? =
        some ("\n\n".intercalate ((Decision.deciding (cache.firing rules e files)).map
          fun r => "**[" ++ r.name ++ "]**\n" ++ r.message))) := by
  have hwinners : Decision.SameWinners (cache.firing rules e files)
      (cache'.firing rules' e files') →
      cache.decide rules e files = cache'.decide rules' e files' := by
    intro h
    rw [hcache.decide_eq, hcache'.decide_eq, h.ofFiring_eq]
  have hfiring := hcache.firing_eq_filter_isMet rules e files
  have hfiring' := hcache'.firing_eq_filter_isMet rules' e files'
  have hmet : ∀ r : Rule, r.isMet e files' = r.isMet e files :=
    fun r => (Rule.isMet_congr htranscript r).symm
  simp only [hmet] at hfiring'
  refine ⟨hwinners, ?_, ?_, hcache.firing_eq rules e files, ?_, ?_⟩
  · rintro ⟨r, hr, haction⟩ hblockers
    refine hwinners (Or.inl ⟨?_, ?_⟩)
    · have hmem : r ∈ (cache.firing rules e files).filter (·.action == .block) :=
        List.mem_filter.mpr ⟨hr, by simp [haction]⟩
      exact List.ne_nil_of_mem (List.mem_map_of_mem hmem)
    · rw [hfiring, hfiring', Rule.shown, Rule.shown, List.filter_comm, hblockers, List.filter_comm]
  · intro horder
    refine hwinners (.of_shown_eq fun action => ?_)
    rw [hfiring, hfiring']
    exact Rule.shown_filter_isMet_of_forall₂ horder e files action
  · rw [hcache.decide_eq]
    exact Decision.ofFiring_eq_allow_iff
  · intro hsome
    rw [hcache.decide_eq, Decision.message?_ofFiring,
      if_neg (by simpa [Decision.deciding_eq_nil_iff] using hsome)]
    rfl

def reasonedStop : Event :=
  { Event.ofHookName "Stop" with reason? := some "done" }

def reasonRule (name : String) (action : Action) (conditions : List Condition) : Rule where
  name := name
  enabled := true
  event := .stop
  ownPattern? := none
  conditions := conditions
  action := action
  tools? := none
  message := "Go on."
  source? := none

theorem isMet_reasonRule {conditions : List Condition} (hne : conditions ≠ [])
    (hfield : ∀ c ∈ conditions, c.field = "reason") (name : String) (action : Action)
    (files : FileSystem) :
    (reasonRule name action conditions).isMet reasonedStop files =
      Decidable.decide (∀ c ∈ conditions, c.operator.Holds "done" c.pattern) := by
  rw [Bool.eq_iff_iff, Rule.isMet_iff, decide_eq_true_iff]
  constructor
  · rintro ⟨-, -, hmet⟩ c hc
    obtain ⟨value, hvalue, hholds⟩ := hmet c hc
    rw [hfield c hc] at hvalue
    rwa [← Option.some.inj hvalue] at hholds
  · intro hholds
    refine ⟨rfl, hne, fun c hc => ⟨"done", ?_, hholds c hc⟩⟩
    rw [hfield c hc]
    rfl

/-- A rule that warns before one that blocks. -/
def warnedRules : List Rule :=
  [reasonRule "a" .warn [⟨"reason", .contains, "o"⟩],
    reasonRule "b" .block [⟨"reason", .contains, "d"⟩, ⟨"reason", .contains, "n"⟩]]

/-- The rule that blocks in other words, and others behind it. -/
def rewordedRules : List Rule :=
  [reasonRule "b" .block [⟨"reason", .startsWith, "d"⟩],
    reasonRule "c" .block [⟨"reason", .equals, "d"⟩],
    reasonRule "d" .warn [⟨"reason", .endsWith, "e"⟩]]

theorem decide_eq_of_sameWinners_warnedRules :
    (empty.serve [.search "d"]).2.Reachable ∧ empty.Reachable ∧
      reasonedStop.transcriptText ⟨.directory [], []⟩ =
        reasonedStop.transcriptText ⟨.file ⟨#[]⟩, []⟩ ∧
      Decision.SameWinners
        ((empty.serve [.search "d"]).2.firing warnedRules reasonedStop ⟨.directory [], []⟩)
        (empty.firing rewordedRules reasonedStop ⟨.file ⟨#[]⟩, []⟩) ∧
      (empty.serve [.search "d"]).2.decide warnedRules reasonedStop ⟨.directory [], []⟩ =
        empty.decide rewordedRules reasonedStop ⟨.file ⟨#[]⟩, []⟩ ∧
      empty.decide rewordedRules reasonedStop ⟨.file ⟨#[]⟩, []⟩ = .blockStop "**[b]**\nGo on." := by
  have hcache : (empty.serve [.search "d"]).2.Reachable := ⟨_, rfl⟩
  have hempty : empty.Reachable := ⟨[], rfl⟩
  have hwarned : warnedRules.filter (·.isMet reasonedStop ⟨.directory [], []⟩) = warnedRules := by
    simp (disch := decide) only [warnedRules, List.filter_cons, List.filter_nil, isMet_reasonRule]
    decide
  have hreworded : rewordedRules.filter (·.isMet reasonedStop ⟨.file ⟨#[]⟩, []⟩) =
      [reasonRule "b" .block [⟨"reason", .startsWith, "d"⟩],
        reasonRule "d" .warn [⟨"reason", .endsWith, "e"⟩]] := by
    simp (disch := decide) only [rewordedRules, List.filter_cons, List.filter_nil, isMet_reasonRule]
    decide
  have hwinners : Decision.SameWinners
      ((empty.serve [.search "d"]).2.firing warnedRules reasonedStop ⟨.directory [], []⟩)
      (empty.firing rewordedRules reasonedStop ⟨.file ⟨#[]⟩, []⟩) := by
    rw [hcache.firing_eq_filter_isMet, hempty.firing_eq_filter_isMet, hwarned, hreworded]
    exact Or.inl ⟨by decide, by decide⟩
  refine ⟨hcache, hempty, rfl, hwinners, ?_, ?_⟩
  · exact (decide_eq_of_sameWinners hcache hempty reasonedStop rfl warnedRules
      rewordedRules).1 hwinners
  · rw [hempty.decide_eq, hempty.firing_eq_filter_isMet, hreworded]
    decide

end SearchCache

end RuleGate
