import Mathlib.Data.List.Dedup
import RuleGate.Proofs.PureJudgement

/-! Sessions in which one cache serves requests of every kind, one after the other. No answer tells
what was asked before, and the cache holds what the patterns searched for so far give, whatever the
requests were. -/

namespace RuleGate

/-! ### Requests -/

/-- What can be asked of a cache: a search itself, or a judgement at one of its levels. Every
judgement sees the files as they are at its time. -/
inductive Request where
  | search (pattern : String)
  | comparison (op : Operator) (value pattern : String)
  | condition (c : Condition) (e : Event) (files : FileSystem)
  | rule (r : Rule) (e : Event) (files : FileSystem)
  | firing (rules : List Rule) (e : Event) (files : FileSystem)
  | decision (rules : List Rule) (e : Event) (files : FileSystem)

inductive Answer where
  | search (result : Except GateError Search)
  | truth (value : Bool)
  | rules (firing : List Rule)
  | decision (d : Decision)

/-- The answer that a judgement gives, the warnings on the way, and the cache that it leaves
behind. -/
def Judgement.answer {α : Type} (j : Judgement α) (wrap : α → Answer) (cache : SearchCache) :
    (Answer × List Warning) × SearchCache :=
  let (value, notes) := j.runWith cache
  ((wrap value, notes.warnings), notes.cache)

/-- A cache answers with the warnings on the way, and is left as it is afterwards. -/
def SearchCache.answer (cache : SearchCache) : Request → (Answer × List Warning) × SearchCache
  | .search pattern =>
    let (result, cache) := cache.search pattern
    ((.search (result.mapError (.invalidPattern pattern)), []), cache)
  | .comparison op value pattern => (op.test value pattern).answer .truth cache
  | .condition c e files => (c.holds e files).answer .truth cache
  | .rule r e files => (r.fires e files).answer .truth cache
  | .firing rules e files => (Rule.firing e files rules).answer .rules cache
  | .decision rules e files => (Decision.judge rules e files).answer .decision cache

/-- A cache answers requests one after the other. -/
def SearchCache.serve (cache : SearchCache) :
    List Request → List (Answer × List Warning) × SearchCache
  | [] => ([], cache)
  | request :: rest =>
    let (reply, cache) := cache.answer request
    let (replies, cache) := cache.serve rest
    (reply :: replies, cache)

def Request.sought : Request → List String
  | .search pattern => [pattern]
  | .comparison op _ pattern => op.sought pattern
  | .condition c e files => c.sought e files
  | .rule r e files => r.sought e files
  | .firing rules e files | .decision rules e files => rules.flatMap (·.sought e files)

/-- Whether a text is a pattern that can be searched for. -/
def Search.isPattern (text : String) : Bool :=
  (ofPattern text).toOption.isSome

theorem Search.isPattern_iff {text : String} :
    isPattern text = true ↔ ∃ search, ofPattern text = .ok search := by
  rw [isPattern]
  cases ofPattern text with
  | error e => simp [Except.toOption]
  | ok search => simp [Except.toOption]

/-! ### One request -/

theorem Judgement.Gives.answer_eq {α : Type} {j : Judgement α} {value : α} {sought : List String}
    (h : j.Gives value sought) (wrap : α → Answer) {cache : SearchCache} (hcache : cache.Sound) :
    j.answer wrap cache =
      ((wrap value, sought.filterMap Search.warning?), cache.prepare sought) := by
  rw [Judgement.answer, h.runWith_eq hcache]

/-- A judgement answers from every sound cache as it does from the empty one. -/
theorem Judgement.Gives.answer_eq_empty {α : Type} {j : Judgement α} {value : α}
    {sought : List String} (h : j.Gives value sought) (wrap : α → Answer) {cache : SearchCache}
    (hcache : cache.Sound) :
    j.answer wrap cache = ((j.answer wrap .empty).1, cache.prepare sought) := by
  rw [h.answer_eq wrap hcache, h.answer_eq wrap SearchCache.sound_empty]

namespace SearchCache

theorem Sound.answer_eq {cache : SearchCache} (h : cache.Sound) (request : Request) :
    cache.answer request = ((empty.answer request).1, cache.prepare request.sought) := by
  cases request with
  | search pattern =>
      have hresult := (h.search_fst pattern).trans (sound_empty.search_fst pattern).symm
      simp only [answer, hresult]
      rfl
  | comparison op value pattern => exact (op.test_gives value pattern).answer_eq_empty .truth h
  | condition c e files => exact (c.holds_gives e files).answer_eq_empty .truth h
  | rule r e files => exact (r.fires_gives e files).answer_eq_empty .truth h
  | firing rules e files => exact (Rule.firing_gives e files rules).answer_eq_empty .rules h
  | decision rules e files => exact (Decision.judge_gives rules e files).answer_eq_empty .decision h

/-! ### Sessions -/

/-- Every request of a session is answered as if it were the only one, and the cache takes up its
patterns. -/
theorem Sound.serve_eq {cache : SearchCache} (h : cache.Sound) (requests : List Request) :
    cache.serve requests =
      (requests.map fun request => (empty.answer request).1,
        cache.prepare (requests.flatMap (·.sought))) := by
  -- The cache differs from request to request; that it stays sound carries the induction.
  induction requests generalizing cache with
  | nil => rfl
  | cons request rest ih =>
      rw [serve, h.answer_eq request, List.map_cons, List.flatMap_cons, prepare_append]
      simp only [ih (h.prepare request.sought)]

theorem find?_serve_empty {requests : List Request} {pattern : String} {search : Search} :
    (empty.serve requests).2.searches.find? pattern = some search ↔
      pattern ∈ requests.flatMap (·.sought) ∧ Search.ofPattern pattern = .ok search := by
  rw [sound_empty.serve_eq, sound_empty.find?_prepare]
  simp [empty]

theorem size_serve_empty (requests : List Request) :
    (empty.serve requests).2.size =
      ((requests.flatMap (·.sought)).filter Search.isPattern).dedup.length := by
  rw [size, ← List.length_map Prod.fst]
  -- The keys of the cache and these patterns are the same texts, and on neither side one stands
  -- twice.
  refine List.Perm.length_eq ?_
  rw [List.perm_ext_iff_of_nodup (Dictionary.nodup_keys (Dictionary.ascending _))
    (List.nodup_dedup _)]
  intro pattern
  rw [List.mem_dedup, List.mem_filter, Search.isPattern_iff, ← exists_and_left]
  simp only [← find?_serve_empty, Dictionary.find?_eq_some_iff, List.mem_map, Prod.exists,
    exists_and_right, exists_eq_right]

/-- In every session that begins with the empty cache each request is answered as it is alone. The
cache then holds the patterns that were searched for and can be searched for, each with the search
that it gives; what it holds it never gives up, and its size is the number of these patterns. -/
theorem serve_empty (requests later : List Request) :
    (empty.serve requests).1 = requests.map (fun request => (empty.answer request).1) ∧
    (∀ pattern search, (empty.serve requests).2.searches.find? pattern = some search ↔
      pattern ∈ requests.flatMap (·.sought) ∧ Search.ofPattern pattern = .ok search) ∧
    (empty.serve requests).2.searches.entries ⊆
      (empty.serve (requests ++ later)).2.searches.entries ∧
    (empty.serve requests).2.size =
      ((requests.flatMap (·.sought)).filter Search.isPattern).dedup.length := by
  refine ⟨?_, fun _ _ => find?_serve_empty, ?_, size_serve_empty requests⟩
  · rw [sound_empty.serve_eq]
  · rintro ⟨pattern, search⟩ hentry
    obtain ⟨hsought, hmade⟩ := find?_serve_empty.mp (Dictionary.find?_eq_some_iff.mpr hentry)
    refine Dictionary.find?_eq_some_iff.mp (find?_serve_empty.mpr ⟨?_, hmade⟩)
    rw [List.flatMap_append]
    exact List.mem_append_left _ hsought

end SearchCache

end RuleGate
