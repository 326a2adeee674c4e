import Mathlib.Data.List.Induction
import Mathlib.Data.List.Nodup
import RuleGate.Event.Basic
import RuleGate.Proofs.RecordOutcomes

/-! Events by their members. What an event is read as rests on what stands under each of its six
names, where null stands under a name that is missing. So neither the order of the members counts,
nor which of them are null, nor what stands under other names. -/

namespace RuleGate.Event

open Json Reader

/-! ### The members of an event -/

/-- The names under which an event holds something. -/
def memberNames : List String :=
  ["hook_event_name", "tool_name", "tool_input", "reason", "transcript_path", "user_prompt"]

/-- No name of an event comes twice. -/
def NamesOnce (ms : List (String × Tree)) : Prop :=
  ((ms.map Prod.fst).filter (· ∈ memberNames)).Nodup

/-- What stands under a name; null if nothing does. -/
def under (ms : List (String × Tree)) (name : String) : Tree :=
  (ms.lookup name).getD .null

/-- Members that count: those under a name of an event that are not null. -/
def counts (m : String × Tree) : Bool :=
  m.1 ∈ memberNames && !m.2.isNull

/-- The event that members make. -/
def ofMembers? (ms : List (String × Tree)) : Option Event := do
  let hookName? ← orNull text? (under ms "hook_event_name")
  let toolName? ← orNull text? (under ms "tool_name")
  let toolInput? ← orNull (map? (maxDepth - 2)) (under ms "tool_input")
  let reason? ← orNull text? (under ms "reason")
  let transcriptPath? ← orNull text? (under ms "transcript_path")
  let userPrompt? ← orNull text? (under ms "user_prompt")
  return ⟨hookName?.getD "", toolName?, toolInput?.getD Dictionary.empty, reason?, transcriptPath?,
    userPrompt?⟩

/-- The event with what one more member holds. -/
def withMember? : String → Event → Tree → Option Event
  | "hook_event_name", e, t =>
    (orNull text? t).map fun value => { e with hookName := value.getD "" }
  | "tool_name", e, t => (orNull text? t).map fun value => { e with toolName? := value }
  | "tool_input", e, t =>
    (orNull (map? (maxDepth - 2)) t).map fun value =>
      { e with toolInput := value.getD Dictionary.empty }
  | "reason", e, t => (orNull text? t).map fun value => { e with reason? := value }
  | "transcript_path", e, t => (orNull text? t).map fun value => { e with transcriptPath? := value }
  | "user_prompt", e, t => (orNull text? t).map fun value => { e with userPrompt? := value }
  | _, e, _ => some e

theorem NamesOnce.of_append {ms others : List (String × Tree)}
    (h : NamesOnce (ms ++ others)) : NamesOnce ms := by
  rw [NamesOnce, List.map_append, List.filter_append] at h
  exact h.of_append_left

theorem NamesOnce.not_mem_before {before after : List (String × Tree)} {name : String} {t : Tree}
    (h : NamesOnce (before ++ (name, t) :: after)) (hname : name ∈ memberNames) :
    name ∉ before.map Prod.fst := by
  intro hmem
  rw [NamesOnce, List.map_append, List.filter_append, List.nodup_append] at h
  have hbefore : name ∈ (before.map Prod.fst).filter (· ∈ memberNames) :=
    List.mem_filter.mpr ⟨hmem, by simpa using hname⟩
  have hhere : name ∈ (((name, t) :: after).map Prod.fst).filter (· ∈ memberNames) :=
    List.mem_filter.mpr ⟨List.mem_cons_self, by simpa using hname⟩
  exact h.2.2 name hbefore name hhere rfl

section Under

variable {ms : List (String × Tree)} {key name : String} {t : Tree}

theorem lookup_eq_none_of_not_mem (h : key ∉ ms.map Prod.fst) : ms.lookup key = none := by
  rw [List.lookup_eq_none_iff]
  intro m hm
  rw [bne_iff_ne]
  rintro rfl
  exact h (List.mem_map.mpr ⟨m, hm, rfl⟩)

theorem under_of_not_mem (h : key ∉ ms.map Prod.fst) : under ms key = .null := by
  rw [under, lookup_eq_none_of_not_mem h, Option.getD_none]

theorem under_concat_self (h : key ∉ ms.map Prod.fst) : under (ms ++ [(key, t)]) key = t := by
  rw [under, List.lookup_append, lookup_eq_none_of_not_mem h, Option.none_or, List.lookup_cons_self,
    Option.getD_some]

theorem under_concat_of_ne (h : name ≠ key) : under (ms ++ [(key, t)]) name = under ms name := by
  rw [under, List.lookup_append, List.lookup_cons, beq_false_of_ne h, List.lookup_nil,
    Option.or_none, under]

/-- What stands under a name is a member, unless it is null. -/
theorem mem_of_under_ne_null (h : under ms name ≠ .null) : (name, under ms name) ∈ ms := by
  cases hlookup : ms.lookup name with
  | none =>
      rw [under, hlookup] at h
      exact absurd rfl h
  | some t =>
      obtain ⟨before, after, hms, _⟩ := List.lookup_eq_some_iff.mp hlookup
      rw [under, hlookup, Option.getD_some, hms]
      exact List.mem_append_right before List.mem_cons_self

theorem under_of_mem (honce : NamesOnce ms) (hname : name ∈ memberNames) (h : (name, t) ∈ ms) :
    under ms name = t := by
  obtain ⟨before, after, rfl⟩ := List.append_of_mem h
  have hbefore := lookup_eq_none_of_not_mem (honce.not_mem_before hname)
  rw [under, List.lookup_append, hbefore, Option.none_or, List.lookup_cons_self, Option.getD_some]

/-- A member that counts stands under its name in every list that has it. -/
theorem under_eq_of_counts {others : List (String × Tree)} (honce : NamesOnce others)
    (hmem : ∀ m ∈ ms, counts m = true → m ∈ others) (hname : name ∈ memberNames)
    (hne : under ms name ≠ .null) : under others name = under ms name := by
  refine under_of_mem honce hname (hmem _ (mem_of_under_ne_null hne) ?_)
  have hnull : (under ms name).isNull = false := by
    rw [← Bool.not_eq_true, Tree.isNull_iff]
    exact hne
  simp [counts, hname, hnull]

theorem under_eq_of_perm {others : List (String × Tree)} (honce : NamesOnce ms)
    (honce' : NamesOnce others) (hperm : (ms.filter counts).Perm (others.filter counts))
    (hname : name ∈ memberNames) : under ms name = under others name := by
  have hmem : ∀ m ∈ ms, counts m = true → m ∈ others := fun m hm hcounts =>
    List.mem_of_mem_filter (hperm.mem_iff.mp (List.mem_filter.mpr ⟨hm, hcounts⟩))
  have hmem' : ∀ m ∈ others, counts m = true → m ∈ ms := fun m hm hcounts =>
    List.mem_of_mem_filter (hperm.mem_iff.mpr (List.mem_filter.mpr ⟨hm, hcounts⟩))
  by_cases hne : under ms name = .null
  · by_cases hne' : under others name = .null
    · rw [hne, hne']
    · exact under_eq_of_counts honce hmem' hname hne'
  · exact (under_eq_of_counts honce' hmem hname hne).symm

end Under

theorem withMember?_of_not_mem {key : String} (h : key ∉ memberNames) (e : Event) (t : Tree) :
    withMember? key e t = some e := by
  simp only [memberNames, List.mem_cons, List.not_mem_nil, or_false, not_or] at h
  obtain ⟨hhook, htool, hinput, hreason, htranscript, hprompt⟩ := h
  rw [withMember?] <;> assumption

/-- Only what stands under the names of an event counts. -/
theorem ofMembers?_congr {ms others : List (String × Tree)}
    (h : ∀ name ∈ memberNames, under ms name = under others name) :
    ofMembers? ms = ofMembers? others := by
  simp only [memberNames, List.forall_mem_cons] at h
  obtain ⟨hhook, htool, hinput, hreason, htranscript, hprompt, _⟩ := h
  rw [ofMembers?, hhook, htool, hinput, hreason, htranscript, hprompt, ofMembers?]

theorem ofMembers?_concat {ms : List (String × Tree)} {key : String} {t : Tree}
    (hkey : key ∈ memberNames → key ∉ ms.map Prod.fst) :
    ofMembers? (ms ++ [(key, t)]) = (ofMembers? ms).bind fun e => withMember? key e t := by
  by_cases hname : key ∈ memberNames
  · have hself := under_concat_self (t := t) (hkey hname)
    have hnull := under_of_not_mem (hkey hname)
    have horNull : ∀ {α : Type} (take : Tree → Option α), orNull take .null = some none :=
      fun _ => rfl
    simp only [memberNames, List.mem_cons, List.not_mem_nil, or_false] at hname
    -- The members are looked up in the order of the fields, and this one comes last: it is settled
    -- first.
    rcases hname with rfl | rfl | rfl | rfl | rfl | rfl
    all_goals
      simp only [ofMembers?, hself, hnull, horNull, under_concat_of_ne, withMember?, ne_eq,
        String.reduceEq, not_false_eq_true, Option.bind_eq_bind, Option.bind_some,
        Option.bind_assoc, Option.pure_def]
    case inr.inr.inl =>
      cases orNull (map? (maxDepth - 2)) t <;>
        simp only [Option.bind_none, Option.bind_some, Option.map_none, Option.map_some,
          Option.bind_fun_none]
    all_goals
      cases orNull text? t <;>
        simp only [Option.bind_none, Option.bind_some, Option.map_none, Option.map_some,
          Option.bind_fun_none]
  · have hmembers : ofMembers? (ms ++ [(key, t)]) = ofMembers? ms :=
      ofMembers?_congr fun name hmem => under_concat_of_ne fun heq => hname (heq ▸ hmem)
    simp only [hmembers, withMember?_of_not_mem hname]
    cases ofMembers? ms <;> rfl

/-- Members that are taken one after the other make the event that they make together. -/
theorem foldlM_withMember? {ms : List (String × Tree)} (h : NamesOnce ms) :
    ms.foldlM (fun e m => withMember? m.1 e m.2) (ofHookName "") = ofMembers? ms := by
  induction ms using List.reverseRecOn with
  | nil => rfl
  | append_singleton ms m ih =>
      obtain ⟨key, t⟩ := m
      rw [List.foldlM_append, ih h.of_append, ofMembers?_concat h.not_mem_before]
      simp only [List.foldlM_cons, List.foldlM_nil, bind_pure, Option.bind_eq_bind]

/-! ### Reading -/

theorem takes_field : ∀ f ∈ shape.fields, ∀ e, (f.read e).Takes (withMember? f.name e) := by
  have htext : ∀ name expected (set : Event → Option String → Event) e,
      ((textField name expected set).read e).Takes fun t => (orNull text? t).map (set e) :=
    takes_textField
  simp only [shape, List.forall_mem_cons]
  refine ⟨htext _ _ _, htext _ _ _, fun e => ?_, htext _ _ _, htext _ _ _, htext _ _ _,
    List.forall_mem_nil _⟩
  exact (takes_optional (takes_map (maxDepth - 2))).map _

/-- The event of a text rests on what stands under its names. -/
theorem toOption_ofText? {t : String} {ms : List (String × Tree)} (h : IsObjectText t.toList ms)
    (honce : NamesOnce ms) : (ofText? t).toOption = ofMembers? ms := by
  obtain ⟨s, rest, hspace, hstated, hend⟩ := h
  have hother : ∀ key ∉ fieldNames shape, ∀ e t, withMember? key e t = some e :=
    fun key hkey e t => withMember?_of_not_mem hkey e t
  have hrecord := goes_record takes_field (by simp [shape, textField, inputField]) hspace hstated
  rw [afterMembers_takeMember hother honce (by simp)] at hrecord
  rw [← foldlM_withMember? honce]
  exact hrecord.toOption_whole? hend

/-- Two texts with the same members, up to their order, are both read as the event that the members
make, or both are refused if the members make none. Members that are null and members under other
names do not count. -/
theorem ofText?_of_perm {t t' : String} {ms ms' : List (String × Tree)}
    (h : IsObjectText t.toList ms) (h' : IsObjectText t'.toList ms') (honce : NamesOnce ms)
    (honce' : NamesOnce ms') (hperm : (ms.filter counts).Perm (ms'.filter counts)) :
    (∃ e, ofMembers? ms = some e ∧ ofText? t = .ok e ∧ ofText? t' = .ok e) ∨
      ofMembers? ms = none ∧ ∃ e e', ofText? t = .error e ∧ ofText? t' = .error e' := by
  have hsame : ofMembers? ms' = ofMembers? ms :=
    ofMembers?_congr fun name hname => (under_eq_of_perm honce honce' hperm hname).symm
  have hmake := toOption_ofText? h honce
  have hmake' := toOption_ofText? h' honce'
  rw [hsame] at hmake'
  cases hread : ofText? t <;> cases hread' : ofText? t' <;> rw [hread] at hmake <;>
    rw [hread'] at hmake'
  · exact Or.inr ⟨hmake.symm, _, _, rfl, rfl⟩
  · exact absurd (hmake.trans hmake'.symm) (by simp [Except.toOption])
  · exact absurd (hmake.trans hmake'.symm) (by simp [Except.toOption])
  · exact Or.inl ⟨_, hmake.symm, rfl, by rw [Option.some.inj (hmake'.trans hmake.symm)]⟩

/-- Two members, and nothing else. -/
def bareText : String :=
  "\x7b\"reason\":\"a\",\"tool_name\":\"b\"\x7d"

def bareMembers : List (String × Tree) :=
  [("reason", .string (some "a")), ("tool_name", .string (some "b"))]

theorem isObjectText_bareText : IsObjectText bareText.toList bareMembers := by
  simp only [bareText, String.reduceToList]
  refine ⟨_, [], .refl _, .object ?_, .refl _⟩
  refine .member (.first (.refl _)) ((Spells.close _).plainly ['r', 'e', 'a', 's', 'o', 'n'] ?_)
    (.refl _) (.refl _) (.string ((Spells.close _).plainly ['a'] ?_)) ?_
  · simp
  · simp
  refine .member (.next (.refl _))
    ((Spells.close _).plainly ['t', 'o', 'o', 'l', '_', 'n', 'a', 'm', 'e'] ?_)
    (.refl _) (.refl _) (.string ((Spells.close _).plainly ['b'] ?_)) (.endOfMembers _ (.refl _))
  · simp
  · simp

/-- The same members the other way round, one name with an escape, and among them one that is null
and one under another name. -/
def laidOutText : String :=
  " \x7b\"tool_name\":\"b\", \"x\":[1e999,\x7b\"\\ud800\":-0\x7d]," ++
    "\"user_prompt\":null,\"\\u0072eason\" :\"a\"\x7d\n"

/-- A number out of range, and a key that cannot be decoded. -/
def oddTree : Tree :=
  .array [.number false ['1', 'e', '9', '9', '9'], .object [(none, .number true ['0'])]]

def laidOutMembers : List (String × Tree) :=
  [("tool_name", .string (some "b")), ("x", oddTree), ("user_prompt", .null),
    ("reason", .string (some "a"))]

theorem isText_oddTree (rest : List Char) :
    Says ("[1e999,\x7b\"\\ud800\":-0\x7d]".toList ++ rest) (.value oddTree) rest := by
  have hlarge : IsUnsigned ['1', 'e', '9', '9', '9'] :=
    @IsUnsigned.mk ['1'] [] ['e', '9', '9', '9'] (.digits ⟨by simp, by simp⟩ (by decide)) .absent
      (@IsExponent.present 'e' [] ['9', '9', '9'] (Or.inl rfl) (Or.inl rfl) ⟨by simp, by simp⟩)
  have hzero : IsUnsigned ['0'] := .mk .zero .absent .absent
  have hlone : IsHex ['d', '8', '0', '0'] 0xD800 := ⟨rfl, rfl⟩
  simp only [String.reduceToList, List.cons_append, List.nil_append]
  refine .array (.item (.first (.refl _)) (.natural hlarge _) ?_)
  refine .item (.next (.refl _)) (.object ?_) (.endOfItems _ (.refl _))
  refine .member (.first (.refl _)) (.lone hlone (Or.inr ⟨rfl, ?_⟩) (.close _)) (.refl _) (.refl _)
    (.negative hzero _) (.endOfMembers _ (.refl _))
  simp

theorem isObjectText_laidOutText : IsObjectText laidOutText.toList laidOutMembers := by
  have hr : IsHex ['0', '0', '7', '2'] 0x72 := ⟨rfl, rfl⟩
  have htext : laidOutText.toList = _ := String.toList_append
  rw [htext]
  simp only [String.reduceToList, List.cons_append, List.nil_append]
  refine ⟨_, ['\n'], .cons (by decide) (.refl _), .object ?_, .cons (by decide) (.refl _)⟩
  refine .member (.first (.refl _))
    ((Spells.close _).plainly ['t', 'o', 'o', 'l', '_', 'n', 'a', 'm', 'e'] ?_)
    (.refl _) (.refl _) (.string ((Spells.close _).plainly ['b'] ?_)) ?_
  · simp
  · simp
  refine .member (.next (.cons (by decide) (.refl _))) ((Spells.close _).plainly ['x'] (by simp))
    (.refl _) (.refl _) (isText_oddTree _) ?_
  refine .member (.next (.refl _))
    ((Spells.close _).plainly ['u', 's', 'e', 'r', '_', 'p', 'r', 'o', 'm', 'p', 't'] ?_)
    (.refl _) (.refl _) (.null _) ?_
  · simp
  refine .member (.next (.refl _))
    (.unit hr rfl rfl ((Spells.close _).plainly ['e', 'a', 's', 'o', 'n'] ?_))
    (.cons (by decide) (.refl _)) (.refl _) (.string ((Spells.close _).plainly ['a'] ?_))
      (.endOfMembers _ (.refl _))
  · simp
  · simp

theorem ofText?_of_perm_laidOutText :
    IsObjectText bareText.toList bareMembers ∧ IsObjectText laidOutText.toList laidOutMembers ∧
      NamesOnce bareMembers ∧ NamesOnce laidOutMembers ∧
      (bareMembers.filter counts).Perm (laidOutMembers.filter counts) ∧
      ofText? bareText = .ok ⟨"", some "b", Dictionary.empty, some "a", none, none⟩ ∧
      ofText? laidOutText = .ok ⟨"", some "b", Dictionary.empty, some "a", none, none⟩ := by
  have honce : NamesOnce bareMembers := by
    rw [NamesOnce]
    decide
  have honce' : NamesOnce laidOutMembers := by
    rw [NamesOnce]
    decide
  have hperm : (bareMembers.filter counts).Perm (laidOutMembers.filter counts) := .swap _ _ _
  have hmake : ofMembers? bareMembers =
      some ⟨"", some "b", Dictionary.empty, some "a", none, none⟩ := rfl
  refine ⟨isObjectText_bareText, isObjectText_laidOutText, honce, honce', hperm, ?_⟩
  rcases ofText?_of_perm isObjectText_bareText isObjectText_laidOutText honce honce' hperm with
    ⟨e, he, hread, hread'⟩ | ⟨hnone, _⟩
  · rw [Option.some.inj (hmake.symm.trans he)]
    exact ⟨hread, hread'⟩
  · exact absurd (hmake.symm.trans hnone) (by simp)

end RuleGate.Event
