import RuleGate.Json.Record
import RuleGate.Proofs.JsonSkipping

/-! What the reader of records makes of an object. The fields are taken from the members one after
the other; members under other names are gone past and change nothing. -/

namespace RuleGate.Json.Reader

variable {α β σ : Type}

/-! ### Single values -/

/-- What a value is taken as that may be null. -/
def orNull (take : Tree → Option α) : Tree → Option (Option α)
  | .null => some none
  | t => (take t).map some

/-- What a value is taken as where there must be a text. -/
def text? : Tree → Option String
  | .string content => content
  | _ => none

/-- What a value is taken as where there must be an object. -/
def map? (room : Nat) : Tree → Option (Dictionary Json)
  | .object ms => afterMembers (fun d key t => (value? room t).map (d.insert key)) .empty ms
  | _ => none

section Values

theorem Takes.map {r : Reader α} {take : Tree → Option α} (hr : r.Takes take) (f : α → β) :
    (do let a ← r; pure (f a)).Takes fun t => (take t).map f :=
  fun s s₁ t rest hspace h hrest => (hr s s₁ t rest hspace h hrest).map f

theorem goes_failType (expected : String) (s t : List Char) :
    (failType expected : Reader α).Goes s none t :=
  goes_none_of_bind (fun _ _ => ⟨_, rfl⟩) _ s t

theorem takes_text (expected : String) : (text expected).Takes text? := by
  intro s s₁ t rest hspace h _
  have htext : (text expected).Goes s₁ (text? t) rest := by
    cases h with
    | string h =>
        exact (reads_peekPastSpace? (by decide) _).bindGoes
          ((reads_advance '"' _).bindGoes (goes_string h))
    | natural h =>
        obtain ⟨d, tail, rfl, hd⟩ := h.exists_digit
        refine (reads_peekPastSpace? (isSpace_of_isDigit hd) _).bindGoes ?_
        split
        · rename_i heq
          exact absurd heq (by simp)
        · rename_i heq
          exact absurd (Option.some.inj heq) (ne_of_isDigit hd rfl)
        · exact goes_failType _ _ _
    | null | truth | falsity | negative | array | object =>
        exact (reads_peekPastSpace? (by decide) _).bindGoes (goes_failType _ _ _)
  obtain ⟨c, tail, rfl, hc, _⟩ := h.startsValue
  exact Goes.of_space hspace hc htext

theorem takes_map (room : Nat) : (map room).Takes (map? room) := by
  intro s s₁ t rest hspace h _
  have hmap : (map room).Goes s₁ (map? room t) rest := by
    cases h with
    | object h =>
        refine (reads_peekPastSpace? (by decide) _).bindGoes ((reads_advance '\x7b' _).bindGoes ?_)
        exact goes_object (takes_value room) h
    | natural h =>
        obtain ⟨d, tail, rfl, hd⟩ := h.exists_digit
        refine (reads_peekPastSpace? (isSpace_of_isDigit hd) _).bindGoes ?_
        split
        · rename_i heq
          exact absurd heq (by simp)
        · rename_i heq
          exact absurd (Option.some.inj heq) (ne_of_isDigit hd rfl)
        · exact goes_failType _ _ _
    | null | truth | falsity | negative | array | string =>
        exact (reads_peekPastSpace? (by decide) _).bindGoes (goes_failType _ _ _)
  obtain ⟨c, tail, rfl, hc, _⟩ := h.startsValue
  exact Goes.of_space hspace hc hmap

theorem takes_optional {r : Reader α} {take : Tree → Option α} (hr : r.Takes take) :
    (optional r).Takes (orNull take) := by
  intro s s₁ t rest hspace h hrest
  have hvalue := (hr s₁ s₁ t rest (.refl _) h hrest).map some
  have hoptional : (optional r).Goes s₁ (orNull take t) rest := by
    cases h with
    | null =>
        refine (reads_peekPastSpace? (by decide) _).bindGoes ((reads_advance 'n' _).bindGoes ?_)
        exact (reads_letters ['u', 'l', 'l'] rest).bind (.pure none rest)
    | natural h =>
        obtain ⟨d, tail, rfl, hd⟩ := h.exists_digit
        refine (reads_peekPastSpace? (isSpace_of_isDigit hd) _).bindGoes ?_
        split
        · rename_i heq
          exact absurd (Option.some.inj heq) (ne_of_isDigit hd rfl)
        · exact hvalue
    | truth | falsity | negative | string | array | object =>
        exact (reads_peekPastSpace? (by decide) _).bindGoes hvalue
  obtain ⟨c, tail, rfl, hc, _⟩ := h.startsValue
  exact Goes.of_space hspace hc hoptional

end Values

/-! ### Records -/

def fieldNames (shape : Shape σ) : List String :=
  shape.fields.map Field.name

/-- Where a member leads: a field may come once, and what is no field changes nothing. -/
def takeMember (shape : Shape σ) (take : String → σ → Tree → Option σ) (p : Progress σ)
    (key : String) (t : Tree) : Option (Progress σ) :=
  if key ∈ fieldNames shape then
    if key ∈ p.seen then none else (take key p.record t).map fun record => ⟨key :: p.seen, record⟩
  else some p

section Records

variable {shape : Shape σ} {take : String → σ → Tree → Option σ}

theorem takes_textField (name expected : String) (set : σ → Option String → σ) (a : σ) :
    ((textField name expected set).read a).Takes fun t => (orNull text? t).map (set a) :=
  (takes_optional (takes_text expected)).map (set a)

theorem goes_failPastEnd (cause : Cause) (s t : List Char) :
    (failPastEnd cause : Reader α).Goes s none t := by
  refine goes_none_of_bind (fun next c => ?_) _ s t
  obtain ⟨rest, position⟩ := c
  split
  · cases rest <;> exact ⟨_, rfl⟩
  · exact ⟨_, rfl⟩

theorem takesMember_member (htake : ∀ f ∈ shape.fields, ∀ a, (f.read a).Takes (take f.name a)) :
    TakesMember (member shape) (takeMember shape take) := by
  intro p key s s₁ s₂ t rest hcolon hspace h hrest
  rw [member, takeMember]
  cases hfind : shape.fields.find? (fun f => f.name == key) with
  | none =>
      have hkey : key ∉ fieldNames shape := by
        rintro hmem
        obtain ⟨f, hf, hname⟩ := List.mem_map.mp hmem
        exact List.find?_eq_none.mp hfind f hf (by simpa using hname)
      rw [if_neg hkey]
      exact (reads_colon_of_space hcolon).bind ((reads_skip hspace h hrest).bind (.pure p rest))
  | some field =>
      have hname : field.name = key := by simpa using List.find?_some hfind
      have hmem : field ∈ shape.fields := List.mem_of_find?_eq_some hfind
      have hkey : key ∈ fieldNames shape := List.mem_map.mpr ⟨field, hmem, hname⟩
      rw [if_pos hkey]
      by_cases hseen : key ∈ p.seen
      · rw [if_pos hseen]
        simp only [List.contains_iff_mem, hseen, if_true]
        exact goes_failPastEnd _ _ _
      · rw [if_neg hseen]
        simp only [List.contains_iff_mem, hseen, if_false]
        have hvalue := htake field hmem p.record s₁ s₂ t rest hspace h hrest
        rw [hname] at hvalue
        exact (reads_colon_of_space hcolon).bindGoes (hvalue.map _)

/-- A record none of whose fields is required rests on the members of its object alone. -/
theorem goes_record (htake : ∀ f ∈ shape.fields, ∀ a, (f.read a).Takes (take f.name a))
    (hoptional : ∀ f ∈ shape.fields, f.required = false) {s s₁ rest : List Char}
    {ms : List (Option String × Tree)} (hspace : Space s s₁)
    (h : Says s₁ (.value (.object ms)) rest) :
    (record shape).Goes s
      ((afterMembers (takeMember shape take) ⟨[], shape.empty⟩ ms).map Progress.record) rest := by
  cases h with
  | @object s₁ _ _ h =>
      have hmissing : ∀ p : Progress σ,
          shape.fields.find? (fun f => f.required && !p.seen.contains f.name) =
          none := by
        intro p
        rw [List.find?_eq_none]
        intro f hf
        simp [hoptional f hf]
      have hname : (byName shape).Goes s₁
          ((afterMembers (takeMember shape take)
              ⟨[], shape.empty⟩ ms).map Progress.record) rest := by
        rw [byName, Option.map_eq_bind]
        refine (reads_remaining _).bindGoes ?_
        refine (goes_memberLoop (takesMember_member htake) h (Nat.lt_succ_self _) _).bind
          fun p _ => ?_
        refine (reads_advance '\x7d' rest).bind ?_
        rw [hmissing p]
        exact .pure p.record rest
      exact (reads_peekPastSpace?_cons hspace (by decide)).bindGoes
        ((reads_advance '\x7b' _).bindGoes hname)

/-- The members lead from record to record, one after the other, if no field comes twice. -/
theorem afterMembers_takeMember (hother : ∀ key ∉ fieldNames shape, ∀ a t, take key a t = some a)
    {ms : List (String × Tree)} {p : Progress σ}
    (hnodup : ((ms.map Prod.fst).filter (· ∈ fieldNames shape)).Nodup)
    (hseen : ∀ m ∈ ms, m.1 ∈ fieldNames shape → m.1 ∉ p.seen) :
    (afterMembers (takeMember shape take) p (ms.map fun m => (some m.1, m.2))).map Progress.record =
      ms.foldlM (fun a m => take m.1 a m.2) p.record := by
  induction ms generalizing p with
  | nil => rfl
  | cons m ms ih =>
      obtain ⟨key, t⟩ := m
      rw [List.map_cons, afterMembers, Option.bind_some, List.foldlM_cons, takeMember]
      rw [List.map_cons] at hnodup
      have hseenRest : ∀ m ∈ ms, m.1 ∈ fieldNames shape → m.1 ∉ p.seen :=
        fun m hm => hseen m (List.mem_cons_of_mem _ hm)
      by_cases hkey : key ∈ fieldNames shape
      · rw [List.filter_cons_of_pos (by simpa using hkey), List.nodup_cons] at hnodup
        rw [if_pos hkey, if_neg (hseen _ List.mem_cons_self hkey)]
        cases take key p.record t with
        | none => rfl
        | some a =>
            have hlater : ∀ m ∈ ms, m.1 ∈ fieldNames shape → m.1 ∉ key :: p.seen := by
              intro m hm hfield hmem
              rcases List.mem_cons.mp hmem with rfl | hmem
              · exact hnodup.1 (List.mem_filter.mpr
                  ⟨List.mem_map.mpr ⟨m, hm, rfl⟩, by simpa using hfield⟩)
              · exact hseenRest m hm hfield hmem
            exact ih hnodup.2 hlater
      · rw [List.filter_cons_of_neg (by simpa using hkey)] at hnodup
        rw [if_neg hkey, hother key hkey]
        exact ih hnodup hseenRest

end Records

end RuleGate.Json.Reader
