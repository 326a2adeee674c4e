import RuleGate.Json.Record
import RuleGate.Proofs.JsonRoundTrip

/-! Records that are written as objects and read again. If each member is read as a field of its
own, and no required field is left out, the object is read as the record to which the fields
lead. -/

namespace RuleGate.Json.Reader

/-! ### Single values -/

section Values

variable {s : List Char}

theorem chars_string_append (value : String) (s : List Char) :
    (Json.string value).chars ++ s = '"' :: (value.toList.flatMap escapeChar ++ '"' :: s) := by
  simp [chars, quote]

theorem chars_object_append (ms : List (String × Json)) (s : List Char) :
    (Json.object ms).chars ++ s = '\x7b' :: (memberChars ms ++ '\x7d' :: s) := by
  simp [chars]

/-- A value that does not begin as null does is there. -/
theorem reads_optional {α : Type} {r : Reader α} {c : Char} {text t : List Char} {a : α}
    (hc : c ≠ 'n') (hspace : isSpace c = false) (h : r.Reads (c :: text) a t) :
    (optional r).Reads (c :: text) (some a) t := by
  rw [optional]
  refine (reads_peekPastSpace? hspace _).bind ?_
  split
  · rename_i heq
    exact absurd (Option.some.inj heq) hc
  · exact h.bind (.pure _ t)

theorem reads_text (expected value : String) :
    (text expected).Reads ((Json.string value).chars ++ s) value s := by
  rw [chars_string_append]
  exact (reads_peekPastSpace? (by decide) _).bind
    ((reads_advance '"' _).bind (reads_string value s))

theorem reads_word (expected : String) :
    (word expected).Reads ((Json.string expected).chars ++ s) () s := by
  have hequal : Reads
      (unless expected = expected do fail (.unknownVariant expected expected)) s () s := by
    rw [if_pos rfl]
    exact .pure () s
  rw [chars_string_append]
  refine (reads_peekPastSpace? (by decide) _).bind ?_
  exact (reads_advance '"' _).bind ((reads_string expected s).bind hequal)

/-- An object that was kept is read as the dictionary of its members. -/
theorem reads_map {room : Nat} {d : Dictionary Json} (hkept : ∀ m ∈ d.entries, Kept room m.2)
    (hwhole : ∀ m ∈ d.entries, m.2.IsWhole) :
    (map room).Reads ((Json.object d.entries).chars ++ s) d s := by
  rw [chars_object_append]
  refine (reads_peekPastSpace? (by decide) _).bind ((reads_advance '\x7b' _).bind ?_)
  exact reads_object d.ascending fun m hm s hs => reads_value (hkept m hm) (hwhole m hm) hs

end Values

/-! ### Records -/

section Records

variable {σ : Type} {shape : Shape σ}

/-- The members lead from one record to another if each is read as a field of the record so far. -/
inductive ReadsFields (shape : Shape σ) : σ → List (String × Json) → σ → Prop
  | nil (a : σ) : ReadsFields shape a [] a
  | cons {a b c : σ} {key : String} {value : Json} {ms : List (String × Json)} {field : Field σ}
      (hfield : shape.fields.find? (fun f => f.name == key) = some field)
      (hvalue : ∀ s, EndsValue s → (field.read a).Reads (value.chars ++ s) b s)
      (hrest : ReadsFields shape b ms c) : ReadsFields shape a ((key, value) :: ms) c

theorem ReadsFields.append {a b c : σ} {ms others : List (String × Json)}
    (h : ReadsFields shape a ms b) (hothers : ReadsFields shape b others c) :
    ReadsFields shape a (ms ++ others) c := by
  induction h with
  | nil a => exact hothers
  | cons hfield hvalue _ ih => exact .cons hfield hvalue (ih hothers)

/-- A field of a text that may be missing leads to the record with the text. -/
theorem readsFields_textMember {name expected : String} (set : σ → Option String → σ)
    (hfield : shape.fields.find? (fun f => f.name == name) = some (textField name expected set))
    {a : σ} (value : Option String) (hnone : set a none = a) :
    ReadsFields shape a (textMember name value) (set a value) := by
  cases value with
  | none =>
      rw [hnone]
      exact .nil a
  | some value =>
      refine .cons hfield (fun s _ => ?_) (.nil _)
      have htext := reads_text (s := s) expected value
      rw [chars_string_append] at htext ⊢
      exact (reads_optional (by decide) (by decide) htext).bind (.pure _ s)

theorem keys_textMember_sublist (name : String) (value : Option String) :
    ((textMember name value).map Prod.fst).Sublist [name] := by
  cases value with
  | none => exact List.nil_sublist _
  | some value => exact List.Sublist.refl _

/-- Fields are read as members as long as none comes twice. -/
theorem ReadsFields.readsMembers {a c : σ} {ms : List (String × Json)}
    (h : ReadsFields shape a ms c) (hkeys : (ms.map Prod.fst).Nodup) {seen : List String}
    (hseen : ∀ m ∈ ms, m.1 ∉ seen) :
    ReadsMembers (member shape) ⟨seen, a⟩ ms ⟨(ms.map Prod.fst).reverse ++ seen, c⟩ := by
  induction h generalizing seen with
  | nil a => exact .nil _
  | @cons a b c key value ms field hfield hvalue hrest ih =>
      rw [List.map_cons, List.nodup_cons] at hkeys
      have hnew : seen.contains key = false := by
        simpa using hseen (key, value) List.mem_cons_self
      have hlater : ∀ m ∈ ms, m.1 ∉ key :: seen := by
        intro m hm hmem
        rcases List.mem_cons.mp hmem with heq | hmem
        · exact hkeys.1 (List.mem_map.mpr ⟨m, hm, heq⟩)
        · exact hseen m (List.mem_cons_of_mem _ hm) hmem
      have hmembers := ih hkeys.2 hlater
      rw [List.map_cons, List.reverse_cons, List.append_assoc, List.singleton_append]
      refine .cons (fun s hs => ?_) hmembers
      rw [member, hfield]
      simp only [hnew, Bool.false_eq_true, if_false]
      exact reads_colon.bind ((hvalue s hs).bind (.pure _ s))

/-- A record is read from the object of its fields. -/
theorem reads_record {a : σ} {ms : List (String × Json)} (h : ReadsFields shape shape.empty ms a)
    (hkeys : (ms.map Prod.fst).Nodup)
    (hrequired : ∀ f ∈ shape.fields, f.required = true → f.name ∈ ms.map Prod.fst) (s : List Char) :
    (record shape).Reads ((Json.object ms).chars ++ s) a s := by
  have hmembers : ReadsMembers (member shape) ⟨[], shape.empty⟩ ms
      ⟨(ms.map Prod.fst).reverse ++ [], a⟩ :=
    h.readsMembers hkeys (by simp)
  have hmissing : shape.fields.find?
      (fun f => f.required && !((ms.map Prod.fst).reverse ++ []).contains f.name) =
      none := by
    rw [List.find?_eq_none]
    intro f hf hmiss
    simp only [Bool.and_eq_true, Bool.not_eq_true', List.append_nil, List.contains_reverse] at hmiss
    have hmem := hrequired f hf hmiss.1
    rw [← List.contains_iff_mem, hmiss.2] at hmem
    exact absurd hmem (by decide)
  have hname : (byName shape).Reads (memberChars ms ++ '\x7d' :: s) a s := by
    rw [byName]
    refine (reads_remaining _).bind
      ((reads_memberLoop_first hmembers).bind ((reads_advance '\x7d' s).bind ?_))
    rw [hmissing]
    exact .pure a s
  rw [chars_object_append]
  exact (reads_peekPastSpace? (by decide) _).bind ((reads_advance '\x7b' _).bind hname)

end Records

end RuleGate.Json.Reader
