import RuleGate.Json.Record
import RuleGate.Proofs.JsonRoundTrip

/-! What the strict reader keeps. Every value that it gives is bounded in depth, holds its keys in
order and its whole numbers within 64 bits; a record keeps what the reading of each of its fields
keeps. -/

namespace RuleGate.Json.Reader

/-! ### Results -/

section Results

variable {α β : Type} {P : α → Prop} {Q : β → Prop} {r : Reader α} {next : α → Reader β}

/-- Whatever a reader gives has a property. -/
def Gives (r : Reader α) (P : α → Prop) : Prop :=
  ∀ c a c', r c = .ok (a, c') → P a

theorem Gives.pure {a : α} (ha : P a) : Gives (pure a) P := by
  intro c b c' h
  cases h
  exact ha

theorem gives_fail (cause : Cause) : (fail cause : Reader α).Gives P := by
  intro c a c' h
  cases h

theorem gives_failNext (cause : Cause) : (failNext cause : Reader α).Gives P := by
  intro c a c' h
  cases h

theorem Gives.bind (hr : r.Gives P) (hnext : ∀ a, P a → (next a).Gives Q) :
    Gives (r >>= next) Q := by
  intro c b c' h
  change (r c >>= fun p => next p.1 p.2) = _ at h
  cases hfirst : r c with
  | error e =>
      rw [hfirst] at h
      cases h
  | ok p =>
      rw [hfirst] at h
      exact hnext p.1 (hr c p.1 p.2 hfirst) p.2 b c' h

/-- Only the last step of a reading counts, if it does not rest on the steps before. -/
theorem Gives.after (r : Reader α) (hnext : ∀ a, (next a).Gives Q) : Gives (r >>= next) Q :=
  Gives.bind (P := fun _ => True) (fun _ _ _ _ => trivial) fun a _ => hnext a

theorem Gives.of_map {c : Cursor} {a : α} (h : r.Gives P)
    (hread : (r c).map Prod.fst = .ok a) : P a := by
  cases hrun : r c with
  | error e =>
      rw [hrun] at hread
      cases hread
  | ok p =>
      rw [hrun] at hread
      cases hread
      exact h c p.1 p.2 hrun

theorem Gives.of_whole? {text : String} {a : α} (h : r.Gives P)
    (hread : r.whole? text = .ok a) : P a := by
  rw [whole?] at hread
  refine Gives.of_map ?_ hread
  refine h.bind fun a ha => .after _ fun char? => ?_
  cases char? with
  | none => exact .pure ha
  | some _ => exact gives_failNext _

end Results

/-! ### Numbers -/

section Numbers

variable {room : Nat} {negative : Bool}

theorem appendDigits_le {significand : Nat} (h : significand ≤ maxSignificand)
    (digits : List Char) : (appendDigits significand digits).1 ≤ maxSignificand := by
  induction digits generalizing significand with
  | nil => exact h
  | cons d rest ih =>
      simp only [appendDigits]
      split
      · rename_i hlonger
        exact ih hlonger
      · exact h

theorem gives_decimal (significand : Nat) (exponent : Int) :
    (decimal negative significand exponent).Gives fun x => Kept room (.number x) := by
  rw [decimal]
  split
  · exact .pure (.real room _)
  · exact gives_fail _

theorem gives_exponent (significand : Nat) (scale : Int) :
    (exponent negative significand scale).Gives fun x => Kept room (.number x) := by
  rw [exponent]
  refine .after _ fun _ => .after _ fun below => .after _ fun char? => ?_
  cases char? with
  | none => exact gives_fail _
  | some d =>
      dsimp only
      split
      · refine .after _ fun fuel => .after _ fun value? => ?_
        cases value? with
        | some value => exact gives_decimal _ _
        | none =>
            simp only [beyondExponents]
            split_ifs
            · exact gives_fail _
            · exact .after _ fun _ => .pure (.real room _)
      · exact gives_failNext _

theorem gives_fraction (significand : Nat) (scale : Int) :
    (fraction negative significand scale).Gives fun x => Kept room (.number x) := by
  rw [fraction]
  refine .after _ fun _ => .after _ fun digits => ?_
  split_ifs
  · refine .after _ fun char? => ?_
    cases char? with
    | none => exact gives_fail _
    | some d => exact gives_failNext _
  · refine .after _ fun char? => ?_
    split
    · exact gives_exponent _ _
    · exact gives_exponent _ _
    · exact gives_decimal _ _

theorem gives_whole {significand : Nat} (h : significand ≤ maxSignificand) :
    (whole negative significand).Gives fun x => Kept room (.number x) := by
  rw [whole]
  split_ifs with _ hlarge
  · exact gives_decimal _ _
  · have hsmall : significand ≤ maxNegative := by
      by_contra hlt
      exact hlarge (by simpa using Or.inr (Nat.lt_of_not_le hlt))
    exact .pure (.integer room (by omega) (by omega))
  · exact .pure (.integer room (by omega) (by omega))

theorem gives_afterDigits (digits : List Char) :
    (afterDigits negative digits).Gives fun x => Kept room (.number x) := by
  have hbound := appendDigits_le (Nat.zero_le maxSignificand) digits
  rw [afterDigits]
  refine .after _ fun char? => ?_
  split
  · exact gives_fraction _ _
  · exact gives_exponent _ _
  · exact gives_exponent _ _
  · split_ifs
    · exact gives_whole hbound
    · exact gives_decimal _ _

/-- A number that is read is a whole number within its bounds, or a floating-point number. -/
theorem gives_number (negative : Bool) :
    (number negative).Gives fun x => Kept room (.number x) := by
  rw [number]
  refine .after _ fun char? => ?_
  split
  · exact gives_fail _
  · refine .after _ fun _ => .after _ fun next? => ?_
    split
    · exact gives_afterDigits _
    · split_ifs
      · exact gives_failNext _
      · exact gives_afterDigits _
  · split_ifs
    · exact .after _ fun digits => gives_afterDigits digits
    · exact gives_failNext _

end Numbers

/-! ### Values -/

section Values

variable {room : Nat}

theorem gives_valueWith {container : Char → Reader Json}
    (h : ∀ bracket, (container bracket).Gives (Kept room)) :
    (valueWith container).Gives (Kept room) := by
  rw [valueWith]
  refine .after _ fun char? => ?_
  split
  · exact gives_fail _
  · exact .after _ fun _ => .after _ fun _ => .pure (.null room)
  · exact .after _ fun _ => .after _ fun _ => .pure (.bool room true)
  · exact .after _ fun _ => .after _ fun _ => .pure (.bool room false)
  · exact .after _ fun _ => (gives_number true).bind fun x hx => .pure hx
  · exact .after _ fun _ => .after _ fun text => .pure (.string room text)
  · split_ifs
    · exact (gives_number false).bind fun x hx => .pure hx
    · exact h _
    · exact gives_failNext _

theorem gives_itemLoop {P : Json → Prop} {item : Reader Json} (h : item.Gives P) (fuel : Nat)
    (first : Bool) {read : List Json} (hread : ∀ v ∈ read, P v) :
    (itemLoop item fuel first read).Gives fun items => ∀ v ∈ items, P v := by
  induction fuel generalizing first read with
  | zero => exact gives_fail _
  | succ fuel ih =>
      rw [itemLoop]
      refine .after _ fun more => ?_
      split_ifs
      · exact h.bind fun v hv => ih false (List.forall_mem_cons.mpr ⟨hv, hread⟩)
      · exact .after _ fun _ => .pure fun v hv => hread v (List.mem_reverse.mp hv)

theorem gives_memberLoop {σ : Type} {P : σ → Prop} {member : σ → String → Reader σ}
    (h : ∀ a key, P a → (member a key).Gives P) (fuel : Nat) (first : Bool) {a : σ} (ha : P a) :
    (memberLoop member fuel first a).Gives P := by
  induction fuel generalizing first a with
  | zero => exact gives_fail _
  | succ fuel ih =>
      rw [memberLoop]
      refine .after _ fun more => ?_
      split_ifs
      · refine .after _ fun _ => .after _ fun key => ?_
        exact (h a key ha).bind fun b hb => ih false hb
      · exact .pure ha

theorem gives_object {P : Json → Prop} {value : Reader Json} (h : value.Gives P) :
    (object value).Gives fun d => ∀ m ∈ d.entries, P m.2 := by
  have hinsert : ∀ (d : Dictionary Json) (key : String), (∀ m ∈ d.entries, P m.2) →
      Gives (do colon; return d.insert key (← value)) fun d => ∀ m ∈ d.entries, P m.2 := by
    intro d key hd
    refine .after _ fun _ => h.bind fun v hv => .pure fun m hm => ?_
    rcases Dictionary.mem_insertInto hm with rfl | hm
    · exact hv
    · exact hd m hm
  rw [object]
  refine .after _ fun fuel => ?_
  refine (gives_memberLoop hinsert _ true (List.forall_mem_nil _)).bind fun d hd => ?_
  exact .after _ fun _ => .pure hd

/-- Every value that is read where at most `room` arrays and objects may lie inside each other is
kept so. -/
theorem gives_value (room : Nat) : (value room).Gives (Kept room) := by
  induction room with
  | zero => exact gives_valueWith fun _ => gives_failNext _
  | succ room ih =>
      refine gives_valueWith fun bracket => .after _ fun _ => ?_
      split_ifs
      · have hitems : (array (value room)).Gives fun items => ∀ v ∈ items, Kept room v :=
          .after _ fun fuel => gives_itemLoop ih _ true (List.forall_mem_nil _)
        exact hitems.bind fun items h => .pure (.array h)
      · exact (gives_object ih).bind fun d h => .pure (.object d.ascending h)

theorem gives_failType {α : Type} {P : α → Prop} (expected : String) :
    (failType expected : Reader α).Gives P :=
  .after _ fun _ => gives_fail _

theorem gives_map (room : Nat) : (map room).Gives fun d => ∀ m ∈ d.entries, Kept room m.2 := by
  rw [map]
  refine .after _ fun char? => ?_
  split
  · exact gives_fail _
  · exact .after _ fun _ => gives_object (gives_value room)
  · exact gives_failType _

theorem gives_optional {α : Type} {P : α → Prop} {r : Reader α} (h : r.Gives P) :
    (optional r).Gives fun value? => ∀ a ∈ value?, P a := by
  rw [optional]
  refine .after _ fun char? => ?_
  split
  · exact .after _ fun _ => .after _ fun _ => .pure (by simp)
  · exact h.bind fun a ha => .pure (by simpa using ha)

end Values

/-! ### Records -/

section Records

variable {σ : Type} {shape : Shape σ} {P : σ → Prop}

theorem gives_member (hfields : ∀ f ∈ shape.fields, ∀ a, P a → (f.read a).Gives P) (p : Progress σ)
    (key : String) (hp : P p.record) : (member shape p key).Gives fun p => P p.record := by
  rw [member]
  split
  · exact .after _ fun _ => .after _ fun _ => .pure hp
  · rename_i field hfield
    split_ifs
    · rw [failPastEnd]
      refine .after _ fun char? => ?_
      split
      · exact .after _ fun _ => gives_fail _
      · exact gives_fail _
    · refine .after _ fun _ => ?_
      exact (hfields field (List.mem_of_find?_eq_some hfield) p.record hp).bind fun a ha => .pure ha

theorem gives_byPosition {fields : List (Field σ)}
    (hfields : ∀ f ∈ fields, ∀ a, P a → (f.read a).Gives P) (position : Nat) {a : σ} (ha : P a) :
    (byPosition shape fields position a).Gives P := by
  induction fields generalizing position a with
  | nil => exact .after _ fun _ => .pure ha
  | cons field rest ih =>
      have hrest := ih fun f hf => hfields f (List.mem_cons_of_mem _ hf)
      rw [byPosition]
      refine .after _ fun more => ?_
      split_ifs
      · exact (hfields field List.mem_cons_self a ha).bind fun b hb => hrest _ hb
      · exact .after _ fun _ => gives_fail _
      · exact hrest _ ha

/-- A record has a property that the empty record has and that the reading of every field keeps,
however the record is written. -/
theorem gives_record (hempty : P shape.empty)
    (hfields : ∀ f ∈ shape.fields, ∀ a, P a → (f.read a).Gives P) : (record shape).Gives P := by
  have hname : (byName shape).Gives P := by
    rw [byName]
    refine .after _ fun fuel => ?_
    refine (gives_memberLoop (gives_member hfields) _ true hempty).bind fun p hp =>
      .after _ fun _ => ?_
    split
    · exact gives_fail _
    · exact .pure hp
  rw [record]
  refine .after _ fun char? => ?_
  split
  · exact gives_fail _
  · exact .after _ fun _ => hname
  · exact .after _ fun _ => gives_byPosition hfields 0 hempty
  · exact gives_failType _

end Records

end RuleGate.Json.Reader
