import RuleGate.Program
import RuleGate.Proofs.RecordReading
import RuleGate.Proofs.Verdict

/-! The line that an invocation writes. Its decision has one of four forms, which follows from the
hook that the event names; the line holds no control character, whatever the messages hold, and is
read as the decision. -/

namespace RuleGate

/-! ### Control characters -/

namespace Json

open Reader

/-- Texts without control characters. -/
def IsPlain (text : List Char) : Prop :=
  ∀ c ∈ text, 0x20 ≤ c.toNat

instance (text : List Char) : Decidable (IsPlain text) :=
  List.decidableBAll (fun c : Char => 0x20 ≤ c.toNat) text

theorem isPlain_cons {c : Char} {text : List Char} :
    IsPlain (c :: text) ↔ 0x20 ≤ c.toNat ∧ IsPlain text :=
  List.forall_mem_cons

theorem isPlain_append {a b : List Char} : IsPlain (a ++ b) ↔ IsPlain a ∧ IsPlain b :=
  List.forall_mem_append

theorem IsPlain.flatMap {α : Type} {f : α → List Char} {l : List α} (h : ∀ a ∈ l, IsPlain (f a)) :
    IsPlain (l.flatMap f) := by
  intro c hc
  obtain ⟨a, ha, hmem⟩ := List.mem_flatMap.mp hc
  exact h a ha c hmem

theorem isPlain_escapeChar (c : Char) : IsPlain (escapeChar c) := by
  have hdigits : ∀ n < 0x20,
      IsPlain ['\\', 'u', '0', '0', Text.hexDigit (n / 16), Text.hexDigit (n % 16)] := by
    decide
  rw [escapeChar]
  split_ifs with _ _ _ _ _ _ _ hcontrol
  any_goals decide
  · exact hdigits _ hcontrol
  · exact isPlain_cons.mpr ⟨Nat.le_of_not_lt hcontrol, by decide⟩

theorem isPlain_quote (value : String) : IsPlain (quote value) := by
  rw [quote, List.cons_append, isPlain_cons, isPlain_append]
  exact ⟨by decide, .flatMap fun c _ => isPlain_escapeChar c, by decide⟩

theorem isPlain_toDigits (n : Nat) : IsPlain (Nat.toDigits 10 n) := by
  intro c hc
  have hdigit := Nat.isDigit_of_mem_toDigits (by decide) (by decide) hc
  rw [Char.isDigit, Bool.and_eq_true, decide_eq_true_iff, decide_eq_true_iff] at hdigit
  have hlow : 48 ≤ c.toNat := hdigit.1
  omega

theorem isPlain_memberText {m : String × Json} (hm : IsPlain m.2.chars) :
    IsPlain (memberText m) := by
  rw [memberText, isPlain_append, isPlain_cons]
  exact ⟨isPlain_quote m.1, by decide, hm⟩

/-- The compact text of a value holds no control character. -/
theorem IsWhole.isPlain_chars {v : Json} (hv : v.IsWhole) : IsPlain v.chars := by
  induction hv with
  | null => decide
  | bool b => cases b <;> decide
  | integer v =>
      rw [chars_integer]
      split_ifs
      · exact isPlain_toDigits _
      · exact isPlain_cons.mpr ⟨by decide, isPlain_toDigits _⟩
  | string s => exact isPlain_quote s
  | @array items h ih =>
      have hitems : IsPlain (itemChars items) := by
        cases items with
        | nil => decide
        | cons item items =>
            rw [itemChars_cons, isPlain_append]
            refine ⟨ih item List.mem_cons_self, .flatMap fun other hother => ?_⟩
            exact isPlain_cons.mpr ⟨by decide, ih other (List.mem_cons_of_mem _ hother)⟩
      rw [chars, List.cons_append, isPlain_cons, isPlain_append]
      exact ⟨by decide, hitems, by decide⟩
  | @object members h ih =>
      have hmembers : IsPlain (memberChars members) := by
        cases members with
        | nil => decide
        | cons m members =>
            rw [memberChars_cons, isPlain_append]
            refine ⟨isPlain_memberText (ih m List.mem_cons_self), .flatMap fun other hother => ?_⟩
            exact isPlain_cons.mpr ⟨by decide,
              isPlain_memberText (ih other (List.mem_cons_of_mem _ hother))⟩
      rw [chars, List.cons_append, isPlain_cons, isPlain_append]
      exact ⟨by decide, hmembers, by decide⟩

end Json

/-! ### Reading a decision -/

namespace Decision

open Json Reader

/-- The members of a decision are texts, and one object of texts. -/
theorem isWhole_members (d : Decision) : (Json.object d.members).IsWhole := by
  have htext : ∀ name value, ∀ m ∈ textMember name value, m.2.IsWhole := by
    intro name value
    cases value with
    | none => exact List.forall_mem_nil _
    | some value => exact List.forall_mem_singleton.mpr (.string value)
  refine .object ?_
  simp only [members, List.forall_mem_append]
  refine ⟨⟨⟨?_, htext _ _⟩, htext _ _⟩, ?_⟩
  · split
    · exact List.forall_mem_singleton.mpr (.string _)
    · exact List.forall_mem_nil _
  · split
    · exact List.forall_mem_nil _
    · refine List.forall_mem_singleton.mpr (.object ?_)
      exact List.forall_mem_cons.mpr ⟨.string _, List.forall_mem_singleton.mpr (.string _)⟩

theorem nodup_keys_members (d : Decision) : (d.members.map Prod.fst).Nodup := by
  have hnames : (d.members.map Prod.fst).Sublist
      (["decision"] ++ ["reason"] ++ ["systemMessage"] ++ ["hookSpecificOutput"]) := by
    simp only [members, List.map_append]
    refine (((?_ : List.Sublist _ _).append
      (keys_textMember_sublist _ _)).append (keys_textMember_sublist _ _)).append ?_
    · split
      · exact List.Sublist.refl _
      · exact List.nil_sublist _
    · split
      · exact List.nil_sublist _
      · exact List.Sublist.refl _
  exact hnames.nodup (by decide)

theorem reads_denial (hookName : String) (s : List Char) :
    (record denialShape).Reads
      ((Json.object [("hookEventName", .string hookName),
        ("permissionDecision", .string "deny")]).chars ++ s)
      hookName s := by
  refine reads_record ?_ (by simp) (by simp [denialShape]) s
  refine .cons rfl (fun s _ => reads_text "a string" hookName) ?_
  exact .cons rfl (fun s _ => (reads_word "deny").bind (.pure hookName s)) (.nil hookName)

/-- The members of a decision are read as the decision, one field after the other. -/
theorem readsFields_members (d : Decision) : ReadsFields shape allow d.members d := by
  obtain ⟨block, reason?, message?, deniedHook?⟩ := d
  have hblock : ReadsFields shape allow (if block then [("decision", .string "block")] else [])
      ⟨block, none, none, none⟩ := by
    cases block with
    | false => exact .nil allow
    | true =>
        refine .cons rfl (fun s _ => ?_) (.nil _)
        have hword := reads_word (s := s) "block"
        rw [chars_string_append] at hword ⊢
        exact (reads_optional (by decide) (by decide) hword).bind (.pure _ s)
  have hreason : ReadsFields shape ⟨block, none, none, none⟩ (textMember "reason" reason?)
      ⟨block, reason?, none, none⟩ :=
    readsFields_textMember (fun (d : Decision) value => { d with reason? := value }) rfl reason? rfl
  have hmessage : ReadsFields shape ⟨block, reason?, none, none⟩
      (textMember "systemMessage" message?)
      ⟨block, reason?, message?, none⟩ :=
    readsFields_textMember (fun (d : Decision) value => { d with message? := value }) rfl
      message? rfl
  refine ((hblock.append hreason).append hmessage).append ?_
  cases deniedHook? with
  | none => exact .nil _
  | some hookName =>
      refine .cons rfl (fun s _ => ?_) (.nil _)
      have hdenial := reads_denial hookName s
      rw [chars_object_append] at hdenial ⊢
      exact (reads_optional (by decide) (by decide) hdenial).bind (.pure _ s)

/-- Every decision is read from its text. -/
theorem ofText?_text (d : Decision) : ofText? d.text = .ok d := by
  have hrecord :=
    reads_record (readsFields_members d) (nodup_keys_members d) (by simp [shape, textField]) []
  rw [List.append_nil] at hrecord
  refine Reads.whole?_eq_ok ?_
  rw [text, Json.text, String.toList_ofList]
  exact hrecord

/-! ### Forms -/

/-- The forms of decisions, with the texts that they hold. -/
inductive Form where
  | nothing
  | message (text : String)
  | stopBlock (text : String)
  | toolDenial (hookName text : String)

/-- The members of a form. The reason for which a stop is blocked is the message too. -/
def Form.members : Form → List (String × Json)
  | .nothing => []
  | .message text => [("systemMessage", .string text)]
  | .stopBlock text =>
    [("decision", .string "block"), ("reason", .string text), ("systemMessage", .string text)]
  | .toolDenial hookName text =>
    [("systemMessage", .string text), ("hookSpecificOutput",
      .object [("hookEventName", .string hookName), ("permissionDecision", .string "deny")])]

theorem Form.members_injective : Function.Injective members := by
  intro form other h
  cases form <;> cases other <;> simp_all [members]

/-- The forms that the decision about an event may have, by the hook that the event names. -/
def Form.Fits (e : Event) : Form → Prop
  | .nothing => True
  | .message _ => True
  | .stopBlock _ => e.hookName = "Stop"
  | .toolDenial hookName _ =>
    hookName = e.hookName ∧ (hookName = "PreToolUse" ∨ hookName = "PostToolUse")

theorem exists_form_blocking (e : Event) (message : String) :
    ∃ form : Form, (blocking e message).members = form.members ∧ form.Fits e := by
  rw [blocking]
  cases hhook : e.hook? with
  | none => exact ⟨.message message, rfl, trivial⟩
  | some hook =>
      have hname := Event.hook?_eq_some_iff.mp hhook
      cases hook with
      | preToolUse => exact ⟨.toolDenial e.hookName message, rfl, rfl, Or.inl hname⟩
      | postToolUse => exact ⟨.toolDenial e.hookName message, rfl, rfl, Or.inr hname⟩
      | stop => exact ⟨.stopBlock message, rfl, hname⟩
      | userPromptSubmit => exact ⟨.message message, rfl, trivial⟩

theorem exists_form_ofFiring (e : Event) (firing : List Rule) :
    ∃ form : Form, (ofFiring e firing).members = form.members ∧ form.Fits e := by
  simp only [ofFiring]
  split_ifs
  · exact exists_form_blocking e _
  · exact ⟨.message _, rfl, trivial⟩
  · exact ⟨.nothing, rfl, trivial⟩

end Decision

/-! ### The line of an invocation -/

namespace Program

/-- A decision is written as one line, without control characters. -/
theorem lines_line (d : Decision) :
    Json.IsPlain d.text.toList ∧ Text.lines (line d).toList = [d.text.toList] := by
  have hplain : Json.IsPlain d.text.toList := by
    rw [Decision.text, Json.text, String.toList_ofList]
    exact (Decision.isWhole_members d).isPlain_chars
  have hline : Text.IsLine d.text.toList := by
    refine ⟨fun hmem => absurd (hplain _ hmem) (by decide), fun hlast => ?_⟩
    exact absurd (hplain _ (List.mem_of_getLast? hlast)) (by decide)
  have hlines := Text.lines_flatMap (List.forall_mem_singleton.mpr hline)
  rw [List.flatMap_singleton] at hlines
  refine ⟨hplain, ?_⟩
  rw [line, String.toList_append]
  exact hlines

end Program

namespace Gate

/-- The forms that the decision about an input may have: those that fit the event of the input. -/
def FormFits (input : String) (form : Decision.Form) : Prop :=
  form = .nothing ∨ (∃ text, form = .message text) ∨ ∃ e, InputHolds input e ∧ form.Fits e

theorem exists_form_process (hook : Hook) (input : String) (sources : RuleDirectories)
    (files : FileSystem) :
    ∃ form : Decision.Form,
      (process hook input sources files).result.members = form.members ∧ FormFits input form := by
  by_cases htext : Text.trim input.toList = []
  · rw [process_of_blank htext]
    exact ⟨.nothing, rfl, Or.inl rfl⟩
  · rw [process_of_ofText? htext]
    cases hevent : Event.ofText? (String.ofList (Text.trim input.toList)) with
    | error e => exact ⟨.message _, rfl, Or.inr (Or.inl ⟨_, rfl⟩)⟩
    | ok e =>
        simp only [result_judge]
        obtain ⟨form, hmembers, hfits⟩ := Decision.exists_form_ofFiring e
          ((sources.load files (hook.scope? e.toolName)).rules.filter (·.isMet e files))
        exact ⟨form, hmembers, Or.inr (Or.inr ⟨e, ⟨htext, hevent⟩, hfits⟩)⟩

/-- An invocation decides in exactly one form, which fits its event, and writes the decision as one
line without control characters that is read as the decision. -/
theorem form_and_line_process (hook : Hook) (input : String) (sources : RuleDirectories)
    (files : FileSystem) :
    let d := (process hook input sources files).result
    (∃ form : Decision.Form, d.members = form.members ∧ FormFits input form ∧
        ∀ other : Decision.Form, d.members = other.members → other = form) ∧
      d.text = (Json.object d.members).text ∧
      (∀ c ∈ d.text.toList, 0x20 ≤ c.toNat) ∧
      Program.line d = d.text ++ "\n" ∧ Text.lines (Program.line d).toList = [d.text.toList] ∧
      Decision.ofText? d.text = .ok d := by
  intro d
  obtain ⟨form, hmembers, hfits⟩ := exists_form_process hook input sources files
  obtain ⟨hplain, hlines⟩ := Program.lines_line d
  refine ⟨⟨form, hmembers, hfits, fun other hother => ?_⟩, rfl, hplain, rfl, hlines,
    Decision.ofText?_text d⟩
  exact Decision.Form.members_injective (hother.symm.trans hmembers)

end Gate

end RuleGate
