import RuleGate.Event.Basic
import RuleGate.Proofs.KeptValues
import RuleGate.Proofs.RecordReading

/-! Events that are read, written and read again. However an event was written, the members of its
input are kept in order and within the depth that the input is allowed, so its own text is read as
the same event. -/

namespace RuleGate.Event

open Json Reader

/-! ### What an event keeps -/

/-- Events whose input lies within the depth that it is allowed. -/
def InputKept (e : Event) : Prop :=
  ∀ m ∈ e.toolInput.entries, Kept (maxDepth - 2) m.2

theorem gives_textField {name expected : String} {set : Event → Option String → Event}
    (hset : ∀ e value, (set e value).toolInput = e.toolInput) {e : Event} (he : e.InputKept) :
    ((textField name expected set).read e).Gives InputKept := by
  refine .after _ fun value => .pure ?_
  rw [InputKept, hset]
  exact he

theorem gives_inputField (e : Event) : (inputField.read e).Gives InputKept := by
  refine (gives_optional (gives_map (maxDepth - 2))).bind fun value? hvalue => .pure ?_
  cases value? with
  | none => exact List.forall_mem_nil _
  | some d => exact hvalue d rfl

/-- The input of an event that is read is kept, in whichever form the event is written. -/
theorem inputKept_of_ofText? {t : String} {e : Event} (h : ofText? t = .ok e) : e.InputKept := by
  have hempty : InputKept shape.empty := List.forall_mem_nil _
  refine Gives.of_whole? (gives_record hempty ?_) h
  simp only [shape, List.forall_mem_cons]
  refine ⟨?_, ?_, fun e _ => gives_inputField e, ?_, ?_, ?_, List.forall_mem_nil _⟩
  all_goals
    intro e he
    refine gives_textField (fun _ _ => ?_) he
    rfl

/-! ### Reading what was written -/

def members (e : Event) : List (String × Json) :=
  ("hook_event_name", .string e.hookName) :: textMember "tool_name" e.toolName? ++
    ("tool_input", .object e.toolInput.entries) :: textMember "reason" e.reason? ++
    textMember "transcript_path" e.transcriptPath? ++ textMember "user_prompt" e.userPrompt?

theorem json_eq_object (e : Event) : e.json = .object e.members := rfl

theorem nodup_keys_members (e : Event) : (e.members.map Prod.fst).Nodup := by
  have hname := keys_textMember_sublist
  have hhook : (("hook_event_name" :: (textMember "tool_name" e.toolName?).map Prod.fst)).Sublist
      ["hook_event_name", "tool_name"] := (hname _ _).cons_cons _
  have hinput : (("tool_input" :: (textMember "reason" e.reason?).map Prod.fst)).Sublist
      ["tool_input", "reason"] := (hname _ _).cons_cons _
  have hnames : (e.members.map Prod.fst).Sublist
      (["hook_event_name", "tool_name"] ++ ["tool_input", "reason"] ++ ["transcript_path"] ++
        ["user_prompt"]) := by
    simp only [members, List.map_append, List.map_cons]
    exact ((hhook.append hinput).append (hname _ _)).append (hname _ _)
  exact hnames.nodup (by decide)

/-- The members of an event are read as the event, one field after the other. -/
theorem readsFields_members {e : Event} (hkept : e.InputKept)
    (hwhole : ∀ m ∈ e.toolInput.entries, m.2.IsWhole) :
    ReadsFields shape (ofHookName "") e.members e := by
  obtain ⟨hookName, toolName?, toolInput, reason?, transcriptPath?, userPrompt?⟩ := e
  have hhook : ReadsFields shape (ofHookName "") [("hook_event_name", .string hookName)]
      (ofHookName hookName) :=
    readsFields_textMember (fun (e : Event) value => { e with hookName := value.getD "" }) rfl
      (some hookName) rfl
  have htool : ReadsFields shape (ofHookName hookName) (textMember "tool_name" toolName?)
      ⟨hookName, toolName?, Dictionary.empty, none, none, none⟩ :=
    readsFields_textMember (fun (e : Event) value => { e with toolName? := value }) rfl
      toolName? rfl
  have hinput : ReadsFields shape ⟨hookName, toolName?, Dictionary.empty, none, none, none⟩
      [("tool_input", .object toolInput.entries)] ⟨hookName, toolName?, toolInput,
          none, none, none⟩ := by
    refine .cons rfl (fun s _ => ?_) (.nil _)
    have hmap := reads_map (s := s) hkept hwhole
    rw [chars_object_append] at hmap ⊢
    exact (reads_optional (by decide) (by decide) hmap).bind (.pure _ s)
  have hreason : ReadsFields shape ⟨hookName, toolName?, toolInput, none, none, none⟩
      (textMember "reason" reason?) ⟨hookName, toolName?, toolInput, reason?, none, none⟩ :=
    readsFields_textMember (fun (e : Event) value => { e with reason? := value }) rfl reason? rfl
  have htranscript : ReadsFields shape ⟨hookName, toolName?, toolInput, reason?, none, none⟩
      (textMember "transcript_path" transcriptPath?)
      ⟨hookName, toolName?, toolInput, reason?, transcriptPath?, none⟩ :=
    readsFields_textMember (fun (e : Event) value => { e with transcriptPath? := value }) rfl
      transcriptPath? rfl
  have hprompt : ReadsFields shape ⟨hookName, toolName?, toolInput, reason?, transcriptPath?, none⟩
      (textMember "user_prompt" userPrompt?)
      ⟨hookName, toolName?, toolInput, reason?, transcriptPath?, userPrompt?⟩ :=
    readsFields_textMember (fun (e : Event) value => { e with userPrompt? := value }) rfl
      userPrompt? rfl
  exact (((hhook.append htool).append (hinput.append hreason)).append htranscript).append hprompt

theorem ofText?_text {e : Event} (hkept : e.InputKept)
    (hwhole : ∀ m ∈ e.toolInput.entries, m.2.IsWhole) : ofText? e.text = .ok e := by
  have hrecord := reads_record (readsFields_members hkept hwhole) (nodup_keys_members e)
    (by simp [shape, textField, inputField]) []
  rw [List.append_nil] at hrecord
  refine Reads.whole?_eq_ok ?_
  rw [text, json_eq_object, Json.text, String.toList_ofList]
  exact hrecord

/-- An event that is read and holds no floating-point numbers is written to a text that is read as
the same event, and that is written again for it. -/
theorem ofText?_text_of_ofText? {t : String} {e : Event} (h : ofText? t = .ok e)
    (hwhole : ∀ m ∈ e.toolInput.entries, m.2.IsWhole) :
    ofText? e.text = .ok e ∧ (ofText? e.text).map text = .ok e.text := by
  have hread := ofText?_text (inputKept_of_ofText? h) hwhole
  refine ⟨hread, ?_⟩
  rw [hread]
  rfl

/-- An event with members in another order than they are written, one that is not known, and an
input that holds a key twice. -/
def unorderedText : String :=
  "\x7b\"user_prompt\":\"\",\"version\":1.5,\"tool_input\":\x7b\"b\":[-1],\"a\":null,\"a\":7\x7d" ++
    ",\"hook_event_name\":\"Stop\"\x7d"

def unorderedInput : List (String × Json) :=
  [("a", .number (.integer 7)), ("b", .array [.number (.integer (-1))])]

def unorderedEvent : Event :=
  ⟨"Stop", none, Dictionary.ofList unorderedInput, none, none, some ""⟩

theorem ofText?_text_unorderedEvent :
    ofText? unorderedText = .ok unorderedEvent ∧
    (∀ m ∈ unorderedEvent.toolInput.entries, m.2.IsWhole) ∧
      ofText? unorderedEvent.text = .ok unorderedEvent ∧
      (ofText? unorderedEvent.text).map text = .ok unorderedEvent.text := by
  have hread : ofText? unorderedText = .ok unorderedEvent := by
    decide +kernel
  have hinput : ∀ m ∈ unorderedInput, m.2.IsWhole := by
    have hitems : IsWhole (.array [.number (.integer (-1))]) :=
      .array (List.forall_mem_singleton.mpr (.integer _))
    exact List.forall_mem_cons.mpr ⟨.integer _, List.forall_mem_singleton.mpr hitems⟩
  have hwhole : ∀ m ∈ unorderedEvent.toolInput.entries, m.2.IsWhole :=
    fun m hm => hinput m (Dictionary.mem_entries_ofList hm)
  exact ⟨hread, hwhole, ofText?_text_of_ofText? hread hwhole⟩

end RuleGate.Event
