import RuleGate.Proofs.Acceptance
import RuleGate.Proofs.BareValues

/-! Entries of the metadata that count only if they are texts. A rule is for the tools that a text
names, but a list in its place restricts nothing. A pattern makes the same condition in a list of
conditions as it does as a pattern of the rule's own, unless it is a truth value: that is not read
as a text there, and the rule never fires. -/

namespace RuleGate

open Text

namespace Metadata

/-- What is stored under a key whose line goes on with the given text and has no lines of a list
behind it. -/
def lineValue (text : List Char) : Value :=
  if (trim text).isEmpty then .list [] else Value.ofText (trim text)

theorem entryOf_lineValue {key : String} (hkey : IsKey key) (text : List Char) :
    entryOf (withValue key.toList text, []) = (key, lineValue text) := by
  rw [withValue, entryOf_keyLine hkey, trim_space]
  rfl

/-- Whether a text is a truth value, in whatever case its ASCII letters are written. -/
def isTruthWord (s : List Char) : Bool :=
  isWord "true" s || isWord "false" s

theorem text?_ofText (s : List Char) :
    (Value.ofText s).text? =
      if isTruthWord (unquote s) then none else some (String.ofList (unquote s)) := by
  rw [Value.ofText, isTruthWord]
  cases isWord "true" (unquote s) <;> cases isWord "false" (unquote s) <;> rfl

theorem text?_lineValue {bare : String} {text : List Char}
    (hbare : IsBareOf bare.toList (trim text)) (hne : bare ≠ "") :
    (lineValue text).text? = if isTruthWord bare.toList then none else some bare := by
  rw [isBareOf_iff] at hbare
  have hnonempty : (trim text).isEmpty = false := by
    rw [List.isEmpty_eq_false_iff]
    intro hempty
    rw [hempty] at hbare
    exact hne (String.toList_inj.mp hbare.symm)
  rw [lineValue, hnonempty, if_neg Bool.false_ne_true, text?_ofText, hbare, String.ofList_toList]

end Metadata

namespace Rule

open Metadata

/-! ### The tools of a rule -/

theorem tools?_of_ofText {content : String} {source : Option String} {r : Rule}
    (h : ofText content source = .ok r) :
    r.tools? = (Document.ofText content).metadata.text? "tool_matcher" := by
  rw [ofText, ofMetadata] at h
  split_ifs at h
  rw [← Except.ok.inj h]

theorem admits_eq_false {r : Rule} {names tool : String} (htools : r.tools? = some names)
    (hne : names ≠ "") (hstar : names ≠ "*") (htool : ¬ tool.toList <:+: names.toList) :
    r.admits tool = false := by
  have hnot : tool.toList ∉ splitAll '|' names.toList := fun hmem => htool (of_mem_splitAll hmem).1
  simp [admits, htools, hne, hstar, hnot]

theorem fires_eq_pure_false {r : Rule} {e : Event}
    (h : r.admits e.toolName = false ∨ r.conditions = []) (files : FileSystem) :
    r.fires e files = pure false := by
  rw [fires]
  rcases h with h | h <;> simp [h]

/-- A text other than a star restricts the rule to tools whose names are parts of it. A list
restricts nothing. -/
theorem admits_of_ofText {content : String} {source : Option String} {r : Rule}
    (h : ofText content source = .ok r) :
    (∀ names tool : String,
      (Document.ofText content).metadata.find? "tool_matcher" = some (.scalar names) →
      names ≠ "" → names ≠ "*" → ¬ tool.toList <:+: names.toList →
      r.admits tool = false ∧ ∀ e files, e.toolName = tool → r.fires e files = pure false) ∧
    ∀ items, (Document.ofText content).metadata.find? "tool_matcher" = some (.list items) →
      ∀ tool, r.admits tool = true := by
  have htools := tools?_of_ofText h
  rw [Metadata.text?] at htools
  constructor
  · intro names tool hfind hne hstar htool
    rw [hfind, Option.bind_some, Value.text?] at htools
    have hadmits := admits_eq_false htools hne hstar htool
    refine ⟨hadmits, ?_⟩
    rintro e files rfl
    exact fires_eq_pure_false (.inl hadmits) files
  · intro items hfind tool
    rw [hfind] at htools
    rw [admits, htools]
    rfl

def editDocument : String :=
  "---\nevent: file\npattern: KEY\ntool_matcher: \"Edit|Write\"\n---\nNo keys."

def listDocument : String :=
  "---\ntool_matcher:\n  - Bash\n---\n"

theorem admits_editDocument :
    (∃ r, ofText editDocument none = .ok r ∧
      (Document.ofText editDocument).metadata.find? "tool_matcher" = some (.scalar "Edit|Write") ∧
      r.admits "Read" = false ∧ ∀ e files, e.toolName = "Read" → r.fires e files = pure false) ∧
    ∃ r, ofText listDocument none = .ok r ∧ r.admits "Bash" = true := by
  obtain ⟨edit, hedit⟩ := ofText_isOk_iff.mpr
    (show (Document.ofText editDocument).metadata.isEmpty = false by decide +kernel)
  obtain ⟨list, hlist⟩ := ofText_isOk_iff.mpr
    (show (Document.ofText listDocument).metadata.isEmpty = false by decide +kernel)
  have hnames : (Document.ofText editDocument).metadata.find? "tool_matcher" =
      some (.scalar "Edit|Write") := by
    decide +kernel
  refine ⟨⟨edit, hedit, hnames, ?_⟩, list, hlist, ?_⟩
  · exact (admits_of_ofText hedit).1 _ _ hnames (by decide) (by decide) (by decide)
  · exact (admits_of_ofText hlist).2 [.scalar "Bash"] (by decide +kernel) "Bash"

/-- The rule with a list of one tool is for other tools as well. -/
theorem admits_listDocument :
    ∃ r, ofText listDocument none = .ok r ∧
      (Document.ofText listDocument).metadata.find? "tool_matcher" = some (.list [.scalar "Bash"]) ∧
      ¬ "Read".toList <:+: "Bash".toList ∧ r.admits "Read" ≠ false := by
  obtain ⟨r, hr⟩ := ofText_isOk_iff.mpr
    (show (Document.ofText listDocument).metadata.isEmpty = false by decide +kernel)
  have hfind : (Document.ofText listDocument).metadata.find? "tool_matcher" =
      some (.list [.scalar "Bash"]) := by
    decide +kernel
  have htools := tools?_of_ofText hr
  rw [Metadata.text?, hfind] at htools
  refine ⟨r, hr, hfind, by decide, ?_⟩
  rw [admits, htools]
  decide

/-! ### The two ways to write a pattern -/

/-- Header lines with a pattern of the rule's own. -/
def ownHeaders (event pattern : String) : List String :=
  ["event: " ++ event, "pattern: " ++ pattern]

/-- Header lines with a condition on a field. -/
def listedHeaders (event field pattern : String) : List String :=
  ["event: " ++ event, "conditions:", "  - field: " ++ field, "    pattern: " ++ pattern]

/-- The rule of header lines that give an event and conditions, perhaps by a pattern of its own. -/
def headedRule (event : EventClass) (ownPattern? : Option String) (conditions : List Condition)
    (body : String) (source : Option String) : Rule where
  name := defaultName
  enabled := true
  event := event
  ownPattern? := ownPattern?
  conditions := conditions
  action := .warn
  tools? := none
  message := String.ofList (trim body.toList)
  source? := source

/-- A field that a pattern is compared with is read back as it is written. -/
theorem patternField_plain (event : EventClass) :
    (unquote (trim event.patternField.toList) = event.patternField.toList ∧
      ',' ∉ event.patternField.toList) ∧
      '\n' ∉ event.patternField.toList ∧
        Document.Undelimited ("  - field: " ++ event.patternField).toList := by
  have hfield : event.patternField ∈ ["command", "new_text", "content"] := by
    cases event <;> simp [EventClass.patternField]
  have hplain : ∀ field ∈ ["command", "new_text", "content"],
      (unquote (trim field.toList) = field.toList ∧ ',' ∉ field.toList) ∧
        '\n' ∉ field.toList ∧ Document.Undelimited ("  - field: " ++ field).toList := by decide
  exact hplain _ hfield

section Headers

variable {event pattern : String} (hlines : '\n' ∉ (event ++ pattern).toList)

include hlines

theorem metadata_ownHeaders :
    Metadata.ofText ("\n".intercalate (ownHeaders event pattern)).toList =
      Dictionary.ofList [("event", lineValue event.toList),
        ("pattern", lineValue pattern.toList)] := by
  simp only [String.toList_append, List.mem_append, not_or] at hlines
  have hread := @ofText_blocks [(withValue "event".toList event.toList, []),
    (withValue "pattern".toList pattern.toList, [])] ?_ ?_
  · rw [List.map_cons, List.map_singleton, entryOf_lineValue (by decide),
      entryOf_lineValue (by decide)] at hread
    rw [← hread, String.toList_intercalate]
    simp [ownHeaders, withValue]
  · simp only [List.forall_mem_cons]
    exact ⟨kind_valueLine (by decide) _, kind_valueLine (by decide) _, List.forall_mem_nil _⟩
  · simp [withValue, hlines]

theorem metadata_listedHeaders (kind : EventClass) :
    Metadata.ofText ("\n".intercalate (listedHeaders event kind.patternField pattern)).toList =
      Dictionary.ofList [("event", lineValue event.toList),
        ("conditions", .list [.map (Dictionary.ofList [("field", kind.patternField),
          ("pattern", String.ofList (unquote (trim pattern.toList)))])])] := by
  simp only [String.toList_append, List.mem_append, not_or] at hlines
  obtain ⟨⟨hplain, hcomma⟩, hfield, _⟩ := patternField_plain kind
  have hcomma : ',' ∉ withValue "field".toList kind.patternField.toList := by
    simp [withValue, hcomma]
  have hpair := pair?_withValue (show ':' ∉ "field".toList by decide) kind.patternField.toList
  rw [hplain, String.ofList_toList] at hpair
  have hkey : IsKey "conditions" := by decide
  have hfurther : IsKey "pattern" := by decide
  have hentry := entryOf_pairLines hkey hfurther _ pattern.toList hcomma hpair
  have hread := @ofText_blocks [(withValue "event".toList event.toList, []),
    ("conditions".toList ++ [':'], [dashLine (withValue "field".toList kind.patternField.toList),
      furtherLine (withValue "pattern".toList pattern.toList)])] ?_ ?_
  · rw [List.map_cons, List.map_singleton, entryOf_lineValue (by decide), hentry] at hread
    refine Eq.trans ?_ hread
    rw [String.toList_intercalate]
    simp [listedHeaders, withValue, dashLine, furtherLine]
  · simp only [List.forall_mem_cons]
    exact ⟨kind_valueLine (by decide) _, kind_pairLines hkey hfurther _ _, List.forall_mem_nil _⟩
  · simp [withValue, dashLine, furtherLine, hlines, hfield]

end Headers

/-! ### The rules of the two ways -/

/-- Metadata with neither a name, an action nor tools, in which nothing disables the rule. -/
theorem ofMetadata_of_unset {m : Metadata} {event : Value} (hevent : m.find? "event" = some event)
    (hunset : ∀ key ∈ ["name", "enabled", "action", "tool_matcher"], m.find? key = none)
    (body : String) (source : Option String) :
    ofMetadata m body source =
      .ok (headedRule (EventClass.ofName event.text?) (ownPatternOf? m)
        (conditionsOf m (EventClass.ofName event.text?)) body source) := by
  have htext : m.text? "event" = event.text? := by rw [Metadata.text?, hevent, Option.bind_some]
  simp only [List.forall_mem_cons] at hunset
  obtain ⟨hname, henabled, haction, htools, _⟩ := hunset
  rw [ofMetadata, Dictionary.isEmpty_of_find?_eq_some hevent, htext]
  simp only [nameOf, isEnabled, Metadata.text?, hname, henabled, haction, htools]
  rfl

section Spellings

variable (event : Value) (body : String) (source : Option String)

theorem ofMetadata_own (pattern : Value) (hne : pattern.text? ≠ some "") :
    ofMetadata (Dictionary.ofList [("event", event), ("pattern", pattern)]) body source =
      .ok (headedRule (EventClass.ofName event.text?) pattern.text?
        (pattern.text?.toList.map (⟨(EventClass.ofName event.text?).patternField, .regexMatch, ·⟩))
        body source) := by
  obtain ⟨m, hm⟩ : ∃ m, m = Dictionary.ofList [("event", event), ("pattern", pattern)] := ⟨_, rfl⟩
  have hfind : ∀ key, m.find? key =
      if key = "pattern" then some pattern else if key = "event" then some event else none :=
    fun key => hm ▸ Dictionary.find?_ofList_pair "event" "pattern" key event pattern
  have hpattern : ownPatternOf? m = pattern.text? := by
    rw [ownPatternOf?, Metadata.text?, hfind, if_pos rfl, Option.bind_some]
    cases htext : pattern.text? with
    | none => rfl
    | some text => simpa [htext] using hne
  -- Nothing is listed, so the pattern, if it is a text, makes the only condition.
  have hlisted : listedConditions m = [] := by simp [listedConditions, hfind]
  rw [← hm, ofMetadata_of_unset ((hfind "event").trans rfl) (by simp [hfind]), hpattern,
    conditionsOf, hlisted, hpattern]
  cases pattern.text? <;> rfl

theorem ofMetadata_listed (field pattern : String) :
    ofMetadata (Dictionary.ofList [("event", event), ("conditions",
        .list [.map (Dictionary.ofList [("field", field), ("pattern", pattern)])])]) body source =
      .ok (headedRule (EventClass.ofName event.text?) none
        [⟨field, .regexMatch, pattern⟩] body source) := by
  obtain ⟨m, hm⟩ : ∃ m, m = Dictionary.ofList
      [("event", event), ("conditions",
        .list [.map (Dictionary.ofList [("field", field), ("pattern", pattern)])])] := ⟨_, rfl⟩
  have hfind : ∀ key, m.find? key =
      if key = "conditions" then
        some (.list [.map (Dictionary.ofList [("field", field), ("pattern", pattern)])])
      else if key = "event" then some event else none :=
    fun key => hm ▸ Dictionary.find?_ofList_pair "event" "conditions" key event _
  have hpattern : ownPatternOf? m = none := by simp [ownPatternOf?, Metadata.text?, hfind]
  have hlisted : listedConditions m = [⟨field, .regexMatch, pattern⟩] := by
    simp [listedConditions, hfind, Value.items?, Item.map?, conditionOf, Operator.ofName,
      Dictionary.find?_ofList_pair]
  rw [← hm, ofMetadata_of_unset ((hfind "event").trans rfl) (by simp [hfind]), hpattern,
    conditionsOf, hlisted]

end Spellings

/-! ### Documents -/

theorem undelimited_append_blank {lead text : String} (before : List Char)
    (hlead : lead.toList = before ++ [' ']) (hbefore : Document.Undelimited before)
    (htext : Document.Undelimited text.toList) : Document.Undelimited (lead ++ text).toList := by
  rw [String.toList_append, hlead, List.append_assoc, List.singleton_append]
  exact Document.Undelimited.append_cons (by decide) hbefore htext

section Documents

variable {event pattern bare : String} (hlines : '\n' ∉ (event ++ pattern).toList)
  (hevent : Document.Undelimited event.toList) (hpattern : Document.Undelimited pattern.toList)
  (hbare : IsBareOf bare.toList (trim pattern.toList)) (body : String) (source : Option String)

include hlines hevent hpattern hbare

theorem ofText_ownHeaders (hne : bare ≠ "") :
    ofText (Document.headed (ownHeaders event pattern) body) source =
      .ok (headedRule (EventClass.ofName (lineValue event.toList).text?)
        (if isTruthWord bare.toList then none else some bare)
        (if isTruthWord bare.toList then []
          else
            [⟨(EventClass.ofName (lineValue event.toList).text?).patternField, .regexMatch, bare⟩])
        (String.ofList (trim body.toList)) source) := by
  have hunset : (lineValue pattern.toList).text? ≠ some "" := by
    rw [text?_lineValue hbare hne]
    split_ifs <;> simp [hne]
  have hheaders : ∀ line ∈ ownHeaders event pattern, Document.Undelimited line.toList := by
    simp only [ownHeaders, List.forall_mem_cons]
    exact ⟨undelimited_append_blank "event:".toList (by decide) (by decide) hevent,
      undelimited_append_blank "pattern:".toList (by decide) (by decide) hpattern,
      List.forall_mem_nil _⟩
  rw [ofText, Document.ofText_headed_of_undelimited hheaders, metadata_ownHeaders hlines,
    ofMetadata_own _ _ _ _ hunset, text?_lineValue hbare hne]
  split_ifs <;> rfl

theorem ofText_listedHeaders (kind : EventClass) :
    ofText (Document.headed (listedHeaders event kind.patternField pattern) body) source =
      .ok (headedRule (EventClass.ofName (lineValue event.toList).text?) none
        [⟨kind.patternField, .regexMatch, bare⟩] (String.ofList (trim body.toList)) source) := by
  have hheaders : ∀ line ∈ listedHeaders event kind.patternField pattern,
      Document.Undelimited line.toList := by
    simp only [listedHeaders, List.forall_mem_cons]
    exact ⟨undelimited_append_blank "event:".toList (by decide) (by decide) hevent, by decide,
      (patternField_plain kind).2.2,
      undelimited_append_blank "    pattern:".toList (by decide) (by decide) hpattern,
      List.forall_mem_nil _⟩
  rw [ofText, Document.ofText_headed_of_undelimited hheaders, metadata_listedHeaders hlines,
    ofMetadata_listed, isBareOf_iff.mp hbare, String.ofList_toList]

end Documents

/-- A pattern makes the same condition in both ways unless it is a truth value. Then the rule with
the pattern of its own has no conditions and never fires. -/
theorem conditions_ownHeaders_eq_iff (event pattern bare body : String) (source : Option String)
    (hlines : '\n' ∉ (event ++ pattern).toList) (hevent : ¬ "---".toList <:+: event.toList)
    (hpattern : ¬ "---".toList <:+: pattern.toList)
    (hbare : IsBareOf bare.toList (trim pattern.toList)) (hne : bare ≠ "") :
    ∃ own listed : Rule,
      ofText (Document.headed (ownHeaders event pattern) body) source = .ok own ∧
      ofText (Document.headed (listedHeaders event own.event.patternField pattern) body) source =
        .ok listed ∧
      listed.conditions = [⟨own.event.patternField, .regexMatch, bare⟩] ∧
      (own.conditions = listed.conditions ↔
        isWord "true" bare.toList = false ∧ isWord "false" bare.toList = false) ∧
      (own.conditions = listed.conditions → ∀ e files, own.fires e files = listed.fires e files) ∧
      (own.conditions ≠ listed.conditions →
        own.conditions = [] ∧ ∀ e files, own.fires e files = pure false) := by
  refine ⟨_, _, ofText_ownHeaders hlines hevent hpattern hbare body source hne,
    ofText_listedHeaders hlines hevent hpattern hbare body source _, rfl, ?_⟩
  rw [← Bool.or_eq_false_iff, ← isTruthWord]
  cases htruth : isTruthWord bare.toList with
  | true =>
      refine ⟨by simp [headedRule], fun h => absurd h (by simp [headedRule]), fun _ => ⟨rfl, ?_⟩⟩
      exact fun e files => fires_eq_pure_false (.inr rfl) files
  | false => exact ⟨by simp [headedRule], fun _ e files => rfl, fun h => absurd rfl h⟩

/-- A pattern with a colon, a comma and two quotes. -/
def pairPattern : String := " \"a: b, c'"

theorem conditions_ownHeaders_pairPattern :
    ('\n' ∉ ("'bash'\r" ++ pairPattern).toList ∧ ¬ "---".toList <:+: "'bash'\r".toList ∧
        ¬ "---".toList <:+: pairPattern.toList ∧
        IsBareOf "a: b, c".toList (trim pairPattern.toList) ∧
        "a: b, c" ≠ "") ∧
      ∃ own listed,
        ofText (Document.headed (ownHeaders "'bash'\r" pairPattern) "No.") none = .ok own ∧
        ofText (Document.headed (listedHeaders "'bash'\r" "command" pairPattern) "No.") none =
          .ok listed ∧
        own.conditions = [⟨"command", .regexMatch, "a: b, c"⟩] ∧
        ∀ e files, own.fires e files = listed.fires e files := by
  have hpair : IsBareOf "a: b, c".toList (trim pairPattern.toList) := isBareOf_iff.mpr (by decide)
  refine ⟨⟨by decide, by decide, by decide, hpair, by decide⟩, ?_⟩
  obtain ⟨own, listed, hown, hlisted, hconditions, hiff, hfires, _⟩ := conditions_ownHeaders_eq_iff
    "'bash'\r" pairPattern "a: b, c" "No." none (by decide) (by decide) (by decide) hpair
      (by decide)
  have hsame := hiff.mpr (by decide)
  have hbash : (ofText
      (Document.headed (ownHeaders "'bash'\r" pairPattern) "No.") none).toOption.map
      Rule.event = some .bash := by decide +kernel
  rw [hown] at hbash
  have hevent : own.event = .bash := Option.some.inj hbash
  rw [hevent] at hlisted hconditions
  exact ⟨own, listed, hown, hlisted, hsame.trans hconditions, hfires hsame⟩

theorem conditions_ownHeaders_true :
    ∃ own listed, ofText (Document.headed (ownHeaders "bash" "true") "No.") none = .ok own ∧
      ofText (Document.headed (listedHeaders "bash" "command" "true") "No.") none = .ok listed ∧
      own.conditions ≠ listed.conditions :=
  ⟨headedRule .bash none [] "No." none, headedRule .bash none [⟨"command", .regexMatch, "true"⟩]
    "No." none, by decide +kernel, by decide +kernel, by decide⟩

end Rule

end RuleGate
