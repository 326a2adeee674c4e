import RuleGate.Proofs.DocumentParts
import RuleGate.Proofs.MetadataRoundTrip
import RuleGate.Rule.Reader

/-! Rules written as documents and read back. Every rule that a document holds has what it takes:
texts that stay on one line of a metadata block, names that stand for what they name, conditions
wherever there is a pattern of its own, and a trimmed message. -/

namespace RuleGate

open Text Metadata

/-! ### Names -/

/-- A kind of event has the name that it was given, or it is the one that none was given for. -/
theorem EventClass.ofName_eq (name : Option String) :
    EventClass.ofName name = .all ∨ name = some (EventClass.ofName name).name := by
  cases name with
  | none => exact Or.inl rfl
  | some name =>
      rw [ofName, Option.getD_some]
      split
      · exact Or.inl rfl
      all_goals exact Or.inr rfl

theorem EventClass.ofName_name_ofName (name : Option String) :
    EventClass.ofName (some (EventClass.ofName name).name) = EventClass.ofName name := by
  rcases ofName_eq name with h | h
  · rw [h]
    rfl
  · rw [← h]

/-- An operator has the name that it was given, or it is the one that none was given for. -/
theorem Operator.ofName_eq (name : Option String) :
    Operator.ofName name = .regexMatch ∨ name = some (Operator.ofName name).name := by
  cases name with
  | none => exact Or.inl rfl
  | some name =>
      rw [ofName, Option.getD_some]
      split
      · exact Or.inl rfl
      all_goals exact Or.inr rfl

theorem Operator.ofName_name_ofName (name : Option String) :
    Operator.ofName (some (Operator.ofName name).name) = Operator.ofName name := by
  rcases ofName_eq name with h | h
  · rw [h]
    rfl
  · rw [← h]

theorem Action.ofName_name (action : Action) : Action.ofName (some action.name) = action := by
  cases action <;> rfl

/-! ### Rules that can be written -/

/-- Texts that can stand between quotes in a metadata block. -/
def IsHeaderText (text : String) : Prop :=
  '\n' ∉ text.toList ∧ Document.Undelimited text.toList

instance (text : String) : Decidable (IsHeaderText text) :=
  inferInstanceAs (Decidable ('\n' ∉ text.toList ∧ Document.Undelimited text.toList))

/-- Texts that, between quotes, are read back as scalars. -/
structure IsHeaderScalar (text : String) : Prop where
  header : IsHeaderText text
  scalar : (Value.scalar text).Representable

/-- The keys of a condition with their texts, in the order in which they are written. -/
def Condition.pairs (c : Condition) : List (String × String) :=
  [("operator", c.operator.name), ("field", c.field), ("pattern", c.pattern)]

/-- Conditions whose operator is the one of its name, and whose texts can stand in a metadata
block. -/
structure Condition.Writable (c : Condition) : Prop where
  operator : Operator.ofName (some c.operator.name) = c.operator
  texts : ∀ pair ∈ c.pairs, IsHeaderText pair.2

/-- What all rules have that documents hold. A name `true` comes back through a truth value, so it
may be one; every other text that a key holds may not. -/
structure Rule.Writable (r : Rule) : Prop where
  name : r.name = "true" ∨ r.name ≠ "" ∧ IsHeaderScalar r.name
  event : EventClass.ofName (some r.event.name) = r.event
  eventName : IsHeaderScalar r.event.name
  ownPattern : ∀ pattern, r.ownPattern? = some pattern →
    pattern ≠ "" ∧ IsHeaderScalar pattern ∧ r.conditions ≠ []
  tools : ∀ names, r.tools? = some names → IsHeaderScalar names
  conditions : ∀ c ∈ r.conditions, c.Writable
  message : trim r.message.toList = r.message.toList
  source : r.source? = none

/-! ### What is read can be written -/

/-- Metadata that is read from a text without a delimiter. -/
structure Metadata.IsHeader (m : Metadata) : Prop where
  representable : m.Representable
  texts : ∀ text ∈ m.texts, IsHeaderText text

theorem Metadata.isHeader_ofText {block : List Char} (h : Document.Undelimited block) :
    (Metadata.ofText block).IsHeader := by
  have hrepresentable := representable_ofText block
  refine ⟨hrepresentable, ?_⟩
  intro text htext
  refine ⟨hrepresentable.oneLine text htext, ?_⟩
  rw [Metadata.ofText, Scan.close_foldl_readLine] at htext
  obtain ⟨line, hline, hpart⟩ := of_mem_texts_ofBlocks htext
  exact h.of_isInfix (hpart.trans (of_mem_lines hline).1)

theorem Metadata.IsHeader.of_text? {m : Metadata} (h : m.IsHeader) {key text : String}
    (hfound : m.text? key = some text) : IsHeaderScalar text := by
  obtain ⟨value, hvalue, htext⟩ := Option.bind_eq_some_iff.mp hfound
  have hentry := Dictionary.find?_eq_some_iff.mp hvalue
  cases value with
  | scalar other =>
      obtain rfl : other = text := Option.some.inj htext
      refine ⟨h.texts other (List.mem_flatMap.mpr ⟨_, hentry, ?_⟩), h.representable.values _ hentry⟩
      exact List.mem_cons_of_mem _ List.mem_cons_self
  | bool value => exact absurd htext (by simp [Value.text?])
  | list items => exact absurd htext (by simp [Value.text?])

/-- The value under a key of a map in a list, or else the empty text, can stand in a header. -/
theorem Metadata.IsHeader.of_map {m : Metadata} (h : m.IsHeader) {key : String} {items : List Item}
    (hlist : m.find? key = some (.list items)) {pairs : Dictionary String}
    (hmap : .map pairs ∈ items) (part : String) : IsHeaderText ((pairs.find? part).getD "") := by
  cases hfound : pairs.find? part with
  | none => exact show IsHeaderText "" by decide
  | some value =>
      have hentry := Dictionary.find?_eq_some_iff.mp hlist
      have hpair := Dictionary.find?_eq_some_iff.mp hfound
      refine h.texts value (List.mem_flatMap.mpr ⟨_, hentry, List.mem_cons_of_mem _ ?_⟩)
      exact List.mem_flatMap.mpr ⟨_, hmap, List.mem_flatMap.mpr ⟨_, hpair, by simp⟩⟩

namespace Rule

theorem isHeaderText_name_ofName {name : Option String} (h : IsHeaderText (name.getD "")) :
    IsHeaderText (Operator.ofName name).name := by
  rcases Operator.ofName_eq name with heq | heq
  · rw [heq]
    decide
  · rw [heq] at h
    exact h

theorem nameOf_writable {m : Metadata} (h : m.IsHeader) :
    nameOf m = "true" ∨ nameOf m ≠ "" ∧ IsHeaderScalar (nameOf m) := by
  have hdefault : defaultName ≠ "" ∧ IsHeaderScalar defaultName :=
    ⟨by decide, by decide, by decide⟩
  rw [nameOf]
  split
  · rename_i text hfound
    have htext : m.text? "name" = some text := by rw [text?, hfound]; rfl
    split_ifs with hempty
    · exact Or.inr hdefault
    · exact Or.inr ⟨hempty, h.of_text? htext⟩
  · exact Or.inl rfl
  · exact Or.inr hdefault

theorem mem_listedConditions {m : Metadata} {c : Condition} (hc : c ∈ listedConditions m) :
    ∃ items pairs, m.find? "conditions" = some (.list items) ∧ .map pairs ∈ items ∧
      c = conditionOf pairs := by
  obtain ⟨item, hitem, hcondition⟩ := List.mem_filterMap.mp hc
  cases hfound : m.find? "conditions" with
  | none => simp [hfound] at hitem
  | some value =>
      rw [hfound] at hitem
      cases value with
      | list items =>
          cases item with
          | scalar text => simp [Item.map?] at hcondition
          | map pairs => exact ⟨items, pairs, rfl, hitem, (Option.some.inj hcondition).symm⟩
      | scalar text => simp [Value.items?] at hitem
      | bool value => simp [Value.items?] at hitem

theorem listedConditions_writable {m : Metadata} (h : m.IsHeader) :
    ∀ c ∈ listedConditions m, c.Writable := by
  intro c hc
  obtain ⟨items, pairs, hlist, hmap, rfl⟩ := mem_listedConditions hc
  refine ⟨Operator.ofName_name_ofName _, ?_⟩
  intro pair hpair
  simp only [Condition.pairs, List.mem_cons, List.not_mem_nil, or_false] at hpair
  rcases hpair with rfl | rfl | rfl
  · exact isHeaderText_name_ofName (h.of_map hlist hmap "operator")
  · exact h.of_map hlist hmap "field"
  · exact h.of_map hlist hmap "pattern"

theorem of_ownPatternOf? {m : Metadata} {pattern : String} (h : ownPatternOf? m = some pattern) :
    m.text? "pattern" = some pattern ∧ pattern ≠ "" := by
  obtain ⟨hfound, hne⟩ := Option.filter_eq_some_iff.mp h
  exact ⟨hfound, by simpa using hne⟩

theorem conditionsOf_writable {m : Metadata} (h : m.IsHeader) (event : EventClass) :
    ∀ c ∈ conditionsOf m event, c.Writable := by
  have hfield : IsHeaderText event.patternField := by
    unfold EventClass.patternField
    split <;> decide
  intro c hc
  rw [conditionsOf] at hc
  split at hc
  · rename_i pattern _ hpattern
    obtain ⟨hfound, _⟩ := of_ownPatternOf? hpattern
    rw [List.mem_singleton.mp hc]
    refine ⟨rfl, ?_⟩
    intro pair hpair
    simp only [Condition.pairs, List.mem_cons, List.not_mem_nil, or_false] at hpair
    rcases hpair with rfl | rfl | rfl
    · exact show IsHeaderText "regex_match" by decide
    · exact hfield
    · exact (h.of_text? hfound).header
  · exact listedConditions_writable h c hc

theorem conditionsOf_ne_nil {m : Metadata} {pattern : String} (h : ownPatternOf? m = some pattern)
    (event : EventClass) : conditionsOf m event ≠ [] := by
  rw [conditionsOf, h]
  cases listedConditions m with
  | nil => simp
  | cons c rest => simp

theorem ofText_eq_ok_iff {content : String} {r : Rule} :
    ofText content none = .ok r ↔
    ∃ block body, Document.split? content.toList = some (block, body) ∧
      ofMetadata (Metadata.ofText block) (String.ofList (trim body)) none = .ok r := by
  rw [ofText, Document.ofText]
  cases hsplit : Document.split? content.toList with
  | none =>
      have hempty : ofMetadata Dictionary.empty content none =
          .error (.malformedRule inlinePath "missing frontmatter") := rfl
      simp [hempty]
  | some parts =>
      obtain ⟨block, body⟩ := parts
      simp

theorem ofMetadata_writable {m : Metadata} (h : m.IsHeader) {body : String} {r : Rule}
    (hr : ofMetadata m body none = .ok r) : r.Writable := by
  rw [ofMetadata] at hr
  split_ifs at hr
  rw [Except.ok.injEq] at hr
  subst hr
  constructor
  case name => exact nameOf_writable h
  case event => exact EventClass.ofName_name_ofName _
  case eventName =>
    rcases EventClass.ofName_eq (m.text? "event") with heq | heq
    · rw [heq]
      exact show IsHeaderScalar "all" from ⟨by decide, by decide⟩
    · exact h.of_text? heq
  case ownPattern =>
    intro pattern hpattern
    obtain ⟨hfound, hne⟩ := of_ownPatternOf? hpattern
    exact ⟨hne, h.of_text? hfound, conditionsOf_ne_nil hpattern _⟩
  case tools => exact fun names hnames => h.of_text? hnames
  case conditions => exact conditionsOf_writable h _
  case message =>
    rw [String.toList_ofList]
    exact trim_trim _
  case source => rfl

/-- A rule that a document holds can be written. -/
theorem writable_of_ofText {content : String} {r : Rule}
    (h : ofText content none = .ok r) : r.Writable := by
  obtain ⟨block, body, hsplit, hr⟩ := ofText_eq_ok_iff.mp h
  exact ofMetadata_writable (isHeader_ofText (Document.undelimited_of_split? hsplit)) hr

end Rule

/-! ### Written rules -/

/-- The lines of a condition: the one with the dash, and those behind it. -/
def Condition.written (c : Condition) : List Char × List (List Char) :=
  (dashLine "operator:".toList,
    c.pairs.map fun pair => furtherLine (withValue pair.1.toList (quoted pair.2)))

namespace Rule

/-- The keys with a value on their line, in the order in which they are written. -/
def writtenValues (r : Rule) : List (String × List Char) :=
  [("name", quoted r.name), ("enabled", (toString r.enabled).toList),
    ("event", quoted r.event.name),
      ("action", r.action.name.toList)] ++
    ((r.ownPattern?.map fun pattern => ("pattern", quoted pattern)).toList ++
      (r.tools?.map fun names => ("tool_matcher", quoted names)).toList)

/-- The lines of the metadata: those with a value, and those of the conditions. -/
def writtenBlocks (r : Rule) : List (List Char × List (List Char)) :=
  (r.writtenValues.map fun value => (withValue value.1.toList value.2, [])) ++
    if r.conditions = [] then []
    else [("conditions:".toList, (r.conditions.map Condition.written).flatMap fun group =>
      group.1 :: group.2)]

def writtenLines (r : Rule) : List (List Char) :=
  r.writtenBlocks.flatMap fun block => block.1 :: block.2

/-- The document of a rule: its metadata between delimiters, and its message. -/
def written (r : Rule) : String :=
  String.ofList (Document.delimiter ++
    (Document.blockOfLines r.writtenLines ++ Document.delimiter ++ '\n' :: r.message.toList))

/-! ### A written rule read back -/

/-- Texts that are read back as values, on a line of a metadata block. -/
structure IsValueText (text : List Char) : Prop where
  trimmed : trim text = text
  nonempty : text ≠ []
  isLine : IsLine text
  undelimited : Document.Undelimited text

theorem isValueText_quoted {text : String} (h : IsHeaderText text) : IsValueText (quoted text) := by
  refine ⟨trim_quoted text, by simp [quoted], isLine_quoted h.1, ?_⟩
  exact Document.Undelimited.cons (by decide)
    (Document.Undelimited.append_cons (by decide) h.2 (by decide))

/-- Keys that are written as they stand behind the blanks of a further line. -/
structure IsPairKey (key : String) : Prop where
  header : IsHeaderText key
  noColon : ':' ∉ key.toList
  bare : unquote (trim key.toList) = key.toList
  begins : ∃ c, key.toList.head? = some c ∧ isBlank c = false ∧ c ≠ '-' ∧ c ≠ '#'

theorem of_mem_pairs {c : Condition} {pair : String × String} (h : pair ∈ c.pairs) :
    IsPairKey pair.1 := by
  simp only [Condition.pairs, List.mem_cons, List.not_mem_nil, or_false] at h
  rcases h with rfl | rfl | rfl
  · exact show IsPairKey "operator" from ⟨by decide, by decide, by decide, 'o', by decide⟩
  · exact show IsPairKey "field" from ⟨by decide, by decide, by decide, 'f', by decide⟩
  · exact show IsPairKey "pattern" from ⟨by decide, by decide, by decide, 'p', by decide⟩

def valueKeys : List String :=
  ["name", "enabled", "event", "action", "pattern", "tool_matcher"]

theorem Writable.name_isHeaderText {r : Rule} (h : r.Writable) : IsHeaderText r.name := by
  rcases h.name with heq | ⟨_, hname⟩
  · rw [heq]
    decide
  · exact hname.header

theorem of_mem_writtenValues {r : Rule} (h : r.Writable) {value : String × List Char}
    (hvalue : value ∈ r.writtenValues) : value.1 ∈ valueKeys ∧ IsValueText value.2 := by
  simp only [writtenValues, List.mem_append, List.mem_cons, List.not_mem_nil, or_false,
    Option.mem_toList, Option.map_eq_some_iff] at hvalue
  rcases hvalue with (rfl | rfl | rfl | rfl) | ⟨pattern, hpattern, rfl⟩ | ⟨names, hnames, rfl⟩
  · exact ⟨by simp [valueKeys], isValueText_quoted h.name_isHeaderText⟩
  · refine ⟨by simp [valueKeys], ?_⟩
    cases r.enabled <;> exact ⟨rfl, by decide, by decide, by decide⟩
  · exact ⟨by simp [valueKeys], isValueText_quoted h.eventName.header⟩
  · refine ⟨by simp [valueKeys], ?_⟩
    cases r.action <;> exact ⟨rfl, by decide, by decide, by decide⟩
  · exact ⟨by simp [valueKeys], isValueText_quoted (h.ownPattern pattern hpattern).2.1.header⟩
  · exact ⟨by simp [valueKeys], isValueText_quoted (h.tools names hnames).header⟩

theorem isKey_of_mem_valueKeys : ∀ key ∈ valueKeys, IsKey key ∧ IsHeaderText key := by decide

/-! #### The lines -/

/-- Lines of a metadata block. -/
structure IsHeaderLine (line : List Char) : Prop where
  isLine : IsLine line
  undelimited : Document.Undelimited line

theorem isHeaderLine_withValue {key : String} (hkey : IsHeaderText key) {value : List Char}
    (hvalue : IsValueText value) : IsHeaderLine (withValue key.toList value) := by
  refine ⟨isLine_withValue hkey.1 hvalue.isLine hvalue.nonempty, ?_⟩
  exact Document.Undelimited.append_cons (by decide) hkey.2
    (Document.Undelimited.cons (by decide) hvalue.undelimited)

theorem isHeaderLine_furtherLine {line : List Char} (h : IsHeaderLine line) (hne : line ≠ []) :
    IsHeaderLine (furtherLine line) := by
  refine ⟨IsLine.append (by decide) h.isLine hne, ?_⟩
  have hcons : ∀ text, Document.Undelimited text → Document.Undelimited (' ' :: text) :=
    fun text htext => Document.Undelimited.cons (by decide) htext
  exact hcons _ (hcons _ (hcons _ (hcons _ h.undelimited)))

theorem isHeaderLine_of_mem_condition {c : Condition} (h : c.Writable) :
    ∀ line ∈ c.written.1 :: c.written.2, IsHeaderLine line := by
  intro line hline
  rcases List.mem_cons.mp hline with rfl | hline
  · exact show IsHeaderLine (dashLine "operator:".toList) from ⟨by decide, by decide⟩
  · obtain ⟨pair, hpair, rfl⟩ := List.mem_map.mp hline
    have hkey := (of_mem_pairs hpair).header
    exact isHeaderLine_furtherLine
      (isHeaderLine_withValue hkey (isValueText_quoted (h.texts pair hpair)))
      (by simp [withValue])

theorem isHeaderLine_of_mem_writtenLines {r : Rule} (h : r.Writable) :
    ∀ line ∈ r.writtenLines, IsHeaderLine line := by
  intro line hline
  obtain ⟨block, hblock, hmem⟩ := List.mem_flatMap.mp hline
  rcases List.mem_append.mp hblock with hblock | hblock
  · obtain ⟨value, hvalue, rfl⟩ := List.mem_map.mp hblock
    obtain ⟨hkey, htext⟩ := of_mem_writtenValues h hvalue
    rw [List.mem_singleton.mp hmem]
    exact isHeaderLine_withValue (isKey_of_mem_valueKeys _ hkey).2 htext
  · split_ifs at hblock
    · exact absurd hblock List.not_mem_nil
    · rw [List.mem_singleton.mp hblock] at hmem
      rcases List.mem_cons.mp hmem with rfl | hmem
      · exact show IsHeaderLine "conditions:".toList from ⟨by decide, by decide⟩
      · obtain ⟨group, hgroup, hmem⟩ := List.mem_flatMap.mp hmem
        obtain ⟨c, hc, rfl⟩ := List.mem_map.mp hgroup
        exact isHeaderLine_of_mem_condition (h.conditions c hc) line hmem

theorem IsPairKey.pair?_withValue {key : String} (h : IsPairKey key) (text : String) :
    pair? (withValue key.toList (quoted text)) = some (key, text) := by
  rw [pair?_withValue_quoted h.noColon, h.bare, String.ofList_toList]

theorem kind_condition (c : Condition) :
    AreFurther (c.written.1 :: c.written.2) ∧ isDashLine c.written.1 = true ∧
      ∀ line ∈ c.written.2, isDashLine line = false := by
  refine kind_group "operator:".toList fun line hline => ?_
  obtain ⟨pair, hpair, rfl⟩ := List.mem_map.mp hline
  have hkey := of_mem_pairs hpair
  obtain ⟨first, hhead, hblank, hdash, hhash⟩ := hkey.begins
  have hfirst : (withValue pair.1.toList (quoted pair.2)).head? = some first := by
    rw [withValue, List.head?_append, hhead, Option.some_or]
  exact kind_furtherLine hfirst hblank hdash hhash

theorem kind_writtenBlocks {r : Rule} (h : r.Writable) :
    ∀ block ∈ r.writtenBlocks, (isContent block.1 = true ∧ isKeyLine block.1 = true) ∧
      AreFurther block.2 := by
  intro block hblock
  rcases List.mem_append.mp hblock with hblock | hblock
  · obtain ⟨value, hvalue, rfl⟩ := List.mem_map.mp hblock
    obtain ⟨hkey, _⟩ := of_mem_writtenValues h hvalue
    exact ⟨kind_keyLine (isKey_of_mem_valueKeys _ hkey).1 _, by simp [AreFurther]⟩
  · split_ifs at hblock
    · exact absurd hblock List.not_mem_nil
    · rw [List.mem_singleton.mp hblock]
      refine ⟨⟨rfl, rfl⟩, ?_⟩
      intro line hline
      obtain ⟨group, hgroup, hmem⟩ := List.mem_flatMap.mp hline
      obtain ⟨c, _, rfl⟩ := List.mem_map.mp hgroup
      exact (kind_condition c).1 line hmem

/-! #### The values -/

/-- A condition that is written is read back. -/
theorem itemOf_condition {c : Condition} (h : c.Writable) :
    (itemOf c.written).map?.map conditionOf = some c := by
  have hpairs :=
    filterMap_furtherLine fun pair hpair => (of_mem_pairs (c := c) hpair).pair?_withValue pair.2
  have hseed : pair? "operator:".toList = some ("operator", "") := by decide
  rw [Condition.written, itemOf_map (by decide) hseed, hpairs, Condition.pairs]
  simp [Item.map?, conditionOf, Dictionary.find?_ofList, Dictionary.lookup_cons_eq_ite, h.operator]

/-- What is read from the lines of a rule. -/
def writtenEntries (r : Rule) : List (String × Value) :=
  (r.writtenValues.map fun value => (value.1, Value.ofText value.2)) ++
    if r.conditions = [] then []
    else [("conditions", .list (r.conditions.map fun c => itemOf c.written))]

theorem map_entryOf_writtenBlocks {r : Rule} (h : r.Writable) :
    r.writtenBlocks.map entryOf = r.writtenEntries := by
  have hvalues : (r.writtenValues.map fun value =>
      (withValue value.1.toList value.2, [])).map entryOf =
      r.writtenValues.map fun value => (value.1, Value.ofText value.2) := by
    rw [List.map_map]
    refine List.map_congr_left fun value hvalue => ?_
    obtain ⟨hkey, htext⟩ := of_mem_writtenValues h hvalue
    exact entryOf_withValue (isKey_of_mem_valueKeys _ hkey).1 htext.trimmed htext.nonempty []
  have hgroups : ∀ g ∈ r.conditions.map Condition.written,
      isDashLine g.1 = true ∧ ∀ line ∈ g.2, isDashLine line = false := by
    intro g hg
    obtain ⟨c, _, rfl⟩ := List.mem_map.mp hg
    exact (kind_condition c).2
  have hlist := entryOf_list (show IsKey "conditions" by decide) hgroups
  rw [List.map_map] at hlist
  rw [writtenBlocks, writtenEntries, List.map_append, hvalues]
  split_ifs
  · rfl
  · rw [List.map_singleton]
    exact congrArg (_ ++ [·]) hlist

theorem nodup_keys_writtenEntries (r : Rule) : (r.writtenEntries.map Prod.fst).Nodup := by
  have hkeys : (r.writtenEntries.map Prod.fst).Sublist (valueKeys ++ ["conditions"]) := by
    rw [writtenEntries, List.map_append, List.map_map]
    refine List.Sublist.append ?_ ?_
    · rw [writtenValues, List.map_append, List.map_append]
      refine List.Sublist.append (List.Sublist.refl ["name", "enabled", "event", "action"]) ?_
      refine @List.Sublist.append _ _ ["pattern"] _ ["tool_matcher"] ?_ ?_
      · cases r.ownPattern? <;> simp
      · cases r.tools? <;> simp
    · split_ifs <;> simp
  exact hkeys.nodup (by decide)

/-- The metadata that is read from the lines of a rule. -/
def writtenMetadata (r : Rule) : Metadata :=
  Dictionary.ofList r.writtenEntries

theorem find?_writtenMetadata {r : Rule} {key : String} {value : Value} :
    r.writtenMetadata.find? key = some value ↔ (key, value) ∈ r.writtenEntries :=
  Dictionary.find?_ofList_eq_some_iff r.nodup_keys_writtenEntries

theorem find?_writtenMetadata_eq_none {r : Rule} {key : String}
    (h : ∀ value, (key, value) ∉ r.writtenEntries) : r.writtenMetadata.find? key = none := by
  rw [Option.eq_none_iff_forall_ne_some]
  intro value hvalue
  exact h value (find?_writtenMetadata.mp hvalue)

/-- A text that is written between quotes, if there is one, is found again. -/
theorem text?_writtenMetadata {r : Rule} {key : String} {text? : Option String}
    (htext : ∀ text, text? = some text → (Value.scalar text).Representable)
    (hmem : ∀ value, (key, value) ∈ r.writtenEntries ↔
      ∃ text, text? = some text ∧ value = Value.ofText (quoted text)) :
    r.writtenMetadata.text? key = text? := by
  cases text? with
  | none =>
      have hnone : r.writtenMetadata.find? key = none := by
        apply find?_writtenMetadata_eq_none
        intro value hvalue
        obtain ⟨_, hsome, _⟩ := (hmem value).mp hvalue
        exact absurd hsome (by simp)
      rw [Metadata.text?, hnone]
      rfl
  | some text =>
      have hfound := find?_writtenMetadata.mpr ((hmem _).mpr ⟨text, rfl, rfl⟩)
      rw [Metadata.text?, hfound, Value.ofText_quoted (htext text rfl)]
      rfl

section ReadBack

variable {r : Rule}

theorem find?_name : r.writtenMetadata.find? "name" = some (Value.ofText (quoted r.name)) :=
  find?_writtenMetadata.mpr (by simp [writtenEntries, writtenValues])

theorem isEnabled_writtenMetadata : isEnabled r.writtenMetadata = r.enabled := by
  have hfound : r.writtenMetadata.find? "enabled" =
      some (Value.ofText (toString r.enabled).toList) :=
    find?_writtenMetadata.mpr (by simp [writtenEntries, writtenValues])
  rw [isEnabled, hfound, Value.ofText_toString]
  cases r.enabled <;> rfl

theorem ofName_action : Action.ofName (r.writtenMetadata.text? "action") = r.action := by
  have hscalar : Value.ofText r.action.name.toList = .scalar r.action.name := by
    cases r.action <;> decide
  have hfound : r.writtenMetadata.find? "action" = some (Value.ofText r.action.name.toList) :=
    find?_writtenMetadata.mpr (by simp [writtenEntries, writtenValues])
  rw [Metadata.text?, hfound, hscalar]
  exact Action.ofName_name r.action

variable (h : r.Writable)

include h

theorem nameOf_writtenMetadata : nameOf r.writtenMetadata = r.name := by
  rw [nameOf, find?_name]
  rcases h.name with heq | ⟨hne, hname⟩
  · rw [heq]
    rfl
  · rw [Value.ofText_quoted hname.scalar]
    exact if_neg hne

theorem ofName_event : EventClass.ofName (r.writtenMetadata.text? "event") = r.event := by
  have htext : r.writtenMetadata.text? "event" = some r.event.name := by
    refine text?_writtenMetadata ?_ (by simp [writtenEntries, writtenValues])
    intro text htext
    rw [← Option.some.inj htext]
    exact h.eventName.scalar
  rw [htext, h.event]

theorem ownPatternOf?_writtenMetadata : ownPatternOf? r.writtenMetadata = r.ownPattern? := by
  have htext : r.writtenMetadata.text? "pattern" = r.ownPattern? := by
    refine text?_writtenMetadata
      (fun pattern hpattern => (h.ownPattern pattern hpattern).2.1.scalar) ?_
    simp [writtenEntries, writtenValues, eq_comm]
  rw [ownPatternOf?, htext]
  cases hpattern : r.ownPattern? with
  | none => rfl
  | some pattern =>
      have hne : (pattern != "") = true := by simpa using (h.ownPattern pattern hpattern).1
      rw [Option.filter_some, if_pos hne]

theorem tools?_writtenMetadata : r.writtenMetadata.text? "tool_matcher" = r.tools? := by
  refine text?_writtenMetadata (fun names hnames => (h.tools names hnames).scalar) ?_
  simp [writtenEntries, writtenValues, eq_comm]

theorem listedConditions_writtenMetadata : listedConditions r.writtenMetadata = r.conditions := by
  by_cases hconditions : r.conditions = []
  · have hnone : r.writtenMetadata.find? "conditions" = none :=
      find?_writtenMetadata_eq_none (by simp [writtenEntries, writtenValues, hconditions])
    rw [listedConditions, hnone, hconditions]
    rfl
  · have hfound : r.writtenMetadata.find? "conditions" =
        some (.list (r.conditions.map fun c => itemOf c.written)) :=
      find?_writtenMetadata.mpr (by simp [writtenEntries, writtenValues, hconditions])
    rw [listedConditions, hfound]
    simp only [Option.bind_some, Value.items?, Option.getD_some, List.filterMap_map]
    refine (List.filterMap_congr ?_).trans List.filterMap_some
    intro c hc
    exact itemOf_condition (h.conditions c hc)

theorem conditionsOf_writtenMetadata (event : EventClass) :
    conditionsOf r.writtenMetadata event = r.conditions := by
  rw [conditionsOf, listedConditions_writtenMetadata h, ownPatternOf?_writtenMetadata h]
  split
  · rename_i pattern hnone hpattern
    exact absurd hnone (h.ownPattern pattern hpattern).2.2
  · rfl

/-- The metadata of a rule with its message makes the rule. -/
theorem ofMetadata_writtenMetadata {body : String} (hbody : trim body.toList = r.message.toList) :
    ofMetadata r.writtenMetadata body none = .ok r := by
  rw [ofMetadata, Dictionary.isEmpty_of_find?_eq_some find?_name]
  simp only [Bool.false_eq_true, if_false, nameOf_writtenMetadata h, isEnabled_writtenMetadata,
    ofName_event h, ownPatternOf?_writtenMetadata h, conditionsOf_writtenMetadata h, ofName_action,
    tools?_writtenMetadata h, hbody, String.ofList_toList, ← h.source]

end ReadBack

/-- A rule that can be written is read back from its document. -/
theorem ofText_written {r : Rule} (h : r.Writable) : ofText r.written none = .ok r := by
  have hlines := isHeaderLine_of_mem_writtenLines h
  have hsplit := Document.split?_blockOfLines (fun line hline => (hlines line hline).undelimited)
    ('\n' :: r.message.toList)
  have hmetadata : Metadata.ofText (Document.blockOfLines r.writtenLines) = r.writtenMetadata := by
    rw [Metadata.ofText, Scan.close_foldl_readLine,
      Document.lines_blockOfLines fun line hline => (hlines line hline).isLine, writtenMetadata,
      ← map_entryOf_writtenBlocks h, ← ofBlocks_flatMap (kind_writtenBlocks h)]
    rfl
  have hmessage :
      trim (String.ofList (trim ('\n' :: r.message.toList))).toList = r.message.toList := by
    rw [String.toList_ofList, trim_trim, trim_cons_of_blank (by decide), h.message]
  refine ofText_eq_ok_iff.mpr
    ⟨Document.blockOfLines r.writtenLines, '\n' :: r.message.toList, ?_, ?_⟩
  · rw [written, String.toList_ofList]
    exact hsplit
  · rw [hmetadata]
    exact ofMetadata_writtenMetadata h hmessage

/-- A rule that a document holds is read back from the document that it is written to. -/
theorem ofText_written_of_ofText {content : String} {r : Rule} (h : ofText content none = .ok r) :
    ofText r.written none = .ok r :=
  ofText_written (writable_of_ofText h)

/-- A document with a name that is a truth value, an event and an operator that are not known, a
pattern beside a list of conditions, and a delimiter in its message. -/
def unquotedDocument : String :=
  "---\nname: TRUE\nenabled: False\nevent: deploy\naction: block\npattern: rm -rf\n" ++
    "conditions:\n- field: command, operator: resembles\n- pattern: 'a: b'\n" ++
    "  - skipped\n---\n\n Keep --- this.\n"

def unquotedRule : Rule where
  name := "true"
  enabled := false
  event := .other "deploy"
  ownPattern? := some "rm -rf"
  conditions := [⟨"command", .unrecognized "resembles", ""⟩, ⟨"", .regexMatch, "a: b"⟩]
  action := .block
  tools? := none
  message := "Keep --- this."
  source? := none

theorem ofText_written_unquotedRule :
    ofText unquotedDocument none = .ok unquotedRule ∧
    ofText unquotedRule.written none = .ok unquotedRule :=
  have h : ofText unquotedDocument none = .ok unquotedRule := by decide +kernel
  ⟨h, ofText_written_of_ofText h⟩

end Rule

end RuleGate
