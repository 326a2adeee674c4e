import RuleGate.Proofs.MetadataBlocks

/-! Metadata written as lines and read back. What can be written so that it is read back is what
reading gives: texts on one line, keys that a line can begin with, scalars that are no truth values,
scalar items without a colon, and maps with a key that can stand behind a dash without looking like
a map on one line. -/

namespace RuleGate.Metadata

open Text

/-! ### Representable metadata -/

def Item.texts : Item → List String
  | .scalar text => [text]
  | .map pairs => pairs.entries.flatMap fun pair => [pair.1, pair.2]

def Value.texts : Value → List String
  | .scalar text => [text]
  | .bool _ => []
  | .list items => items.flatMap Item.texts

/-- All texts in metadata, the keys among them. -/
def texts (m : Metadata) : List String :=
  m.entries.flatMap fun entry => entry.1 :: entry.2.texts

/-- Keys that a line can begin with. -/
structure IsKey (key : String) : Prop where
  trimmed : trim key.toList = key.toList
  noColon : ':' ∉ key.toList
  noDash : key.toList.head? ≠ some '-'
  noHash : key.toList.head? ≠ some '#'

/-- A scalar item has no colon; a map has pairs, no colon in a key, and a key without a comma. -/
def Item.Representable : Item → Prop
  | .scalar text => ':' ∉ text.toList
  | .map pairs =>
      pairs.isEmpty = false ∧ (∀ pair ∈ pairs.entries, ':' ∉ pair.1.toList) ∧
        ∃ pair ∈ pairs.entries, ',' ∉ pair.1.toList

/-- A scalar is no truth value, in whatever case its letters are written. -/
def Value.Representable : Value → Prop
  | .scalar text => isWord "true" text.toList = false ∧ isWord "false" text.toList = false
  | .bool _ => True
  | .list items => ∀ item ∈ items, item.Representable

/-- Metadata that some lines hold. -/
structure Representable (m : Metadata) : Prop where
  oneLine : ∀ text ∈ m.texts, '\n' ∉ text.toList
  keys : ∀ entry ∈ m.entries, IsKey entry.1
  values : ∀ entry ∈ m.entries, entry.2.Representable

instance (key : String) : Decidable (IsKey key) :=
  decidable_of_iff (trim key.toList = key.toList ∧ ':' ∉ key.toList ∧ key.toList.head? ≠ some '-' ∧
      key.toList.head? ≠ some '#')
    ⟨fun h => ⟨h.1, h.2.1, h.2.2.1, h.2.2.2⟩, fun h => ⟨h.trimmed, h.noColon, h.noDash, h.noHash⟩⟩

instance : (item : Item) → Decidable item.Representable
  | .scalar text => inferInstanceAs (Decidable (':' ∉ text.toList))
  | .map pairs => inferInstanceAs (Decidable (pairs.isEmpty = false ∧
      (∀ pair ∈ pairs.entries, ':' ∉ pair.1.toList) ∧ ∃ pair ∈ pairs.entries, ',' ∉ pair.1.toList))

instance : (value : Value) → Decidable value.Representable
  | .scalar text => inferInstanceAs
      (Decidable (isWord "true" text.toList = false ∧ isWord "false" text.toList = false))
  | .bool _ => inferInstanceAs (Decidable True)
  | .list items => inferInstanceAs (Decidable (∀ item ∈ items, item.Representable))

instance (m : Metadata) : Decidable m.Representable :=
  decidable_of_iff ((∀ text ∈ m.texts, '\n' ∉ text.toList) ∧ (∀ entry ∈ m.entries, IsKey entry.1) ∧
      ∀ entry ∈ m.entries, entry.2.Representable)
    ⟨fun h => ⟨h.1, h.2.1, h.2.2⟩, fun h => ⟨h.oneLine, h.keys, h.values⟩⟩

/-! ### The parts of a line that are read -/

theorem dropOpeningQuote_isSuffix (s : List Char) : dropOpeningQuote s <:+ s := by
  cases s with
  | nil => exact List.suffix_refl _
  | cons c rest =>
      rw [dropOpeningQuote]
      split_ifs
      · exact List.suffix_cons c rest
      · exact List.suffix_refl _

theorem unquote_isInfix (s : List Char) : unquote s <:+: s := by
  have hend : unquote s <+: dropOpeningQuote s := by
    rw [unquote, ← List.reverse_suffix, List.reverse_reverse]
    exact dropOpeningQuote_isSuffix _
  exact hend.isInfix.trans (dropOpeningQuote_isSuffix s).isInfix

theorem not_mem_of_isInfix {c : Char} {a b : List Char} (h : a <:+: b) (hc : c ∉ b) : c ∉ a :=
  fun hmem => hc (h.subset hmem)

theorem of_pair?_eq_some {s : List Char} {pair : String × String} (h : pair? s = some pair) :
    (pair.1.toList <:+: s ∧ pair.2.toList <:+: s) ∧ ':' ∉ pair.1.toList := by
  obtain ⟨⟨a, b⟩, hsplit, rfl⟩ := Option.map_eq_some_iff.mp h
  obtain ⟨rfl, ha⟩ := splitFirst?_eq_some_iff.mp hsplit
  have hkey : unquote (trim a) <:+: a := (unquote_isInfix _).trans (trim_isInfix a)
  have hvalue : unquote (trim b) <:+: b := (unquote_isInfix _).trans (trim_isInfix b)
  simp only [String.toList_ofList]
  refine ⟨⟨hkey.trans (List.prefix_append _ _).isInfix, hvalue.trans ?_⟩,
    not_mem_of_isInfix hkey ha⟩
  exact ((List.suffix_cons _ _).trans (List.suffix_append _ _)).isInfix

theorem furtherPair?_eq_some {line : List Char} {pair : String × String}
    (h : furtherPair? line = some pair) : pair? (trim line) = some pair := by
  rw [furtherPair?] at h
  split_ifs at h
  exact h

theorem itemText_isInfix (line : List Char) : itemText line <:+: line :=
  (trim_isInfix _).trans ((List.drop_suffix 1 _).isInfix.trans (trim_isInfix line))

theorem valueText_isInfix (line : List Char) : valueText line <:+: line :=
  (trim_isInfix _).trans ((List.drop_suffix 1 _).isInfix.trans (List.dropWhile_suffix _).isInfix)

theorem keyOf_isInfix (line : List Char) : (keyOf line).toList <:+: line := by
  rw [keyOf, String.toList_ofList]
  exact (trim_isInfix _).trans (List.takeWhile_prefix _).isInfix

/-! ### Every text that is read is a part of a line -/

theorem Value.of_mem_texts_ofText {s : List Char} {text : String}
    (h : text ∈ (Value.ofText s).texts) : text.toList <:+: s := by
  rw [Value.ofText] at h
  split_ifs at h
  · simp [Value.texts] at h
  · simp [Value.texts] at h
  · rw [Value.texts, List.mem_singleton] at h
    rw [h, String.toList_ofList]
    exact unquote_isInfix s

theorem Item.of_mem_texts_ofList {pairs : List (String × String)} {text : String}
    (h : text ∈ (Item.map (Dictionary.ofList pairs)).texts) :
    ∃ pair ∈ pairs, text = pair.1 ∨ text = pair.2 := by
  obtain ⟨pair, hpair, htext⟩ := List.mem_flatMap.mp h
  exact ⟨pair, Dictionary.mem_entries_ofList hpair, by simpa using htext⟩

theorem of_mem_texts_itemOf {group : List Char × List (List Char)} {text : String}
    (h : text ∈ (itemOf group).texts) : ∃ line ∈ group.1 :: group.2, text.toList <:+: line := by
  have hpart : ∀ {s line : List Char} {pair : String × String}, pair? s = some pair → s <:+: line →
      text = pair.1 ∨ text = pair.2 → text.toList <:+: line := by
    intro s line pair hpair hs htext
    obtain ⟨⟨hkey, hvalue⟩, _⟩ := of_pair?_eq_some hpair
    rcases htext with rfl | rfl
    · exact hkey.trans hs
    · exact hvalue.trans hs
  rw [itemOf] at h
  split_ifs at h
  · obtain ⟨pair, hpair, htext⟩ := Item.of_mem_texts_ofList h
    obtain ⟨part, hmem, hpair⟩ := List.mem_filterMap.mp hpair
    refine ⟨group.1, List.mem_cons_self, hpart hpair ?_ htext⟩
    exact (of_mem_splitAll hmem).1.trans (itemText_isInfix _)
  · cases hseed : pair? (itemText group.1) with
    | none =>
        simp only [hseed, Item.texts, List.mem_singleton] at h
        refine ⟨group.1, List.mem_cons_self, ?_⟩
        rw [h, String.toList_ofList]
        exact (unquote_isInfix _).trans (itemText_isInfix _)
    | some seed =>
        rw [hseed] at h
        obtain ⟨pair, hpair, htext⟩ := Item.of_mem_texts_ofList h
        rcases List.mem_cons.mp hpair with rfl | hpair
        · exact ⟨group.1, List.mem_cons_self, hpart hseed (itemText_isInfix _) htext⟩
        · obtain ⟨line, hline, hpair⟩ := List.mem_filterMap.mp hpair
          refine ⟨line, List.mem_cons_of_mem _ hline, ?_⟩
          exact hpart (furtherPair?_eq_some hpair) (trim_isInfix line) htext

theorem of_mem_texts_entryOf {block : List Char × List (List Char)} {text : String}
    (h : text = (entryOf block).1 ∨ text ∈ (entryOf block).2.texts) :
    ∃ line ∈ block.1 :: block.2, text.toList <:+: line := by
  rcases h with rfl | h
  · exact ⟨block.1, List.mem_cons_self, keyOf_isInfix _⟩
  · rw [entryOf] at h
    simp only at h
    split_ifs at h
    · obtain ⟨item, hitem, htext⟩ := List.mem_flatMap.mp h
      obtain ⟨group, hgroup, rfl⟩ := List.mem_map.mp hitem
      obtain ⟨line, hline, hpart⟩ := of_mem_texts_itemOf htext
      exact ⟨line, List.mem_cons_of_mem _ (mem_of_mem_section hgroup hline), hpart⟩
    · exact ⟨block.1, List.mem_cons_self,
        (Value.of_mem_texts_ofText h).trans (valueText_isInfix _)⟩

/-- An entry is that of a block of lines that count. -/
theorem of_mem_entries_ofBlocks {ls : List (List Char)} {entry : String × Value}
    (h : entry ∈ (ofBlocks ls).entries) :
    ∃ block : List Char × List (List Char), entry = entryOf block ∧ isKeyLine block.1 = true ∧
      ∀ line ∈ block.1 :: block.2, line ∈ ls ∧ isContent line = true := by
  obtain ⟨block, hblock, rfl⟩ := List.mem_map.mp (Dictionary.mem_entries_ofList h)
  refine ⟨block, rfl, (of_mem_sections hblock).1, ?_⟩
  intro line hline
  exact List.mem_filter.mp (mem_of_mem_section hblock hline)

theorem of_mem_texts_ofBlocks {ls : List (List Char)} {text : String}
    (h : text ∈ (ofBlocks ls).texts) : ∃ line ∈ ls, text.toList <:+: line := by
  obtain ⟨entry, hentry, htext⟩ := List.mem_flatMap.mp h
  obtain ⟨block, rfl, _, hlines⟩ := of_mem_entries_ofBlocks hentry
  obtain ⟨line, hline, hpart⟩ := of_mem_texts_entryOf (List.mem_cons.mp htext)
  exact ⟨line, (hlines line hline).1, hpart⟩

/-! ### What is read is representable -/

theorem isKey_keyOf {line : List Char} (hcontent : isContent line = true)
    (hkey : isKeyLine line = true) : IsKey (keyOf line) := by
  have hcolon : ':' ∉ line.takeWhile (· != ':') := by
    intro hmem
    simpa using List.mem_takeWhile_imp hmem
  have hhead : (trim (line.takeWhile (· != ':'))).head? ≠ some '-' ∧
      (trim (line.takeWhile (· != ':'))).head? ≠ some '#' := by
    cases line with
    | nil => simp [isKeyLine] at hkey
    | cons c rest =>
        simp only [isKeyLine, Bool.and_eq_true, Bool.not_eq_true', bne_iff_ne] at hkey
        obtain ⟨⟨hblank, hdash⟩, _⟩ := hkey
        have hhash : c ≠ '#' := by
          obtain ⟨d, tail, hline, hd⟩ := exists_of_isContent hcontent
          rw [trim_cons hblank] at hline
          rw [(List.cons.inj hline).1]
          exact hd
        rw [List.takeWhile_cons]
        split_ifs
        · rw [trim_cons hblank, List.head?_cons]
          simp [hdash, hhash]
        · simp [trim, trimStart, trimEnd]
  constructor
  · rw [keyOf, String.toList_ofList, trim_trim]
  · rw [keyOf, String.toList_ofList]
    exact not_mem_of_isInfix (trim_isInfix _) hcolon
  · rw [keyOf, String.toList_ofList]
    exact hhead.1
  · rw [keyOf, String.toList_ofList]
    exact hhead.2

theorem Value.representable_ofText (s : List Char) : (Value.ofText s).Representable := by
  rw [Value.ofText]
  split_ifs with htrue hfalse
  · trivial
  · trivial
  · rw [Value.Representable, String.toList_ofList]
    exact ⟨Bool.not_eq_true _ ▸ htrue, Bool.not_eq_true _ ▸ hfalse⟩

/-- A map of pairs that were read is representable if one of them has a key without a comma. -/
theorem Item.representable_ofList {pairs : List (String × String)}
    (hread : ∀ pair ∈ pairs, ∃ s, pair? s = some pair) {seed : String × String}
    (hseed : seed ∈ pairs) (hcomma : ',' ∉ seed.1.toList) :
    (Item.map (Dictionary.ofList pairs)).Representable := by
  obtain ⟨value, hvalue⟩ := Option.isSome_iff_exists.mp (Dictionary.isSome_find?_ofList hseed)
  have hentry := Dictionary.find?_eq_some_iff.mp hvalue
  refine ⟨Dictionary.isEmpty_of_find?_eq_some hvalue, ?_, (seed.1, value), hentry, hcomma⟩
  intro pair hpair
  obtain ⟨s, hs⟩ := hread pair (Dictionary.mem_entries_ofList hpair)
  exact (of_pair?_eq_some hs).2

theorem representable_itemOf (group : List Char × List (List Char)) :
    (itemOf group).Representable := by
  rw [itemOf]
  simp only [Bool.and_eq_true, List.contains_iff_mem]
  split_ifs with hinline
  · -- The part with the colon gives a pair, and no part has a comma.
    obtain ⟨part, hpart, hcolon⟩ := exists_mem_splitAll (show ':' ≠ ',' by decide) hinline.1
    obtain ⟨pair, hpair⟩ := Option.isSome_iff_exists.mp (pair?_isSome_iff.mpr hcolon)
    refine Item.representable_ofList ?_ (List.mem_filterMap.mpr ⟨part, hpart, hpair⟩) ?_
    · intro pair' hpair'
      obtain ⟨part', _, hread⟩ := List.mem_filterMap.mp hpair'
      exact ⟨part', hread⟩
    · exact not_mem_of_isInfix (of_pair?_eq_some hpair).1.1 (of_mem_splitAll hpart).2
  · cases hseed : pair? (itemText group.1) with
    | none =>
        rw [Item.Representable, String.toList_ofList]
        refine not_mem_of_isInfix (unquote_isInfix _) ?_
        rw [← pair?_isSome_iff, hseed]
        simp
    | some seed =>
        have hcolon : ':' ∈ itemText group.1 := by
          rw [← pair?_isSome_iff, hseed]
          rfl
        have hcomma : ',' ∉ itemText group.1 := fun hmem => hinline ⟨hcolon, hmem⟩
        refine Item.representable_ofList ?_ List.mem_cons_self
          (not_mem_of_isInfix (of_pair?_eq_some hseed).1.1 hcomma)
        intro pair hpair
        rcases List.mem_cons.mp hpair with rfl | hpair
        · exact ⟨_, hseed⟩
        · obtain ⟨line, _, hfurther⟩ := List.mem_filterMap.mp hpair
          exact ⟨_, furtherPair?_eq_some hfurther⟩

theorem representable_entryOf (block : List Char × List (List Char)) :
    (entryOf block).2.Representable := by
  rw [entryOf]
  simp only
  split_ifs
  · intro item hitem
    obtain ⟨group, _, rfl⟩ := List.mem_map.mp hitem
    exact representable_itemOf group
  · exact Value.representable_ofText _

/-- What is read from lines without a line feed is representable. -/
theorem representable_ofBlocks {ls : List (List Char)} (hls : ∀ line ∈ ls, '\n' ∉ line) :
    (ofBlocks ls).Representable := by
  constructor
  · intro text htext
    obtain ⟨line, hline, hpart⟩ := of_mem_texts_ofBlocks htext
    exact not_mem_of_isInfix hpart (hls line hline)
  · intro entry hentry
    obtain ⟨block, rfl, hkey, hlines⟩ := of_mem_entries_ofBlocks hentry
    exact isKey_keyOf (hlines block.1 List.mem_cons_self).2 hkey
  · intro entry hentry
    obtain ⟨block, rfl, _⟩ := of_mem_entries_ofBlocks hentry
    exact representable_entryOf block

/-! ### Lines as they are written -/

def quoted (text : String) : List Char :=
  '"' :: (text.toList ++ ['"'])

def withValue (key value : List Char) : List Char :=
  key ++ ':' :: ' ' :: value

def quotedPair (pair : String × String) : List Char :=
  withValue (quoted pair.1) (quoted pair.2)

def dashLine (text : List Char) : List Char :=
  "  - ".toList ++ text

/-- The line that goes on with an item. -/
def furtherLine (text : List Char) : List Char :=
  "    ".toList ++ text

theorem trim_space (text : List Char) : trim (' ' :: text) = trim text :=
  trim_cons_of_blank (by decide) text

theorem unquote_quoted (text : String) : unquote (quoted text) = text.toList := by
  have hopen : ∀ s, dropOpeningQuote ('"' :: s) = s := fun s => rfl
  rw [unquote, quoted, hopen, List.reverse_append, List.reverse_singleton, List.singleton_append,
    hopen, List.reverse_reverse]

theorem trim_quoted (text : String) : trim (quoted text) = quoted text :=
  trim_cons_concat (by decide) (by decide) _

theorem pair?_withValue {key : List Char} (hkey : ':' ∉ key) (value : List Char) :
    pair? (withValue key value) =
      some (String.ofList (unquote (trim key)), String.ofList (unquote (trim value))) := by
  rw [pair?, withValue, splitFirst?_append hkey, Option.map_some]
  simp only [trim_space]

theorem pair?_withValue_quoted {key : List Char} (hkey : ':' ∉ key) (text : String) :
    pair? (withValue key (quoted text)) = some (String.ofList (unquote (trim key)), text) := by
  rw [pair?_withValue hkey, trim_quoted, unquote_quoted, String.ofList_toList]

/-- Blanks around a pair do not count. -/
theorem pair?_trim (s : List Char) : pair? (trim s) = pair? s := by
  by_cases h : ':' ∈ s
  · obtain ⟨a, b, rfl, ha⟩ := List.eq_append_cons_of_mem h
    have hstart : ':' ∉ trimStart a := fun hmem => ha ((List.dropWhile_suffix _).subset hmem)
    rw [trim_append_cons (by decide), pair?, pair?, splitFirst?_append hstart,
      splitFirst?_append ha]
    simp only [Option.map_some, trim_trimStart, trim_trimEnd]
  · rw [pair?, pair?, splitFirst?_of_not_mem h,
      splitFirst?_of_not_mem (not_mem_of_isInfix (trim_isInfix s) h)]

theorem pair?_quotedPair {pair : String × String} (h : ':' ∉ pair.1.toList) :
    pair? (quotedPair pair) = some pair := by
  have hkey : ':' ∉ quoted pair.1 := by simpa [quoted] using h
  rw [quotedPair, pair?_withValue_quoted hkey, trim_quoted, unquote_quoted, String.ofList_toList]

/-! #### The kinds of these lines -/

theorem isContent_of_trim_eq {line rest : List Char} {c : Char} (h : trim line = c :: rest)
    (hc : c ≠ '#') : isContent line = true := by
  rw [isContent, h]
  simpa using hc

theorem trim_dashLine (text : List Char) : trim (dashLine text) = '-' :: trimEnd (' ' :: text) :=
  calc trim (dashLine text)
      = trim (' ' :: ' ' :: '-' :: ' ' :: text) := rfl
    _ = trim ('-' :: ' ' :: text) := by rw [trim_space, trim_space]
    _ = '-' :: trimEnd (' ' :: text) := trim_cons (by decide) _

theorem kind_dashLine (text : List Char) :
    isContent (dashLine text) = true ∧ isKeyLine (dashLine text) = false ∧
      isDashLine (dashLine text) = true := by
  refine ⟨isContent_of_trim_eq (trim_dashLine text) (by decide), rfl, ?_⟩
  rw [isDashLine, trim_dashLine]
  rfl

theorem itemText_dashLine (text : List Char) : itemText (dashLine text) = trim text := by
  rw [itemText, trim_dashLine, List.drop_one, List.tail_cons, trim_trimEnd, trim_space]

theorem trim_furtherLine (text : List Char) : trim (furtherLine text) = trim text :=
  calc trim (furtherLine text)
      = trim (' ' :: ' ' :: ' ' :: ' ' :: text) := rfl
    _ = trim text := by rw [trim_space, trim_space, trim_space, trim_space]

theorem kind_furtherLine {text : List Char} {c : Char} (hhead : text.head? = some c)
    (hblank : isBlank c = false) (hdash : c ≠ '-') (hhash : c ≠ '#') :
    isContent (furtherLine text) = true ∧ isKeyLine (furtherLine text) = false ∧
      isDashLine (furtherLine text) = false := by
  obtain ⟨rest, rfl⟩ := List.head?_eq_some_iff.mp hhead
  have hline : trim (furtherLine (c :: rest)) = c :: trimEnd rest :=
    (trim_furtherLine _).trans (trim_cons hblank rest)
  refine ⟨isContent_of_trim_eq hline hhash, rfl, ?_⟩
  rw [isDashLine, hline]
  simpa using hdash

theorem furtherPair?_furtherLine (text : List Char) :
    furtherPair? (furtherLine text) = pair? text := by
  have hindent : 2 < indent (furtherLine text) := by
    have hblanks : indent (furtherLine text) = 1 + (1 + (1 + (1 + indent text))) := rfl
    omega
  rw [furtherPair?, if_pos hindent, trim_furtherLine, pair?_trim]

/-- A line with a dash, and lines behind it with neither key nor dash, are the lines of an item. -/
theorem kind_group (text : List Char) {further : List (List Char)}
    (h : ∀ line ∈ further, isContent line = true ∧ isKeyLine line = false ∧
      isDashLine line = false) :
    AreFurther (dashLine text :: further) ∧ isDashLine (dashLine text) = true ∧
      ∀ line ∈ further, isDashLine line = false := by
  obtain ⟨hcontent, hkey, hdash⟩ := kind_dashLine text
  refine ⟨?_, hdash, fun line hline => (h line hline).2.2⟩
  intro line hline
  rcases List.mem_cons.mp hline with rfl | hline
  · exact ⟨hcontent, hkey⟩
  · exact ⟨(h line hline).1, (h line hline).2.1⟩

/-- A line with a key begins with a character that does not make it a line of another kind. -/
theorem head?_keyLine {key : String} (hkey : IsKey key) (rest : List Char) :
    ∃ c, (key.toList ++ ':' :: rest).head? = some c ∧ isBlank c = false ∧ c ≠ '-' ∧ c ≠ '#' := by
  obtain ⟨htrimmed, _, hdash, hhash⟩ := hkey
  cases hlist : key.toList with
  | nil => exact ⟨':', rfl, by decide⟩
  | cons c tail =>
      rw [hlist] at htrimmed hdash hhash
      exact ⟨c, rfl, not_blank_of_trim_eq_cons htrimmed, by simpa using hdash, by simpa using hhash⟩

theorem kind_keyLine {key : String} (hkey : IsKey key) (rest : List Char) :
    isContent (key.toList ++ ':' :: rest) = true ∧
    isKeyLine (key.toList ++ ':' :: rest) = true := by
  obtain ⟨c, hhead, hblank, hdash, hhash⟩ := head?_keyLine hkey rest
  have hcolon : ':' ∈ key.toList ++ ':' :: rest := by simp
  obtain ⟨tail, hline⟩ := List.head?_eq_some_iff.mp hhead
  rw [hline] at hcolon ⊢
  refine ⟨isContent_of_trim_eq (trim_cons hblank tail) hhash, ?_⟩
  simpa [isKeyLine, hblank, hdash] using hcolon

theorem keyOf_valueText_keyLine {key : String} (hkey : IsKey key) (rest : List Char) :
    keyOf (key.toList ++ ':' :: rest) = key ∧
    valueText (key.toList ++ ':' :: rest) = trim rest := by
  obtain ⟨hkeyOf, hvalueText⟩ := keyOf_valueText_of_split (splitFirst?_append hkey.noColon rest)
  rw [hkey.trimmed, String.ofList_toList] at hkeyOf
  exact ⟨hkeyOf, hvalueText⟩

theorem isLine_quoted {text : String} (h : '\n' ∉ text.toList) : IsLine (quoted text) := by
  rw [quoted, ← List.cons_append]
  exact IsLine.append (by simpa using h) (by decide) (by decide)

theorem isLine_withValue {key value : List Char} (hkey : '\n' ∉ key) (hvalue : IsLine value)
    (hne : value ≠ []) : IsLine (withValue key value) := by
  have happend : withValue key value = (key ++ [':', ' ']) ++ value := by simp [withValue]
  rw [happend]
  exact IsLine.append (by simpa using hkey) hvalue hne

/-! ### Items, blocks and metadata read back -/

theorem itemOf_scalar {text : String} (hcolon : ':' ∉ text.toList) (rest : List (List Char)) :
    itemOf (dashLine (quoted text), rest) = .scalar text := by
  have hnot : ':' ∉ quoted text := by simpa [quoted] using hcolon
  have hpair : pair? (quoted text) = none := by
    rw [← Option.not_isSome_iff_eq_none, pair?_isSome_iff]
    exact hnot
  rw [itemOf, itemText_dashLine, trim_quoted, hpair]
  simp [hnot, unquote_quoted]

/-- A pair without a comma behind a dash begins a map. -/
theorem itemOf_map {text : List Char} (hcomma : ',' ∉ text) {seed : String × String}
    (hseed : pair? text = some seed) (rest : List (List Char)) :
    itemOf (dashLine text, rest) =
      .map (Dictionary.ofList (seed :: rest.filterMap furtherPair?)) := by
  rw [itemOf, itemText_dashLine, pair?_trim, hseed]
  simp [not_mem_of_isInfix (trim_isInfix text) hcomma]

theorem Value.ofText_quoted {text : String} (h : (Value.scalar text).Representable) :
    Value.ofText (quoted text) = .scalar text := by
  obtain ⟨htrue, hfalse⟩ := h
  rw [Value.ofText, unquote_quoted]
  simp [htrue, hfalse]

theorem Value.ofText_toString (value : Bool) :
    Value.ofText (toString value).toList = .bool value := by
  cases value <;> rfl

theorem filterMap_furtherLine {pairs : List (String × String)} {text : String × String → List Char}
    (hpair : ∀ pair ∈ pairs, pair? (text pair) = some pair) :
    (pairs.map fun pair => furtherLine (text pair)).filterMap furtherPair? = pairs := by
  rw [List.filterMap_map]
  refine (List.filterMap_congr ?_).trans List.filterMap_some
  intro pair hmem
  rw [Function.comp_apply, furtherPair?_furtherLine, hpair pair hmem]

/-- The entry of a line with a key is a list if nothing but blanks follows the colon. -/
theorem entryOf_keyLine {key : String} (hkey : IsKey key) (rest : List Char)
    (further : List (List Char)) :
    entryOf (key.toList ++ ':' :: rest, further) =
      (key, if (trim rest).isEmpty then .list ((sections isDashLine further).2.map itemOf)
        else Value.ofText (trim rest)) := by
  obtain ⟨hkeyOf, hvalueText⟩ := keyOf_valueText_keyLine hkey rest
  rw [entryOf, hkeyOf, hvalueText]

theorem entryOf_withValue {key : String} (hkey : IsKey key) {value : List Char}
    (htrim : trim value = value) (hne : value ≠ []) (rest : List (List Char)) :
    entryOf (withValue key.toList value, rest) = (key, Value.ofText value) := by
  have hnonempty : value.isEmpty = false := List.isEmpty_eq_false_iff.mpr hne
  rw [withValue, entryOf_keyLine hkey, trim_space, htrim, hnonempty]
  rfl

/-- A line with a key alone and the lines of items are read as the list of the items. -/
theorem entryOf_list {key : String} (hkey : IsKey key)
    {groups : List (List Char × List (List Char))}
    (hgroups : ∀ g ∈ groups, isDashLine g.1 = true ∧ ∀ line ∈ g.2, isDashLine line = false) :
    entryOf (key.toList ++ [':'], groups.flatMap fun g => g.1 :: g.2) =
      (key, .list (groups.map itemOf)) := by
  rw [entryOf_keyLine hkey, sections_flatMap hgroups]
  rfl

/-- Blocks of lines that count are read one by one. -/
theorem ofBlocks_flatMap {blocks : List (List Char × List (List Char))}
    (hblocks : ∀ b ∈ blocks, (isContent b.1 = true ∧ isKeyLine b.1 = true) ∧ AreFurther b.2) :
    ofBlocks (blocks.flatMap fun b => b.1 :: b.2) = Dictionary.ofList (blocks.map entryOf) := by
  have hcontent : ∀ line ∈ blocks.flatMap fun b => b.1 :: b.2, isContent line = true := by
    intro line hline
    obtain ⟨b, hb, hmem⟩ := List.mem_flatMap.mp hline
    obtain ⟨⟨hfirst, _⟩, hrest⟩ := hblocks b hb
    rcases List.mem_cons.mp hmem with rfl | hmem
    · exact hfirst
    · exact (hrest line hmem).1
  have hmarked : ∀ b ∈ blocks, isKeyLine b.1 = true ∧ ∀ line ∈ b.2, isKeyLine line = false := by
    intro b hb
    obtain ⟨⟨_, hkey⟩, hrest⟩ := hblocks b hb
    exact ⟨hkey, fun line hline => (hrest line hline).2⟩
  rw [ofBlocks, List.filter_eq_self.mpr hcontent, sections_flatMap hmarked]

/-! ### Metadata written as lines -/

/-- The first key of a map without a comma; a map begins with it on the line of its dash. -/
def seedKey (pairs : Dictionary String) : String :=
  ((pairs.entries.map Prod.fst).find? fun key => !key.toList.contains ',').getD ""

/-- The lines of an item: the one with the dash, and those behind it. -/
def Item.written : Item → List Char × List (List Char)
  | .scalar text => (dashLine (quoted text), [])
  | .map pairs =>
      (dashLine (quotedPair (seedKey pairs, "")),
        pairs.entries.map fun pair => furtherLine (quotedPair pair))

/-- The lines of an entry: the one with the key, and those behind it. -/
def writtenEntry : String × Value → List Char × List (List Char)
  | (key, .scalar text) => (withValue key.toList (quoted text), [])
  | (key, .bool value) => (withValue key.toList (toString value).toList, [])
  | (key, .list items) =>
      (key.toList ++ [':'], (items.map Item.written).flatMap fun group => group.1 :: group.2)

/-- The lines of metadata, entry by entry. -/
def writtenLines (m : Metadata) : List (List Char) :=
  (m.entries.map writtenEntry).flatMap fun block => block.1 :: block.2

/-- The text of metadata: its lines, each with a line feed at its end. -/
def render (m : Metadata) : List Char :=
  m.writtenLines.flatMap (· ++ ['\n'])

theorem seedKey_spec {pairs : Dictionary String} (h : ∃ pair ∈ pairs.entries, ',' ∉ pair.1.toList) :
    (∃ pair ∈ pairs.entries, pair.1 = seedKey pairs) ∧ ',' ∉ (seedKey pairs).toList := by
  obtain ⟨pair, hpair, hcomma⟩ := h
  have hfound :
      ((pairs.entries.map Prod.fst).find? fun key => !key.toList.contains ',').isSome := by
    rw [List.find?_isSome]
    exact ⟨pair.1, List.mem_map_of_mem hpair, by simpa using hcomma⟩
  obtain ⟨key, hkey⟩ := Option.isSome_iff_exists.mp hfound
  have hseed : seedKey pairs = key := by rw [seedKey, hkey, Option.getD_some]
  rw [hseed]
  refine ⟨List.mem_map.mp (List.mem_of_find?_eq_some hkey), ?_⟩
  simpa using List.find?_some hkey

/-- An item that is written is read back. -/
theorem itemOf_written {item : Item} (h : item.Representable) : itemOf item.written = item := by
  cases item with
  | scalar text => exact itemOf_scalar h []
  | map pairs =>
      obtain ⟨_, hcolons, hseed⟩ := h
      obtain ⟨⟨pair, hpair, hfirst⟩, hcomma⟩ := seedKey_spec hseed
      have hfurther := filterMap_furtherLine fun pair hpair => pair?_quotedPair (hcolons pair hpair)
      have hbegin : pair? (quotedPair (seedKey pairs, "")) = some (seedKey pairs, "") :=
        pair?_quotedPair (hfirst ▸ hcolons pair hpair)
      have hno : ',' ∉ quotedPair (seedKey pairs, "") := by
        simpa [quotedPair, withValue, quoted] using hcomma
      have hfound : (pairs.find? (seedKey pairs)).isSome := by
        rw [← hfirst, Dictionary.find?_eq_some_iff.mpr hpair]
        rfl
      rw [Item.written, itemOf_map hno hbegin, hfurther,
        Dictionary.ofList_cons_entries hfound]

theorem kind_written {item : Item} :
    AreFurther (item.written.1 :: item.written.2) ∧ isDashLine item.written.1 = true ∧
      ∀ line ∈ item.written.2, isDashLine line = false := by
  cases item with
  | scalar text => exact kind_group (quoted text) fun line hline => absurd hline List.not_mem_nil
  | map pairs =>
      refine kind_group (quotedPair (seedKey pairs, "")) fun line hline => ?_
      obtain ⟨pair, _, rfl⟩ := List.mem_map.mp hline
      exact kind_furtherLine rfl (by decide) (by decide) (by decide)

/-- An entry that is written is read back. -/
theorem entryOf_writtenEntry {entry : String × Value} (hkey : IsKey entry.1)
    (hvalue : entry.2.Representable) : entryOf (writtenEntry entry) = entry := by
  obtain ⟨key, value⟩ := entry
  cases value with
  | scalar text =>
      rw [writtenEntry, entryOf_withValue hkey (trim_quoted text) (by simp [quoted]),
        Value.ofText_quoted hvalue]
  | bool value =>
      have htrim : trim (toString value).toList = (toString value).toList := by cases value <;> rfl
      have hne : (toString value).toList ≠ [] := by cases value <;> decide
      rw [writtenEntry, entryOf_withValue hkey htrim hne, Value.ofText_toString]
  | list items =>
      have hgroups : ∀ g ∈ items.map Item.written,
          isDashLine g.1 = true ∧ ∀ line ∈ g.2, isDashLine line = false := by
        intro g hg
        obtain ⟨item, _, rfl⟩ := List.mem_map.mp hg
        exact kind_written.2
      have hitems : (items.map Item.written).map itemOf = items := by
        rw [List.map_map]
        exact (List.map_congr_left fun item hitem => itemOf_written (hvalue item hitem)).trans
          (List.map_id items)
      rw [writtenEntry, entryOf_list hkey hgroups, hitems]

theorem kind_writtenEntry {entry : String × Value} (hkey : IsKey entry.1) :
    (isContent (writtenEntry entry).1 = true ∧ isKeyLine (writtenEntry entry).1 = true) ∧
      AreFurther (writtenEntry entry).2 := by
  obtain ⟨key, value⟩ := entry
  cases value with
  | scalar text => exact ⟨kind_keyLine hkey _, by simp [writtenEntry, AreFurther]⟩
  | bool value => exact ⟨kind_keyLine hkey _, by simp [writtenEntry, AreFurther]⟩
  | list items =>
      refine ⟨kind_keyLine hkey [], ?_⟩
      intro line hline
      obtain ⟨group, hgroup, hmem⟩ := List.mem_flatMap.mp hline
      obtain ⟨item, _, rfl⟩ := List.mem_map.mp hgroup
      exact kind_written.1 line hmem

theorem isLine_written {item : Item} (h : item.Representable)
    (hlines : ∀ text ∈ item.texts, '\n' ∉ text.toList) :
    ∀ line ∈ item.written.1 :: item.written.2, IsLine line := by
  have hpair : ∀ {pair : String × String}, '\n' ∉ pair.1.toList → '\n' ∉ pair.2.toList →
      IsLine (quotedPair pair) := by
    intro pair hkey hvalue
    exact isLine_withValue (by simpa [quoted] using hkey) (isLine_quoted hvalue) (by simp [quoted])
  intro line hline
  cases item with
  | scalar text =>
      rw [List.mem_singleton.mp hline]
      exact IsLine.append (by decide) (isLine_quoted (hlines text List.mem_cons_self))
        (by simp [quoted])
  | map pairs =>
      have htexts : ∀ pair ∈ pairs.entries, '\n' ∉ pair.1.toList ∧ '\n' ∉ pair.2.toList := by
        intro pair hmem
        exact ⟨hlines _ (List.mem_flatMap.mpr ⟨pair, hmem, by simp⟩),
          hlines _ (List.mem_flatMap.mpr ⟨pair, hmem, by simp⟩)⟩
      rcases List.mem_cons.mp hline with rfl | hline
      · obtain ⟨⟨pair, hmem, hfirst⟩, _⟩ := seedKey_spec h.2.2
        refine IsLine.append (by decide) (hpair ?_ (show '\n' ∉ "".toList by decide))
          (by simp [quotedPair, withValue])
        exact hfirst ▸ (htexts pair hmem).1
      · obtain ⟨pair, hmem, rfl⟩ := List.mem_map.mp hline
        obtain ⟨hkey, hvalue⟩ := htexts pair hmem
        exact IsLine.append (by decide) (hpair hkey hvalue) (by simp [quotedPair, withValue])

theorem isLine_writtenEntry {entry : String × Value} (h : entry.2.Representable)
    (hlines : ∀ text ∈ entry.1 :: entry.2.texts, '\n' ∉ text.toList) :
    ∀ line ∈ (writtenEntry entry).1 :: (writtenEntry entry).2, IsLine line := by
  obtain ⟨key, value⟩ := entry
  have hkey : '\n' ∉ key.toList := hlines key List.mem_cons_self
  intro line hline
  cases value with
  | scalar text =>
      rw [List.mem_singleton.mp hline]
      have htext := hlines text (List.mem_cons_of_mem _ List.mem_cons_self)
      exact isLine_withValue hkey (isLine_quoted htext) (by simp [quoted])
  | bool value =>
      rw [List.mem_singleton.mp hline]
      cases value
      · exact isLine_withValue hkey (by decide) (by decide)
      · exact isLine_withValue hkey (by decide) (by decide)
  | list items =>
      rcases List.mem_cons.mp hline with rfl | hline
      · exact IsLine.append hkey (by decide) (by decide)
      · obtain ⟨group, hgroup, hmem⟩ := List.mem_flatMap.mp hline
        obtain ⟨item, hitem, rfl⟩ := List.mem_map.mp hgroup
        refine isLine_written (h item hitem) ?_ line hmem
        intro text htext
        exact hlines text (List.mem_cons_of_mem _ (List.mem_flatMap.mpr ⟨item, hitem, htext⟩))

/-- Representable metadata is read back from its lines. -/
theorem ofBlocks_writtenLines {m : Metadata} (h : m.Representable) :
    ofBlocks m.writtenLines = m := by
  have hblocks : ∀ b ∈ m.entries.map writtenEntry,
      (isContent b.1 = true ∧ isKeyLine b.1 = true) ∧ AreFurther b.2 := by
    intro b hb
    obtain ⟨entry, hentry, rfl⟩ := List.mem_map.mp hb
    exact kind_writtenEntry (h.keys entry hentry)
  have hentries : (m.entries.map writtenEntry).map entryOf = m.entries := by
    rw [List.map_map]
    refine (List.map_congr_left fun entry hentry => ?_).trans (List.map_id m.entries)
    exact entryOf_writtenEntry (h.keys entry hentry) (h.values entry hentry)
  rw [writtenLines, ofBlocks_flatMap hblocks, hentries, Dictionary.ofList_entries]

theorem lines_render {m : Metadata} (h : m.Representable) : lines m.render = m.writtenLines := by
  refine lines_flatMap ?_
  intro line hline
  obtain ⟨block, hblock, hmem⟩ := List.mem_flatMap.mp hline
  obtain ⟨entry, hentry, rfl⟩ := List.mem_map.mp hblock
  refine isLine_writtenEntry (h.values entry hentry) ?_ line hmem
  intro text htext
  exact h.oneLine text (List.mem_flatMap.mpr ⟨entry, hentry, htext⟩)

theorem representable_ofText (text : List Char) : (ofText text).Representable := by
  rw [ofText, Scan.close_foldl_readLine]
  exact representable_ofBlocks fun line hline => (of_mem_lines hline).2

theorem ofText_render {m : Metadata} (h : m.Representable) : ofText m.render = m := by
  rw [ofText, Scan.close_foldl_readLine, lines_render h, ofBlocks_writtenLines h]

/-- Representable metadata is exactly what reading gives: all that is read is representable, and
what is representable is read back from its rendering. So what was read once can be rendered and
read again. -/
theorem representable_ofText_and_ofText_render :
    (∀ text : List Char, (ofText text).Representable) ∧
      (∀ m : Metadata, m.Representable → ofText m.render = m) ∧
        ∀ text : List Char, ofText (ofText text).render = ofText text :=
  ⟨representable_ofText, fun _ h => ofText_render h,
    fun text => ofText_render (representable_ofText text)⟩

/-- Metadata with a list of a scalar with a comma and of a map with a comma in its first key and a
colon in a value, a truth value, and a scalar with quotes inside. -/
def mixedMetadata : Metadata :=
  Dictionary.ofList
    [("list", .list [.scalar "one, two",
      .map (Dictionary.ofList [("a, b", "x: y"), ("field", "")])]), ("on", .bool true),
      ("text", .scalar "say \"no\"")]

theorem ofText_render_mixedMetadata :
    mixedMetadata.Representable ∧ ofText mixedMetadata.render = mixedMetadata :=
  have h : mixedMetadata.Representable := by decide +kernel
  ⟨h, representable_ofText_and_ofText_render.2.1 mixedMetadata h⟩

end RuleGate.Metadata
