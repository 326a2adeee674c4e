import RuleGate.Metadata.Reader
import RuleGate.Proofs.Dictionary
import RuleGate.Proofs.TextCutting

/-! The blocks of a metadata block. Reading line by line comes to the same as cutting the lines that
count in front of every key, and each block that opens a list in front of every dash: no block and
no item depends on another. -/

namespace RuleGate

/-! ### Cutting a list in front of marked elements -/

namespace Text

variable {α : Type}

/-- A list cut in front of its marked elements: what stands before the first of them, and each of
them with what follows it up to the next. -/
def sections (marked : α → Bool) : List α → List α × List (α × List α)
  | [] => ([], [])
  | x :: rest =>
    let (lead, groups) := sections marked rest
    if marked x then ([], (x, lead) :: groups) else (x :: lead, groups)

variable {marked : α → Bool}

theorem sections_cons_of_pos {x : α} (hx : marked x = true) (rest : List α) :
    sections marked (x :: rest) =
      ([], (x, (sections marked rest).1) :: (sections marked rest).2) := by
  simp [sections, hx]

theorem sections_cons_of_neg {x : α} (hx : marked x = false) (rest : List α) :
    sections marked (x :: rest) = (x :: (sections marked rest).1, (sections marked rest).2) := by
  simp [sections, hx]

/-- The sections make up the list. -/
theorem append_flatMap_sections (marked : α → Bool) (l : List α) :
    (sections marked l).1 ++ (sections marked l).2.flatMap (fun g => g.1 :: g.2) = l := by
  induction l with
  | nil => rfl
  | cons x rest ih =>
      cases hx : marked x with
      | true =>
          rw [sections_cons_of_pos hx, List.nil_append, List.flatMap_cons, List.cons_append, ih]
      | false => rw [sections_cons_of_neg hx, List.cons_append, ih]

theorem not_marked_of_mem_lead {l : List α} : ∀ x ∈ (sections marked l).1, marked x = false := by
  induction l with
  | nil => simp [sections]
  | cons x rest ih =>
      cases hx : marked x with
      | true => simp [sections_cons_of_pos hx]
      | false =>
          rw [sections_cons_of_neg hx]
          intro y hy
          rcases List.mem_cons.mp hy with rfl | hy
          · exact hx
          · exact ih y hy

/-- A section begins with a marked element, behind which none is marked. -/
theorem of_mem_sections {l : List α} {g : α × List α} (hg : g ∈ (sections marked l).2) :
    marked g.1 = true ∧ ∀ x ∈ g.2, marked x = false := by
  induction l with
  | nil => simp [sections] at hg
  | cons x rest ih =>
      cases hx : marked x with
      | true =>
          rw [sections_cons_of_pos hx] at hg
          rcases List.mem_cons.mp hg with rfl | hg
          · exact ⟨hx, not_marked_of_mem_lead⟩
          · exact ih hg
      | false =>
          rw [sections_cons_of_neg hx] at hg
          exact ih hg

theorem mem_of_mem_lead {l : List α} {x : α} (hx : x ∈ (sections marked l).1) : x ∈ l := by
  rw [← append_flatMap_sections marked l]
  exact List.mem_append_left _ hx

theorem mem_of_mem_section {l : List α} {g : α × List α} (hg : g ∈ (sections marked l).2) {x : α}
    (hx : x ∈ g.1 :: g.2) : x ∈ l := by
  rw [← append_flatMap_sections marked l]
  exact List.mem_append_right _ (List.mem_flatMap.mpr ⟨g, hg, hx⟩)

theorem sections_of_not_marked {lead : List α} (hlead : ∀ x ∈ lead, marked x = false)
    (rest : List α) :
    sections marked (lead ++ rest) =
      (lead ++ (sections marked rest).1, (sections marked rest).2) := by
  induction lead with
  | nil => rfl
  | cons x lead ih =>
      rw [List.cons_append, sections_cons_of_neg (hlead x List.mem_cons_self),
        ih fun y hy => hlead y (List.mem_cons_of_mem _ hy)]
      rfl

/-- What is put together from sections falls into them again. -/
theorem sections_flatMap {groups : List (α × List α)}
    (hgroups : ∀ g ∈ groups, marked g.1 = true ∧ ∀ x ∈ g.2, marked x = false) :
    sections marked (groups.flatMap fun g => g.1 :: g.2) = ([], groups) := by
  induction groups with
  | nil => rfl
  | cons g groups ih =>
      obtain ⟨hhead, htail⟩ := hgroups g List.mem_cons_self
      rw [List.flatMap_cons, List.cons_append, sections_cons_of_pos hhead,
        sections_of_not_marked htail, ih fun g' hg' => hgroups g' (List.mem_cons_of_mem _ hg'),
        List.append_nil]

end Text

namespace Metadata

open Text

/-! ### Blocks -/

/-- Lines that count: those that are not blank and whose first character is not a hash. -/
def isContent (line : List Char) : Bool :=
  match trim line with
  | [] => false
  | c :: _ => c != '#'

/-- Lines with a key: those with a colon that begin with neither a blank nor a dash. -/
def isKeyLine : List Char → Bool
  | [] => false
  | c :: rest => !isBlank c && c != '-' && (c :: rest).contains ':'

/-- Lines with an item: those whose first character behind the blanks is a dash. -/
def isDashLine (line : List Char) : Bool :=
  (trim line).head? == some '-'

def itemText (line : List Char) : List Char :=
  trim ((trim line).drop 1)

/-- The pair of a line that goes on with a map. -/
def furtherPair? (line : List Char) : Option (String × String) :=
  if 2 < indent line then pair? (trim line) else none

/-- The item of a line with a dash and of the lines up to the next dash. -/
def itemOf (group : List Char × List (List Char)) : Item :=
  let text := itemText group.1
  if text.contains ':' && text.contains ',' then .map (inlineMap text)
  else
    match pair? text with
    | some pair => .map (Dictionary.ofList (pair :: group.2.filterMap furtherPair?))
    | none => .scalar (String.ofList (unquote text))

def keyOf (line : List Char) : String :=
  String.ofList (trim (line.takeWhile (· != ':')))

def valueText (line : List Char) : List Char :=
  trim ((line.dropWhile (· != ':')).drop 1)

/-- The entry of a line with a key and of the lines up to the next key. -/
def entryOf (block : List Char × List (List Char)) : String × Value :=
  (keyOf block.1,
    if (valueText block.1).isEmpty then .list ((sections isDashLine block.2).2.map itemOf)
    else Value.ofText (valueText block.1))

/-- The metadata of lines, read block by block. -/
def ofBlocks (ls : List (List Char)) : Metadata :=
  Dictionary.ofList ((sections isKeyLine (ls.filter isContent)).2.map entryOf)

/-! ### Kinds of lines -/

theorem indent_eq_zero_iff {c : Char} {rest : List Char} :
    indent (c :: rest) = 0 ↔ isBlank c = false := by
  rw [indent, List.takeWhile_cons]
  cases isBlank c with
  | true =>
      have hpos := c.utf8Size_pos
      simp only [if_true, byteCount, reduceCtorEq, iff_false]
      omega
  | false => simp [byteCount]

theorem isKeyLine_eq {line rest : List Char} {c : Char} (h : trim line = c :: rest) :
    isKeyLine line = (indent line == 0 && line.contains ':' && c != '-') := by
  cases line with
  | nil => simp [trim, trimStart, trimEnd] at h
  | cons d tail =>
      cases hd : isBlank d with
      | true =>
          have hindent : indent (d :: tail) ≠ 0 := by simp [indent_eq_zero_iff, hd]
          simp [isKeyLine, hd, hindent]
      | false =>
          have hindent : indent (d :: tail) = 0 := indent_eq_zero_iff.mpr hd
          rw [trim_cons hd] at h
          rw [(List.cons.inj h).1] at hd ⊢
          rw [(List.cons.inj h).1] at hindent
          simp [isKeyLine, hd, hindent, Bool.and_comm]

theorem exists_of_isContent {line : List Char} (h : isContent line = true) :
    ∃ c rest, trim line = c :: rest ∧ c ≠ '#' := by
  rw [isContent.eq_def] at h
  cases hline : trim line with
  | nil => simp [hline] at h
  | cons c rest => exact ⟨c, rest, rfl, by simpa [hline] using h⟩

theorem pair?_isSome_iff {s : List Char} : (pair? s).isSome ↔ ':' ∈ s := by
  rw [pair?, Option.isSome_map, splitFirst?_isSome_iff]

theorem keyOf_valueText_of_split {line key value : List Char}
    (h : splitFirst? ':' line = some (key, value)) :
    keyOf line = String.ofList (trim key) ∧ valueText line = trim value := by
  rw [splitFirst?] at h
  cases hdrop : line.dropWhile (· != ':') with
  | nil => simp [hdrop] at h
  | cons c after =>
      rw [hdrop, Option.some.injEq, Prod.mk.injEq] at h
      rw [keyOf, valueText, hdrop, h.1, ← h.2]
      exact ⟨rfl, rfl⟩

/-! ### One line -/

namespace Scan

theorem readLine_of_not_content {line : List Char} (h : isContent line = false) (s : Scan) :
    s.readLine line = s := by
  rw [isContent.eq_def] at h
  rw [readLine]
  cases hline : trim line with
  | nil => rfl
  | cons c rest =>
      rw [hline] at h
      have hc : c = '#' := by simpa using h
      rw [hc]
      rfl

/-- A line that counts is read by the first of three kinds that it is of. -/
theorem readLine_of_content {line : List Char} (h : isContent line = true) (s : Scan) :
    s.readLine line =
      if isKeyLine line then s.readKey line
      else if isDashLine line && s.inList then s.readItem (itemText line)
      else if 2 < indent line && (trim line).contains ':' then s.readPair (trim line)
      else s := by
  obtain ⟨c, rest, hline, hc⟩ := exists_of_isContent h
  rw [isKeyLine_eq hline, isDashLine, itemText, readLine.eq_def, hline]
  split
  · rename_i heq
    simp at heq
  · rename_i heq
    exact absurd (List.cons.inj heq).1 hc
  · rename_i d tail _ heq
    obtain ⟨rfl, rfl⟩ := List.cons.inj heq
    simp

theorem readLine_of_key {line : List Char} (h : isContent line = true)
    (hkey : isKeyLine line = true) (s : Scan) :
    s.readLine line =
      if (valueText line).isEmpty then ⟨s.close, .list (keyOf line) []⟩
      else ⟨s.close.insert (keyOf line) (Value.ofText (valueText line)), .none⟩ := by
  have hcolon : ':' ∈ line := by
    cases line with
    | nil => simp [isKeyLine] at hkey
    | cons c rest =>
        simp only [isKeyLine, Bool.and_eq_true] at hkey
        simpa using hkey.2
  obtain ⟨⟨key, value⟩, hsplit⟩ := Option.isSome_iff_exists.mp (splitFirst?_isSome_iff.mpr hcolon)
  obtain ⟨hkeyOf, hvalueText⟩ := keyOf_valueText_of_split hsplit
  rw [readLine_of_content h, if_pos hkey, readKey, hsplit, hkeyOf, hvalueText]

/-- Between lists only a key counts. -/
theorem readLine_of_none {line : List Char} (h : isContent line = true)
    (hkey : isKeyLine line = false) {s : Scan} (hs : s.openList = .none) : s.readLine line = s := by
  have hlist : s.inList = false := by rw [inList, hs]; rfl
  have hpair : s.readPair (trim line) = s := by rw [readPair, hs]
  rw [readLine_of_content h, hkey, hlist, hpair]
  simp

theorem readLine_of_dash {line : List Char} (h : isContent line = true)
    (hkey : isKeyLine line = false) (hdash : isDashLine line = true) {s : Scan}
    (hs : s.inList = true) : s.readLine line = s.readItem (itemText line) := by
  rw [readLine_of_content h, hkey, hdash, hs]
  simp

/-- Inside a list a line without key and dash counts only for a map that is growing. -/
theorem readLine_of_further {line : List Char} (h : isContent line = true)
    (hkey : isKeyLine line = false) (hdash : isDashLine line = false) (s : Scan) :
    s.readLine line =
      match s.openList, furtherPair? line with
      | .growing key items pairs, some pair =>
        ⟨s.stored, .growing key items (pairs.insert pair.1 pair.2)⟩
      | _, _ => s := by
  have hpair : s.readPair (trim line) =
      match s.openList, pair? (trim line) with
      | .growing key items pairs, some pair =>
        ⟨s.stored, .growing key items (pairs.insert pair.1 pair.2)⟩
      | _, _ => s := by
    rw [readPair]
    cases s.openList with
    | growing key items pairs => cases pair? (trim line) <;> rfl
    | _ => rfl
  rw [readLine_of_content h, hkey, hdash, furtherPair?, hpair]
  by_cases hindent : 2 < indent line
  · by_cases hcolon : ':' ∈ trim line
    · simp [hindent, hcolon]
    · have hnone : pair? (trim line) = none := by
        rw [← Option.not_isSome_iff_eq_none, pair?_isSome_iff]
        exact hcolon
      simp [hindent, hcolon, hnone]
  · simp [hindent]

end Scan

/-! ### One item, one block, all blocks -/

/-- The key and the items of the list that is being read, as if it ended here. -/
def OpenList.settled : OpenList → Option (String × List Item)
  | .none => Option.none
  | .list key items => some (key, items)
  | .growing key items pairs => some (key, items ++ [.map pairs])

/-- Lines that count and lie behind a key. -/
def AreFurther (ls : List (List Char)) : Prop :=
  ∀ line ∈ ls, isContent line = true ∧ isKeyLine line = false

namespace Scan

theorem close_of_settled {s : Scan} {key : String} {items : List Item}
    (h : s.openList.settled = some (key, items)) : s.close = s.stored.insert key (.list items) := by
  rw [close]
  cases hopen : s.openList <;> simp_all [OpenList.settled]

theorem readItem_of_settled {s : Scan} {key : String} {items : List Item}
    (h : s.openList.settled = some (key, items)) (text : List Char) :
    s.inList = true ∧ s.readItem text = ⟨s.stored, addItem key items text⟩ := by
  rw [inList, readItem]
  cases hopen : s.openList <;> simp_all [OpenList.settled]

theorem foldl_none {ls : List (List Char)} (hls : AreFurther ls) {s : Scan}
    (hs : s.openList = .none) : ls.foldl readLine s = s := by
  induction ls with
  | nil => rfl
  | cons line rest ih =>
      obtain ⟨hcontent, hkey⟩ := hls line List.mem_cons_self
      rw [List.foldl_cons, readLine_of_none hcontent hkey hs]
      exact ih fun l hl => hls l (List.mem_cons_of_mem _ hl)

variable {ls : List (List Char)} (hls : AreFurther ls)
    (hdash : ∀ line ∈ ls, isDashLine line = false)

include hls hdash

theorem foldl_list {s : Scan} {key : String} {items : List Item}
    (hs : s.openList = .list key items) : ls.foldl readLine s = s := by
  induction ls with
  | nil => rfl
  | cons line rest ih =>
      obtain ⟨hcontent, hkey⟩ := hls line List.mem_cons_self
      rw [List.foldl_cons, readLine_of_further hcontent hkey (hdash line List.mem_cons_self), hs]
      exact ih (fun l hl => hls l (List.mem_cons_of_mem _ hl))
        (fun l hl => hdash l (List.mem_cons_of_mem _ hl))

theorem foldl_growing (stored : Metadata) (key : String) (items : List Item)
    (pairs : Dictionary String) :
    ls.foldl readLine ⟨stored, .growing key items pairs⟩ =
      ⟨stored, .growing key items
        ((ls.filterMap furtherPair?).foldl (fun d pair => d.insert pair.1 pair.2) pairs)⟩ := by
  induction ls generalizing pairs with
  | nil => rfl
  | cons line rest ih =>
      obtain ⟨hcontent, hkey⟩ := hls line List.mem_cons_self
      have ih := ih (fun l hl => hls l (List.mem_cons_of_mem _ hl))
        (fun l hl => hdash l (List.mem_cons_of_mem _ hl))
      rw [List.foldl_cons, readLine_of_further hcontent hkey (hdash line List.mem_cons_self)]
      cases hpair : furtherPair? line with
      | none => rw [List.filterMap_cons_none hpair, ← ih]
      | some pair => rw [List.filterMap_cons_some hpair, List.foldl_cons, ← ih]

omit hls hdash

/-- A line with a dash and the lines up to the next dash add one item to the list. -/
theorem foldl_item {g : List Char × List (List Char)} (hg : AreFurther (g.1 :: g.2))
    (hdash : isDashLine g.1 = true) (hrest : ∀ line ∈ g.2, isDashLine line = false) {s : Scan}
    {key : String} {items : List Item} (hs : s.openList.settled = some (key, items)) :
    ((g.1 :: g.2).foldl readLine s).stored = s.stored ∧
      ((g.1 :: g.2).foldl readLine s).openList.settled = some (key, items ++ [itemOf g]) := by
  obtain ⟨line, rest⟩ := g
  obtain ⟨hcontent, hkey⟩ := hg line List.mem_cons_self
  have hfurther : AreFurther rest := fun l hl => hg l (List.mem_cons_of_mem _ hl)
  obtain ⟨hin, hitem⟩ := readItem_of_settled hs (itemText line)
  rw [List.foldl_cons, readLine_of_dash hcontent hkey hdash hin, hitem, addItem, itemOf]
  split_ifs with hinline
  · rw [foldl_list hfurther hrest rfl]
    exact ⟨rfl, rfl⟩
  · cases hpair : pair? (itemText line) with
    | none =>
        simp only []
        rw [foldl_list hfurther hrest rfl]
        exact ⟨rfl, rfl⟩
    | some pair =>
        obtain ⟨k, v⟩ := pair
        simp only []
        rw [foldl_growing hfurther hrest]
        exact ⟨rfl, rfl⟩

theorem foldl_items {groups : List (List Char × List (List Char))}
    (hgroups : ∀ g ∈ groups, AreFurther (g.1 :: g.2) ∧ isDashLine g.1 = true ∧
      ∀ line ∈ g.2, isDashLine line = false)
    {s : Scan} {key : String} {items : List Item} (hs : s.openList.settled = some (key, items)) :
    ((groups.flatMap fun g => g.1 :: g.2).foldl readLine s).stored = s.stored ∧
      ((groups.flatMap fun g => g.1 :: g.2).foldl readLine s).openList.settled =
        some (key, items ++ groups.map itemOf) := by
  induction groups generalizing s items with
  | nil => simpa using hs
  | cons g groups ih =>
      obtain ⟨hfurther, hdash, hrest⟩ := hgroups g List.mem_cons_self
      obtain ⟨hstored, hsettled⟩ := foldl_item hfurther hdash hrest hs
      obtain ⟨hstored', hsettled'⟩ :=
        ih (fun g' hg' => hgroups g' (List.mem_cons_of_mem _ hg')) hsettled
      rw [List.flatMap_cons, List.foldl_append]
      refine ⟨hstored'.trans hstored, ?_⟩
      rw [hsettled', List.append_assoc, List.singleton_append, List.map_cons]

/-- A line with a key and the lines up to the next key close the open list and add one entry. -/
theorem close_foldl_block {block : List Char × List (List Char)}
    (hcontent : isContent block.1 = true) (hkey : isKeyLine block.1 = true)
    (hfurther : AreFurther block.2) (s : Scan) :
    ((block.1 :: block.2).foldl readLine s).close =
      s.close.insert (entryOf block).1 (entryOf block).2 := by
  obtain ⟨line, rest⟩ := block
  rw [List.foldl_cons, readLine_of_key hcontent hkey, entryOf]
  split_ifs with hempty
  · have hlead : AreFurther (sections isDashLine rest).1 :=
      fun l hl => hfurther l (mem_of_mem_lead hl)
    have hgroups : ∀ g ∈ (sections isDashLine rest).2, AreFurther (g.1 :: g.2) ∧
        isDashLine g.1 = true ∧ ∀ l ∈ g.2, isDashLine l = false :=
      fun g hg => ⟨fun l hl => hfurther l (mem_of_mem_section hg hl), of_mem_sections hg⟩
    have hparts := append_flatMap_sections isDashLine rest
    have hitems := @foldl_items _ hgroups ⟨s.close, .list (keyOf line) []⟩ (keyOf line) [] rfl
    conv_lhs => rw [← hparts]
    rw [List.foldl_append, foldl_list hlead not_marked_of_mem_lead rfl, close_of_settled hitems.2,
      hitems.1, List.nil_append]
  · rw [foldl_none hfurther rfl]
    rfl

theorem close_foldl_blocks {blocks : List (List Char × List (List Char))}
    (hblocks : ∀ b ∈ blocks, isContent b.1 = true ∧ isKeyLine b.1 = true ∧ AreFurther b.2)
    (s : Scan) :
    ((blocks.flatMap fun b => b.1 :: b.2).foldl readLine s).close =
      (blocks.map entryOf).foldl (fun d entry => d.insert entry.1 entry.2) s.close := by
  induction blocks generalizing s with
  | nil => rfl
  | cons b blocks ih =>
      obtain ⟨hcontent, hkey, hfurther⟩ := hblocks b List.mem_cons_self
      rw [List.flatMap_cons, List.foldl_append,
        ih fun b' hb' => hblocks b' (List.mem_cons_of_mem _ hb'),
        close_foldl_block hcontent hkey hfurther, List.map_cons, List.foldl_cons]

theorem foldl_filter_isContent (ls : List (List Char)) (s : Scan) :
    (ls.filter isContent).foldl readLine s = ls.foldl readLine s := by
  induction ls generalizing s with
  | nil => rfl
  | cons line rest ih =>
      cases hcontent : isContent line with
      | true => rw [List.filter_cons_of_pos hcontent, List.foldl_cons, List.foldl_cons, ih]
      | false =>
          rw [List.filter_cons_of_neg (by simp [hcontent]), List.foldl_cons,
            readLine_of_not_content hcontent, ih]

/-- Reading lines one by one comes to the same as reading them block by block. -/
theorem close_foldl_readLine (ls : List (List Char)) :
    (ls.foldl readLine start).close = ofBlocks ls := by
  have hfilter : ∀ line ∈ ls.filter isContent, isContent line = true :=
    fun line hline => (List.mem_filter.mp hline).2
  have hlead : AreFurther (sections isKeyLine (ls.filter isContent)).1 :=
    fun line hline => ⟨hfilter line (mem_of_mem_lead hline), not_marked_of_mem_lead line hline⟩
  have hblocks : ∀ b ∈ (sections isKeyLine (ls.filter isContent)).2,
      isContent b.1 = true ∧ isKeyLine b.1 = true ∧ AreFurther b.2 := by
    intro b hb
    obtain ⟨hkey, hrest⟩ := of_mem_sections hb
    exact ⟨hfilter _ (mem_of_mem_section hb List.mem_cons_self), hkey,
      fun l hl => ⟨hfilter l (mem_of_mem_section hb (List.mem_cons_of_mem _ hl)), hrest l hl⟩⟩
  rw [← foldl_filter_isContent, ← append_flatMap_sections isKeyLine (ls.filter isContent),
    List.foldl_append, foldl_none hlead rfl, close_foldl_blocks hblocks, ofBlocks,
    Dictionary.ofList]
  rfl

end Scan

/-- Reading a metadata block line by line comes to the same as reading it block by block. -/
theorem ofText_eq_ofBlocks (text : List Char) : ofText text = ofBlocks (lines text) :=
  Scan.close_foldl_readLine (lines text)

end Metadata

end RuleGate
