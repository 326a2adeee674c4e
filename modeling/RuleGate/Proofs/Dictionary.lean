import Mathlib.Data.List.Sort
import RuleGate.Text.Dictionary

/-! Looking up after inserting. A dictionary is determined by what is found in it, and reading its
own entries one after the other gives it back. -/

namespace RuleGate.Dictionary

universe u

variable {α : Type u}

/-! ### Look-up -/

theorem lookup_cons_eq_ite (key query : String) (value : α) (l : List (String × α)) :
    ((key, value) :: l).lookup query = if query = key then some value else l.lookup query := by
  rw [List.lookup_cons]
  by_cases h : query = key
  · subst h
    simp
  · rw [beq_false_of_ne h, if_neg h]

theorem lookup_insertInto (key query : String) (value : α) (l : List (String × α)) :
    (insertInto key value l).lookup query = if query = key then some value else l.lookup query := by
  induction l with
  | nil => rw [insertInto, lookup_cons_eq_ite]
  | cons head rest ih =>
      obtain ⟨k, v⟩ := head
      by_cases hquery : query = key
      · rw [if_pos hquery, insertInto]
        rw [if_pos hquery] at ih
        split_ifs with hlt heq
        · rw [lookup_cons_eq_ite, if_pos hquery]
        · rw [lookup_cons_eq_ite, if_pos hquery]
        · rw [lookup_cons_eq_ite, ih, if_neg (hquery ▸ heq)]
      · rw [if_neg hquery, insertInto]
        rw [if_neg hquery] at ih
        split_ifs with hlt heq
        · rw [lookup_cons_eq_ite, if_neg hquery]
        · rw [lookup_cons_eq_ite, lookup_cons_eq_ite, if_neg hquery, if_neg (heq ▸ hquery)]
        · rw [lookup_cons_eq_ite, lookup_cons_eq_ite, ih]

@[simp]
theorem find?_empty (query : String) : (empty : Dictionary α).find? query = none := rfl

@[simp]
theorem find?_insert (d : Dictionary α) (key query : String) (value : α) :
    (d.insert key value).find? query = if query = key then some value else d.find? query :=
  lookup_insertInto key query value d.entries

/-- Of several values put under one key the last is found. -/
theorem find?_foldl_insert (pairs : List (String × α)) (d : Dictionary α) (query : String) :
    (pairs.foldl (fun d pair => d.insert pair.1 pair.2) d).find? query =
      (pairs.reverse.lookup query).or (d.find? query) := by
  induction pairs generalizing d with
  | nil => rfl
  | cons pair rest ih =>
      obtain ⟨key, value⟩ := pair
      rw [List.foldl_cons, ih, List.reverse_cons, List.lookup_append, find?_insert,
        lookup_cons_eq_ite]
      by_cases h : query = key
      · simp [h]
      · simp [h]

theorem find?_ofList (pairs : List (String × α)) (query : String) :
    (ofList pairs).find? query = pairs.reverse.lookup query := by
  rw [ofList, find?_foldl_insert, find?_empty, Option.or_none]

theorem find?_ofList_pair (key other query : String) (value value' : α) :
    (ofList [(key, value), (other, value')]).find? query =
      if query = other then some value' else if query = key then some value else none := by
  rw [find?_ofList, List.reverse_cons, List.reverse_singleton, List.singleton_append,
    lookup_cons_eq_ite, lookup_cons_eq_ite, List.lookup_nil]

/-! ### Entries -/

theorem lookup_eq_some_iff_mem {l : List (String × α)} (hl : l.Pairwise (fun a b => a.1 < b.1))
    {key : String} {value : α} : l.lookup key = some value ↔ (key, value) ∈ l := by
  induction l with
  | nil => simp
  | cons head rest ih =>
      obtain ⟨k, v⟩ := head
      obtain ⟨hk, hrest⟩ := List.pairwise_cons.mp hl
      rw [lookup_cons_eq_ite, List.mem_cons, Prod.mk.injEq]
      by_cases h : key = k
      · have hnot : (key, value) ∉ rest := fun hmem => String.lt_irrefl k (h ▸ hk _ hmem)
        simp [h, eq_comm, h ▸ hnot]
      · simp [h, ih hrest]

theorem find?_eq_some_iff {d : Dictionary α} {key : String} {value : α} :
    d.find? key = some value ↔ (key, value) ∈ d.entries :=
  lookup_eq_some_iff_mem d.ascending

theorem isEmpty_of_find?_eq_some {d : Dictionary α} {key : String} {value : α}
    (h : d.find? key = some value) : d.isEmpty = false := by
  rw [isEmpty, List.isEmpty_eq_false_iff]
  exact List.ne_nil_of_mem (find?_eq_some_iff.mp h)

theorem nodup_keys {l : List (String × α)} (hl : l.Pairwise (fun a b => a.1 < b.1)) :
    (l.map Prod.fst).Nodup := by
  rw [List.Nodup, List.pairwise_map]
  refine List.Pairwise.imp ?_ hl
  intro a b hlt heq
  exact String.lt_irrefl b.1 (heq ▸ hlt)

/-- Dictionaries in which the same is found are the same. -/
theorem ext_find? {d e : Dictionary α} (h : ∀ key, d.find? key = e.find? key) : d = e := by
  have hmem : ∀ x, x ∈ d.entries ↔ x ∈ e.entries := by
    intro x
    rw [← find?_eq_some_iff (d := d), ← find?_eq_some_iff (d := e), h]
  have hperm : d.entries.Perm e.entries :=
    (List.perm_ext_iff_of_nodup (nodup_keys d.ascending).of_map
      (nodup_keys e.ascending).of_map).mpr hmem
  have heq : d.entries = e.entries := by
    refine hperm.eq_of_pairwise ?_ d.ascending e.ascending
    intro a b _ _ hab hba
    exact absurd (String.lt_trans hab hba) (String.lt_irrefl a.1)
  obtain ⟨l, hl⟩ := d
  obtain ⟨l', hl'⟩ := e
  cases heq
  rfl

theorem mem_entries_ofList {pairs : List (String × α)} {x : String × α}
    (h : x ∈ (ofList pairs).entries) : x ∈ pairs := by
  have hfound := find?_eq_some_iff.mpr h
  rw [find?_ofList] at hfound
  obtain ⟨_, _, heq, _⟩ := List.lookup_eq_some_iff.mp hfound
  rw [← List.mem_reverse, heq]
  simp

/-- A key is found if it was put in. -/
theorem isSome_find?_ofList {pairs : List (String × α)} {x : String × α} (h : x ∈ pairs) :
    ((ofList pairs).find? x.1).isSome := by
  rw [find?_ofList]
  by_contra hnone
  rw [Option.not_isSome_iff_eq_none, List.lookup_eq_none_iff] at hnone
  exact absurd (hnone x (List.mem_reverse.mpr h)) (by simp)

/-- Of pairs with different keys each is found. -/
theorem find?_ofList_eq_some_iff {pairs : List (String × α)} (hpairs : (pairs.map Prod.fst).Nodup)
    {key : String} {value : α} : (ofList pairs).find? key = some value ↔ (key, value) ∈ pairs := by
  constructor
  · intro h
    exact mem_entries_ofList (find?_eq_some_iff.mp h)
  · intro h
    obtain ⟨other, hother⟩ := Option.isSome_iff_exists.mp (isSome_find?_ofList h)
    have hmem := mem_entries_ofList (find?_eq_some_iff.mp hother)
    have hsame : (key, other) = (key, value) := List.inj_on_of_nodup_map hpairs hmem h rfl
    rw [hother, (Prod.mk.inj hsame).2]

/-- Reading the entries of a dictionary again gives the dictionary. -/
theorem ofList_entries (d : Dictionary α) : ofList d.entries = d := by
  apply ext_find?
  intro key
  apply Option.ext
  intro value
  rw [find?_ofList_eq_some_iff (nodup_keys d.ascending), find?_eq_some_iff]

/-- What stands before the entries does not count if its key is among theirs. -/
theorem ofList_cons_entries {d : Dictionary α} {key : String} (hkey : (d.find? key).isSome)
    (value : α) : ofList ((key, value) :: d.entries) = d := by
  apply ext_find?
  intro query
  have hlater : d.entries.reverse.lookup query = d.find? query := by
    rw [← find?_ofList, ofList_entries]
  rw [find?_ofList, List.reverse_cons, List.lookup_append, hlater, lookup_cons_eq_ite]
  by_cases hquery : query = key
  · obtain ⟨found, hfound⟩ := Option.isSome_iff_exists.mp hkey
    rw [hquery, hfound, Option.some_or]
  · rw [if_neg hquery, List.lookup_nil, Option.or_none]

end RuleGate.Dictionary
