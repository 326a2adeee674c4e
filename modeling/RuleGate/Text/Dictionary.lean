/-!
Dictionaries: finite maps from texts to values, kept in ascending order of their keys. Two
dictionaries with the same associations are equal, so a dictionary can stand in a statement of
equality. `insertInto_ascending` says that an insertion keeps the order.
-/

namespace RuleGate

universe u

/-- Texts with values, in strictly ascending order of the texts. The order is the order of code
points, which is also the order of the UTF-8 bytes. -/
structure Dictionary (α : Type u) where
  entries : List (String × α)
  ascending : entries.Pairwise (fun a b => a.1 < b.1)
  deriving DecidableEq

namespace Dictionary

variable {α : Type u}

/-- Puts a value in its place in an ascending list; a value already under the key is replaced. -/
def insertInto (key : String) (value : α) : List (String × α) → List (String × α)
  | [] => [(key, value)]
  | (k, v) :: rest =>
    if key < k then (key, value) :: (k, v) :: rest
    else if key = k then (key, value) :: rest
    else (k, v) :: insertInto key value rest

theorem mem_insertInto {key : String} {value : α} {l : List (String × α)} {x : String × α}
    (h : x ∈ insertInto key value l) : x = (key, value) ∨ x ∈ l := by
  induction l with
  | nil => simpa [insertInto] using h
  | cons head rest ih =>
    obtain ⟨k, v⟩ := head
    simp only [insertInto] at h
    split at h
    · simpa using h
    · split at h
      · rcases List.mem_cons.mp h with h | h
        · exact Or.inl h
        · exact Or.inr (List.mem_cons_of_mem _ h)
      · rcases List.mem_cons.mp h with h | h
        · exact Or.inr (by simp [h])
        · rcases ih h with h | h
          · exact Or.inl h
          · exact Or.inr (List.mem_cons_of_mem _ h)

theorem insertInto_ascending {key : String} {value : α} {l : List (String × α)}
    (h : l.Pairwise (fun a b => a.1 < b.1)) :
    (insertInto key value l).Pairwise (fun a b => a.1 < b.1) := by
  induction l with
  | nil => simp [insertInto]
  | cons head rest ih =>
    obtain ⟨k, v⟩ := head
    have hk := (List.pairwise_cons.mp h).1
    have hrest := (List.pairwise_cons.mp h).2
    simp only [insertInto]
    split
    · rename_i hlt
      refine List.pairwise_cons.mpr ⟨fun x hx => ?_, h⟩
      rcases List.mem_cons.mp hx with rfl | hx
      · exact hlt
      · exact String.lt_trans hlt (hk x hx)
    · rename_i hnlt
      split
      · rename_i heq
        subst heq
        exact List.pairwise_cons.mpr ⟨fun x hx => hk x hx, hrest⟩
      · rename_i hne
        refine List.pairwise_cons.mpr ⟨fun x hx => ?_, ih hrest⟩
        rcases mem_insertInto hx with rfl | hx
        · rcases String.le_total key k with hle | hle
          · exact absurd (String.le_antisymm hle (String.not_lt.mp hnlt)) hne
          · by_cases hlt : k < key
            · exact hlt
            · exact absurd (String.le_antisymm (String.not_lt.mp hlt) hle) hne
        · exact hk x hx

def empty : Dictionary α :=
  ⟨[], List.Pairwise.nil⟩

instance : Inhabited (Dictionary α) :=
  ⟨empty⟩

/-- The dictionary with one more entry; a value already under the key is replaced. -/
def insert (d : Dictionary α) (key : String) (value : α) : Dictionary α :=
  ⟨insertInto key value d.entries, insertInto_ascending d.ascending⟩

def find? (d : Dictionary α) (key : String) : Option α :=
  d.entries.lookup key

def isEmpty (d : Dictionary α) : Bool :=
  d.entries.isEmpty

/-- The dictionary of the given pairs, of which the last with a key counts. -/
def ofList (pairs : List (String × α)) : Dictionary α :=
  pairs.foldl (fun d pair => d.insert pair.1 pair.2) empty

end Dictionary

end RuleGate
