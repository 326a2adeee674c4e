import Mathlib.Data.List.Basic
import Mathlib.Tactic.SplitIfs

/-! The order of texts. Comparing texts by their characters comes to the same as comparing the bytes
that they take in UTF-8, in which file systems and dictionaries keep names: of two different
characters the one with the smaller code point has the smaller byte at the first place where their
bytes differ. -/

namespace RuleGate.Text

/-- Of two numbers the smaller one is told by the digits in front, or else by the last one. -/
theorem digits_lt {v w : Nat} (h : v < w) :
    v / 64 < w / 64 ∨ v / 64 = w / 64 ∧ v % 64 < w % 64 := by
  omega

/-- Different characters settle the order of bytes, whatever follows them. -/
theorem utf8EncodeChar_append_lt {c d : Char} (h : c < d) (s t : List UInt8) :
    String.utf8EncodeChar c ++ s < String.utf8EncodeChar d ++ t := by
  have hbound : d.val.toNat < 0x110000 := by
    rcases d.valid with hd | ⟨_, hd⟩ <;> omega
  have hlt : c.val.toNat < d.val.toNat := h
  unfold String.utf8EncodeChar
  generalize c.val.toNat = v at *
  generalize d.val.toNat = w at *
  by_cases hfour : 65535 < v
  · -- Both take four bytes, which are the digits to the base 64 from the first to the last.
    have hthree : ∀ n, n / 4096 = n / 64 / 64 := fun n => (Nat.div_div_eq_div_mul n 64 64).symm
    have hall : ∀ n, n / 262144 = n / 64 / 64 / 64 := by
      intro n
      rw [Nat.div_div_eq_div_mul, Nat.div_div_eq_div_mul]
    have hv : ¬ v ≤ 127 ∧ ¬ v ≤ 2047 ∧ ¬ v ≤ 65535 := by omega
    have hw : ¬ w ≤ 127 ∧ ¬ w ≤ 2047 ∧ ¬ w ≤ 65535 := by omega
    simp only [hv, hw, if_false, List.cons_append, List.nil_append, List.cons_lt_cons_iff,
      UInt8.lt_iff_toNat_lt, ← UInt8.toNat_inj, UInt8.toNat_ofNat', hthree, hall]
    rcases digits_lt hlt with hfront | hlast
    · rcases digits_lt hfront with hfront | hlast
      · rcases digits_lt hfront with hfront | hlast <;> omega
      · omega
    · omega
  · simp only
    split_ifs <;>
      simp only [List.cons_append, List.nil_append, List.cons_lt_cons_iff, UInt8.lt_iff_toNat_lt,
        ← UInt8.toNat_inj, UInt8.toNat_ofNat'] <;>
      omega

theorem flatMap_utf8EncodeChar_lt {s t : List Char} (h : s < t) :
    s.flatMap String.utf8EncodeChar < t.flatMap String.utf8EncodeChar := by
  induction s generalizing t with
  | nil =>
      cases t with
      | nil => exact absurd h (List.lt_irrefl _)
      | cons d t =>
          rw [List.flatMap_nil, List.flatMap_cons]
          cases hbytes : String.utf8EncodeChar d with
          | nil => exact absurd hbytes (by simp)
          | cons byte rest => exact List.nil_lt_cons _ _
  | cons c s ih =>
      cases t with
      | nil => exact absurd h (List.not_lt_nil _)
      | cons d t =>
          rw [List.flatMap_cons, List.flatMap_cons]
          rcases List.cons_lt_cons_iff.mp h with hlt | ⟨rfl, hlt⟩
          · exact utf8EncodeChar_append_lt hlt _ _
          · exact List.append_left_lt (ih hlt)

theorem toList_utf8 (s : String) :
    s.toUTF8.data.toList = s.toList.flatMap String.utf8EncodeChar := by
  conv_lhs => rw [← String.ofList_toList (s := s)]
  rw [String.toUTF8_eq_toByteArray, String.toByteArray_ofList, List.utf8Encode,
    List.toList_data_toByteArray]

theorem utf8_lt_of_lt {s t : String} (h : s < t) : s.toUTF8.data.toList < t.toUTF8.data.toList := by
  rw [toList_utf8, toList_utf8]
  exact flatMap_utf8EncodeChar_lt (String.lt_iff.mp h)

/-- The order of texts is the order of their bytes. -/
theorem lt_iff_utf8_lt {s t : String} : s < t ↔ s.toUTF8.data.toList < t.toUTF8.data.toList := by
  refine ⟨utf8_lt_of_lt, fun h => ?_⟩
  by_contra hnot
  by_cases hlt : t < s
  · exact List.lt_asymm h (utf8_lt_of_lt hlt)
  · have heq : s = t := String.le_antisymm (String.not_lt.mp hlt) (String.not_lt.mp hnot)
    subst heq
    exact List.lt_irrefl _ h

end RuleGate.Text
