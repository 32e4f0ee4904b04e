import ModalEdit.TextObject

namespace ModalEdit

section RunLength

variable {α : Type} {p : α → Bool} {xs : List α} {i n : Nat}

theorem lt_length_of_any (h : xs[i]?.any p = true) : i < xs.length := by
  apply Nat.lt_of_not_le
  intro hle
  rw [List.getElem?_eq_none hle] at h
  cases h

theorem runLength_cons (p : α → Bool) (x : α) (xs : List α) :
    runLength p (x :: xs) = if p x then runLength p xs + 1 else 0 := by
  rw [runLength, List.takeWhile_cons]
  split
  · rfl
  · rfl

theorem any_of_lt_runLength (h : i < runLength p xs) : xs[i]?.any p = true := by
  induction xs generalizing i with
  | nil => exact absurd h (Nat.not_lt_zero i)
  | cons x xs ih =>
    rw [runLength_cons] at h
    split at h
    · rename_i hx
      cases i with
      | zero => exact hx
      | succ i => exact ih (Nat.lt_of_succ_lt_succ h)
    · exact absurd h (Nat.not_lt_zero i)

theorem any_runLength (p : α → Bool) (xs : List α) : xs[runLength p xs]?.any p = false := by
  induction xs with
  | nil => rfl
  | cons x xs ih =>
    rw [runLength_cons]
    split
    · exact ih
    · rename_i hx
      exact Bool.eq_false_iff.2 hx

theorem runLength_pos (h : xs[0]?.any p = true) : 0 < runLength p xs := by
  apply Nat.pos_of_ne_zero
  intro hzero
  have hend := any_runLength p xs
  rw [hzero, h] at hend
  cases hend

theorem runLength_drop_runLength (p : α → Bool) (xs : List α) :
    runLength p (xs.drop (runLength p xs)) = 0 := by
  apply Nat.eq_zero_of_not_pos
  intro hpos
  have hon := any_of_lt_runLength hpos
  rw [List.getElem?_drop, Nat.add_zero, any_runLength] at hon
  cases hon

/-- Around an index all elements satisfy `p`, as far as the runs reach that end and begin there. -/
theorem any_of_run_around (hn : n ≤ xs.length)
    (hfirst : n - runLength p (xs.take n).reverse ≤ i) (hlast : i < n + runLength p (xs.drop n)) :
    xs[i]?.any p = true := by
  by_cases hi : i < n
  · have hnear : (xs.take n).reverse[n - 1 - i]?.any p = true := any_of_lt_runLength (by omega)
    rwa [getElem?_reverse_take hn (by omega), show n - 1 - (n - 1 - i) = i by omega] at hnear
  · have hnear : (xs.drop n)[i - n]?.any p = true := any_of_lt_runLength (by omega)
    rwa [List.getElem?_drop, Nat.add_sub_cancel' (Nat.le_of_not_lt hi)] at hnear

theorem any_before_run (hn : n ≤ xs.length)
    (h : i + 1 = n - runLength p (xs.take n).reverse) : xs[i]?.any p = false := by
  have hend := any_runLength p (xs.take n).reverse
  rwa [getElem?_reverse_take hn (by omega),
    show n - 1 - runLength p (xs.take n).reverse = i by omega] at hend

theorem any_after_run (p : α → Bool) (xs : List α) (n : Nat) :
    xs[n + runLength p (xs.drop n)]?.any p = false := by
  have hend := any_runLength p (xs.drop n)
  rwa [List.getElem?_drop] at hend

end RunLength

namespace Stretch

variable {p q : Char → Bool} {text : Line} {col : Nat} {s : Stretch}

/-- Every character of the stretch satisfies `p`, and those next to it, if any, do not. -/
structure IsRun (p : Char → Bool) (text : Line) (s : Stretch) : Prop where
  holds : ∀ i, s.first ≤ i → i < s.last → text[i]?.any p = true
  before : ∀ i, i + 1 = s.first → text[i]?.any p = false
  after : text[s.last]?.any p = false

/-- The column is one of the stretch. -/
def Covers (s : Stretch) (col : Nat) : Prop :=
  s.first ≤ col ∧ col < s.last

instance (s : Stretch) (col : Nat) : Decidable (s.Covers col) :=
  inferInstanceAs (Decidable (s.first ≤ col ∧ col < s.last))

theorem isRun_around (h : col ≤ text.length) : (around p text col).IsRun p text where
  holds _ hfirst hlast := any_of_run_around h hfirst hlast
  before _ hi := any_before_run h hi
  after := any_after_run p text col

theorem covers_around (h : text[col]?.any p = true) : (around p text col).Covers col := by
  have hahead : 0 < runLength p (text.drop col) := runLength_pos (by
    rw [List.getElem?_drop]
    exact h)
  exact ⟨Nat.sub_le _ _, Nat.lt_add_of_pos_right hahead⟩

end Stretch

end ModalEdit
