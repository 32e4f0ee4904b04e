import Mathlib.Data.List.Infix
import ModalEdit.Bracket

namespace ModalEdit

/-- As many opening as closing marks, and no beginning of the text with more closing ones. -/
structure Balanced (open' shut : Char) (text : List Char) : Prop where
  total : text.count open' = text.count shut
  ahead : ∀ part, part <+: text → part.count shut ≤ part.count open'

/-- How many more opening than closing marks stand before an offset. -/
def depthAt (open' shut : Char) (text : List Char) (k : Nat) : Int :=
  (text.take k).count open' - (text.take k).count shut

section Depth

variable {open' shut c : Char} {text : List Char} {depth i j k : Nat}

@[simp] theorem depthAt_nil (k : Nat) : depthAt open' shut [] k = 0 := by
  simp [depthAt]

@[simp] theorem depthAt_zero : depthAt open' shut text 0 = 0 := rfl

theorem depthAt_cons_opening (hne : open' ≠ shut) (k : Nat) :
    depthAt open' shut (open' :: text) (k + 1) = depthAt open' shut text k + 1 := by
  simp only [depthAt, List.take_succ_cons, List.count_cons_self, List.count_cons_of_ne hne]
  omega

theorem depthAt_cons_closing (hne : open' ≠ shut) (k : Nat) :
    depthAt open' shut (shut :: text) (k + 1) = depthAt open' shut text k - 1 := by
  simp only [depthAt, List.take_succ_cons, List.count_cons_self, List.count_cons_of_ne hne.symm]
  omega

theorem depthAt_cons_of_ne (ho : c ≠ open') (hs : c ≠ shut) (k : Nat) :
    depthAt open' shut (c :: text) (k + 1) = depthAt open' shut text k := by
  simp only [depthAt, List.take_succ_cons, List.count_cons_of_ne ho, List.count_cons_of_ne hs]

theorem depthAt_drop (i k : Nat) :
    depthAt open' shut (text.drop i) k =
      depthAt open' shut text (i + k) - depthAt open' shut text i := by
  simp only [depthAt, List.take_add, List.count_append]
  omega

/-- Read from an offset towards the start, with the marks exchanged, a text is as deep as it was
before what has been read. -/
theorem depthAt_reverse (hi : i ≤ text.length) (k : Nat) :
    depthAt shut open' (text.take i).reverse k =
      depthAt open' shut text (i - k) - depthAt open' shut text i := by
  have hlen : (text.take i).length = i := List.length_take_of_le hi
  have hsplit (c : Char) :
      (text.take i).count c =
        (text.take (i - k)).count c + ((text.take i).drop (i - k)).count c := by
    rw [← List.count_append]
    congr 1
    have h := List.take_append_drop (i - k) (text.take i)
    rwa [List.take_take, Nat.min_eq_left (Nat.sub_le i k), eq_comm] at h
  simp only [depthAt, List.take_reverse, hlen, List.count_reverse, hsplit]
  omega

theorem balanced_iff :
    Balanced open' shut text ↔
      depthAt open' shut text text.length = 0 ∧
        ∀ k ≤ text.length, 0 ≤ depthAt open' shut text k := by
  have hle (k : Nat) : 0 ≤ depthAt open' shut text k ↔
      (text.take k).count shut ≤ (text.take k).count open' := by
    simp only [depthAt]
    omega
  have htotal : depthAt open' shut text text.length = 0 ↔ text.count open' = text.count shut := by
    simp only [depthAt, List.take_length]
    omega
  simp only [hle, htotal]
  constructor
  · intro h
    exact ⟨h.total, fun k _ => h.ahead _ (List.take_prefix k text)⟩
  · rintro ⟨htotal, hahead⟩
    refine ⟨htotal, fun part hpart => ?_⟩
    rw [List.prefix_iff_eq_take.1 hpart]
    exact hahead _ hpart.length_le

theorem balanced_between_iff (h : j ≤ k) (hk : k ≤ text.length) :
    Balanced open' shut ((text.take k).drop j) ↔
      depthAt open' shut text k = depthAt open' shut text j ∧
        ∀ i, j ≤ i → i ≤ k → depthAt open' shut text j ≤ depthAt open' shut text i := by
  have hlen : ((text.take k).drop j).length = k - j := by
    rw [List.length_drop, List.length_take_of_le hk]
  have hdepth {i : Nat} (hi : i ≤ k) :
      depthAt open' shut (text.take k) i = depthAt open' shut text i := by
    simp only [depthAt, List.take_take, Nat.min_eq_left hi]
  rw [balanced_iff, hlen]
  simp only [depthAt_drop, Nat.add_sub_cancel' h, hdepth h, hdepth (Nat.le_refl k)]
  refine and_congr (by omega) ⟨fun hall i hji hik => ?_, fun hall i hi => ?_⟩
  · have := hall (i - j) (by omega)
    rw [Nat.add_sub_cancel' hji, hdepth hik] at this
    omega
  · rw [hdepth (by omega)]
    have := hall (j + i) (by omega) (by omega)
    omega

/-- Nothing is found exactly where the text is nowhere less deep than it may be. -/
theorem unmatched_eq_none_iff (hne : open' ≠ shut) :
    unmatched open' shut depth text = none ↔ ∀ k, -(depth : Int) ≤ depthAt open' shut text k := by
  induction text generalizing depth with
  | nil => simp [unmatched]
  | cons c rest ih =>
    have hsucc : (∀ k, -(depth : Int) ≤ depthAt open' shut (c :: rest) k) ↔
        ∀ k, -(depth : Int) ≤ depthAt open' shut (c :: rest) (k + 1) := by
      refine ⟨fun h k => h (k + 1), fun h k => ?_⟩
      cases k with
      | zero => simp
      | succ k => exact h k
    rw [hsucc]
    by_cases hopen : c = open'
    · subst hopen
      simp only [unmatched, if_true, Option.map_eq_none_iff, ih, depthAt_cons_opening hne]
      exact forall_congr' fun k => by omega
    · by_cases hshut : c = shut
      · subst hshut
        simp only [unmatched, if_neg hopen, if_true, depthAt_cons_closing hne]
        cases depth with
        | zero =>
          apply iff_of_false (Option.some_ne_none _)
          intro h
          exact absurd (h 0) (by simp)
        | succ depth =>
          simp only [Option.map_eq_none_iff, ih]
          exact forall_congr' fun k => by omega
      · simp only [unmatched, if_neg hopen, if_neg hshut, Option.map_eq_none_iff, ih,
          depthAt_cons_of_ne hopen hshut]

theorem unmatched_eq_some_iff (hne : open' ≠ shut) :
    unmatched open' shut depth text = some k ↔
      text[k]? = some shut ∧ depthAt open' shut text k = -(depth : Int) ∧
        ∀ j ≤ k, -(depth : Int) ≤ depthAt open' shut text j := by
  induction text generalizing depth k with
  | nil => simp [unmatched]
  | cons c rest ih =>
    have hsucc (k : Nat) : (∀ j ≤ k + 1, -(depth : Int) ≤ depthAt open' shut (c :: rest) j) ↔
        ∀ j ≤ k, -(depth : Int) ≤ depthAt open' shut (c :: rest) (j + 1) := by
      refine ⟨fun h j hj => h (j + 1) (Nat.succ_le_succ hj), fun h j hj => ?_⟩
      cases j with
      | zero => simp
      | succ j => exact h j (Nat.le_of_succ_le_succ hj)
    by_cases hopen : c = open'
    · subst hopen
      simp only [unmatched, if_true]
      cases k with
      | zero => simp [hne]
      | succ k =>
        simp only [Option.map_eq_some_iff, Nat.add_right_cancel_iff, exists_eq_right, ih, hsucc,
          List.getElem?_cons_succ, depthAt_cons_opening hne]
        refine and_congr Iff.rfl (and_congr ?_ (forall₂_congr fun j _ => ?_))
        · omega
        · omega
    · by_cases hshut : c = shut
      · subst hshut
        simp only [unmatched, if_neg hopen, if_true]
        cases k with
        | zero =>
          cases depth with
          | zero => simp
          | succ depth =>
            apply iff_of_false
            · simp
            · rintro ⟨_, h, _⟩
              rw [depthAt_zero] at h
              omega
        | succ k =>
          simp only [hsucc, List.getElem?_cons_succ, depthAt_cons_closing hne]
          cases depth with
          | zero =>
            apply iff_of_false
            · simp
            · rintro ⟨_, _, h⟩
              exact absurd (h 0 (Nat.zero_le k)) (by simp)
          | succ depth =>
            simp only [Option.map_eq_some_iff, Nat.add_right_cancel_iff, exists_eq_right, ih]
            refine and_congr Iff.rfl (and_congr ?_ (forall₂_congr fun j _ => ?_))
            · omega
            · omega
      · simp only [unmatched, if_neg hopen, if_neg hshut]
        cases k with
        | zero => simp [hshut]
        | succ k =>
          simp only [Option.map_eq_some_iff, Nat.add_right_cancel_iff, exists_eq_right, ih, hsucc,
            List.getElem?_cons_succ, depthAt_cons_of_ne hopen hshut]

end Depth

namespace Bracket

variable {b : Bracket} {text : List Char} {i k o c : Nat}

/-- Two offsets of a text that hold the marks of a bracket, with balanced text between them. -/
structure Matched (b : Bracket) (text : List Char) (o c : Nat) : Prop where
  lt : o < c
  opening : text[o]? = some b.opening
  closing : text[c]? = some b.closing
  balanced : Balanced b.opening b.closing ((text.take c).drop (o + 1))

/-- How many brackets are open at an offset. -/
abbrev depth (b : Bracket) (text : List Char) (k : Nat) : Int :=
  depthAt b.opening b.closing text k

theorem depth_succ_opening (h : text[k]? = some b.opening) :
    b.depth text (k + 1) = b.depth text k + 1 := by
  have hone : [b.opening].count b.closing = 0 := List.count_eq_zero.2 (by
    simpa using b.opening_ne_closing.symm)
  simp only [depth, depthAt, List.take_add_one, h, Option.toList_some, List.count_append,
    List.count_singleton_self, hone]
  omega

theorem depth_succ_closing (h : text[k]? = some b.closing) :
    b.depth text (k + 1) = b.depth text k - 1 := by
  have hone : [b.closing].count b.opening = 0 := List.count_eq_zero.2 (by
    simpa using b.opening_ne_closing)
  simp only [depth, depthAt, List.take_add_one, h, Option.toList_some, List.count_append,
    List.count_singleton_self, hone]
  omega

theorem matched_iff :
    b.Matched text o c ↔
      o < c ∧ text[o]? = some b.opening ∧ text[c]? = some b.closing ∧
        b.depth text c = b.depth text (o + 1) ∧
          ∀ k, o < k → k ≤ c → b.depth text (o + 1) ≤ b.depth text k := by
  constructor
  · rintro ⟨hlt, ho, hc, hb⟩
    have hlen := (List.getElem?_eq_some_iff.1 hc).1
    exact ⟨hlt, ho, hc, (balanced_between_iff hlt (Nat.le_of_lt hlen)).1 hb⟩
  · rintro ⟨hlt, ho, hc, hb⟩
    have hlen := (List.getElem?_eq_some_iff.1 hc).1
    exact ⟨hlt, ho, hc, (balanced_between_iff hlt (Nat.le_of_lt hlen)).2 hb⟩

/-- Searching ahead of an opening mark finds the closing mark that matches it. -/
theorem closingIn_eq_some_iff (ho : text[o]? = some b.opening) :
    b.closingIn (text.drop (o + 1)) = some k ↔ b.Matched text o (o + 1 + k) := by
  rw [matched_iff, closingIn, unmatched_eq_some_iff b.opening_ne_closing]
  simp only [List.getElem?_drop, depthAt_drop, depth, ho, true_and]
  constructor
  · rintro ⟨hc, hd, hall⟩
    refine ⟨by omega, hc, by omega, fun j hj hjk => ?_⟩
    have := hall (j - (o + 1)) (by omega)
    rw [Nat.add_sub_cancel' hj] at this
    omega
  · rintro ⟨_, hc, hd, hall⟩
    refine ⟨hc, by omega, fun j hj => ?_⟩
    have := hall (o + 1 + j) (by omega) (by omega)
    omega

theorem closingIn_eq_none_iff :
    b.closingIn (text.drop i) = none ↔ ∀ k, i ≤ k → b.depth text i ≤ b.depth text k := by
  rw [closingIn, unmatched_eq_none_iff b.opening_ne_closing]
  simp only [depthAt_drop, depth]
  constructor
  · intro h k hk
    have := h (k - i)
    rw [Nat.add_sub_cancel' hk] at this
    omega
  · intro h k
    have := h (i + k) (Nat.le_add_right i k)
    omega

/-- Searching back from an offset finds the nearest opening mark that is still open there. -/
theorem openingIn_eq_some_iff (hi : i ≤ text.length) :
    b.openingIn (text.take i).reverse = some k ↔
      k < i ∧ text[i - 1 - k]? = some b.opening ∧ b.depth text (i - k) = b.depth text i ∧
        ∀ j, i - k ≤ j → j ≤ i → b.depth text i ≤ b.depth text j := by
  have hlen : (text.take i).reverse.length = i := by
    rw [List.length_reverse, List.length_take_of_le hi]
  rw [openingIn, unmatched_eq_some_iff b.opening_ne_closing.symm]
  simp only [depthAt_reverse hi, depth]
  constructor
  · rintro ⟨ho, hd, hall⟩
    have hk : k < i := by
      rw [← hlen]
      exact (List.getElem?_eq_some_iff.1 ho).1
    rw [getElem?_reverse_take hi hk] at ho
    refine ⟨hk, ho, by omega, fun j hj hji => ?_⟩
    have := hall (i - j) (by omega)
    rw [Nat.sub_sub_self hji] at this
    omega
  · rintro ⟨hk, ho, hd, hall⟩
    refine ⟨(getElem?_reverse_take hi hk).trans ho, by omega, fun j hj => ?_⟩
    have := hall (i - j) (by omega) (Nat.sub_le i j)
    omega

theorem openingIn_eq_none_iff (hi : i ≤ text.length) :
    b.openingIn (text.take i).reverse = none ↔ ∀ k ≤ i, b.depth text i ≤ b.depth text k := by
  rw [openingIn, unmatched_eq_none_iff b.opening_ne_closing.symm]
  simp only [depthAt_reverse hi, depth]
  constructor
  · intro h k hk
    have := h (i - k)
    rw [Nat.sub_sub_self hk] at this
    omega
  · intro h k
    have := h (i - k) (Nat.sub_le i k)
    omega

end Bracket

end ModalEdit
