import Mathlib.Data.List.Basic
import Mathlib.Data.List.Induction
import ModalEdit.Line.Search

namespace ModalEdit

section Positions

variable {α : Type} {p : α → Bool}

theorem nthIdx?_eq_getElem? (n : Nat) (xs : List α) :
    nthIdx? p (n + 1) xs = (xs.findIdxs p)[n]? := by
  induction xs generalizing n with
  | nil => rfl
  | cons x xs ih =>
    rw [nthIdx?, List.findIdxs_cons, List.findIdxs_start, Nat.zero_add]
    cases hx : p x with
    | false => simp [ih]
    | true =>
      cases n with
      | zero => rfl
      | succ n => simp [ih]

theorem nthIdx?_reverse_eq_getElem? (n : Nat) (xs : List α) :
    (nthIdx? p (n + 1) xs.reverse).map (xs.length - 1 - ·) = (xs.findIdxs p).reverse[n]? := by
  -- The search comes to the last element first.
  induction xs using List.reverseRecOn generalizing n with
  | nil => rfl
  | append_singleton xs x ih =>
    have hlen : (xs ++ [x]).length - 1 = xs.length := by simp
    have hshift : (fun i => xs.length - i) ∘ (· + 1) = (xs.length - 1 - ·) := by
      funext i
      simp only [Function.comp_apply]
      omega
    rw [hlen, List.reverse_append, List.reverse_singleton, List.singleton_append, nthIdx?,
      List.findIdxs_append, List.findIdxs_singleton, List.reverse_append]
    cases hx : p x with
    | false =>
      rw [if_neg Bool.false_ne_true, Option.map_map, hshift, ih]
      rfl
    | true =>
      cases n with
      | zero => simp
      | succ n =>
        rw [if_pos rfl, if_neg (Nat.succ_ne_zero n), Option.map_map, hshift, ih]
        rfl

end Positions

section Apart

variable {xs ys : List Nat} {x y n : Nat}

/-- One number comes before another in a list, with so many between them. -/
def Apart (xs : List Nat) (n x y : Nat) : Prop :=
  ∃ before between after, xs = before ++ x :: (between ++ y :: after) ∧ between.length = n

theorem filter_lt_of_pairwise (h : (xs ++ x :: ys).Pairwise (· < ·)) :
    (xs ++ x :: ys).filter (x < ·) = ys := by
  obtain ⟨_, hys, hxs⟩ := List.pairwise_append.1 h
  have hbefore : xs.filter (x < ·) = [] := by
    apply List.filter_eq_nil_iff.2
    intro z hz
    have hlt := hxs z hz x List.mem_cons_self
    simp only [decide_eq_true_eq]
    omega
  have hafter : ys.filter (x < ·) = ys := by
    apply List.filter_eq_self.2
    intro z hz
    exact decide_eq_true ((List.pairwise_cons.1 hys).1 z hz)
  rw [List.filter_append, hbefore, List.filter_cons_of_neg (by simp), hafter, List.nil_append]

theorem filter_gt_of_pairwise (h : (xs ++ x :: ys).Pairwise (· < ·)) :
    (xs ++ x :: ys).filter (· < x) = xs := by
  obtain ⟨_, hys, hxs⟩ := List.pairwise_append.1 h
  have hbefore : xs.filter (· < x) = xs := by
    apply List.filter_eq_self.2
    intro z hz
    exact decide_eq_true (hxs z hz x List.mem_cons_self)
  have hafter : ys.filter (· < x) = [] := by
    apply List.filter_eq_nil_iff.2
    intro z hz
    have hlt := (List.pairwise_cons.1 hys).1 z hz
    simp only [decide_eq_true_eq]
    omega
  rw [List.filter_append, hbefore, List.filter_cons_of_neg (by simp), hafter, List.append_nil]

theorem getElem?_filter_lt_iff (h : xs.Pairwise (· < ·)) (hx : x ∈ xs) :
    (xs.filter (x < ·))[n]? = some y ↔ Apart xs n x y := by
  constructor
  · obtain ⟨before, rest, rfl⟩ := List.append_of_mem hx
    rw [filter_lt_of_pairwise h]
    intro hy
    obtain ⟨hn, rfl⟩ := List.getElem?_eq_some_iff.1 hy
    refine ⟨before, rest.take n, rest.drop (n + 1), ?_, List.length_take_of_le (Nat.le_of_lt hn)⟩
    rw [List.getElem_cons_drop, List.take_append_drop]
  · rintro ⟨before, between, after, rfl, rfl⟩
    rw [filter_lt_of_pairwise h, List.getElem?_append_right (Nat.le_refl _), Nat.sub_self,
      List.getElem?_cons_zero]

theorem getElem?_reverse_filter_gt_iff (h : xs.Pairwise (· < ·)) (hy : y ∈ xs) :
    (xs.filter (· < y)).reverse[n]? = some x ↔ Apart xs n x y := by
  constructor
  · obtain ⟨rest, after, rfl⟩ := List.append_of_mem hy
    rw [filter_gt_of_pairwise h]
    intro hx
    obtain ⟨hn, rfl⟩ := List.getElem?_eq_some_iff.1 hx
    rw [List.length_reverse] at hn
    refine ⟨rest.take (rest.length - 1 - n), rest.drop (rest.length - 1 - n + 1), after, ?_, ?_⟩
    · rw [List.getElem_reverse, ← List.cons_append, ← List.append_assoc, List.getElem_cons_drop,
        List.take_append_drop]
    · rw [List.length_drop]
      omega
  · rintro ⟨before, between, after, rfl, rfl⟩
    rw [← List.cons_append, ← List.append_assoc] at h ⊢
    rw [filter_gt_of_pairwise h, List.reverse_append, List.reverse_cons, List.append_assoc,
      List.getElem?_append_right (Nat.le_of_eq List.length_reverse), List.length_reverse,
      Nat.sub_self]
    rfl

end Apart

/-- Columns after a column that hold a character, from left to right. -/
def columnsAfter (text : Line) (c : Char) (col : Nat) : List Nat :=
  (text.idxsOf c).filter (col < ·)

def columnsBefore (text : Line) (c : Char) (col : Nat) : List Nat :=
  (text.idxsOf c).filter (· < col)

variable {text : Line} {c : Char} {p q n : Nat}

theorem columnsAfter_eq_map (text : Line) (c : Char) (p : Nat) :
    columnsAfter text c p = ((text.drop (p + 1)).idxsOf c).map (p + 1 + ·) := by
  -- From the last column on nothing is left, and the shift is by more than the line has.
  rcases Nat.le_total text.length (p + 1) with h | h
  · rw [List.drop_of_length_le h, columnsAfter]
    apply List.filter_eq_nil_iff.2
    intro i hi
    have hlt := List.lt_add_of_mem_idxsOf i hi
    simp only [decide_eq_true_eq]
    omega
  · have hlen : (text.take (p + 1)).length = p + 1 := List.length_take_of_le h
    conv_lhs => rw [columnsAfter, ← List.take_append_drop (p + 1) text]
    rw [List.idxsOf_append, List.filter_append, hlen, Nat.zero_add, List.filter_eq_nil_iff.2,
      List.filter_eq_self.2, List.nil_append, List.idxsOf_start]
    · simp only [Nat.add_comm]
    · intro i hi
      exact decide_eq_true (List.ge_of_mem_idxsOf i hi)
    · intro i hi
      have hlt := List.lt_add_of_mem_idxsOf i hi
      simp only [decide_eq_true_eq]
      omega

theorem columnsBefore_eq_take (text : Line) (c : Char) (p : Nat) :
    columnsBefore text c p = (text.take p).idxsOf c := by
  conv_lhs => rw [columnsBefore, ← List.take_append_drop p text]
  rw [List.idxsOf_append, List.filter_append, List.filter_eq_self.2, List.filter_eq_nil_iff.2,
    List.append_nil]
  · intro i hi
    have hge := List.ge_of_mem_idxsOf i hi
    have hlt := List.lt_add_of_mem_idxsOf i hi
    simp only [List.length_take, List.length_drop, decide_eq_true_eq] at hge hlt ⊢
    omega
  · intro i hi
    have hlt := List.lt_add_of_mem_idxsOf i hi
    have hle := List.length_take_le p text
    exact decide_eq_true (by omega)

theorem beq_singleton (c : Char) : (fun d => [d] == [c]) = (· == c) := by
  funext d
  simp

theorem findAhead_eq (hn : 0 < n) :
    findAhead text p [c] n = (columnsAfter text c p)[n - 1]? := by
  obtain ⟨n, rfl⟩ := Nat.exists_eq_add_one.2 hn
  rw [findAhead, beq_singleton, nthIdx?_eq_getElem?, columnsAfter_eq_map, List.getElem?_map]
  rfl

theorem findBehind_eq (hn : 0 < n) :
    findBehind text p [c] n = (columnsBefore text c p).reverse[n - 1]? := by
  obtain ⟨n, rfl⟩ := Nat.exists_eq_add_one.2 hn
  rw [findBehind, beq_singleton, ← List.length_take, nthIdx?_reverse_eq_getElem?,
    columnsBefore_eq_take]
  rfl

theorem mem_idxsOf_iff_getElem? : p ∈ text.idxsOf c ↔ text[p]? = some c := by
  rw [List.mem_idxsOf_iff_exists_getElem_pos, List.getElem?_eq_some_iff]
  simp only [beq_iff_eq]

/-- A search ahead lands on a column exactly where the search behind from there lands on the one
that the first started from. -/
theorem findAhead_iff_findBehind (hn : 0 < n) (hp : text[p]? = some c) (hq : text[q]? = some c) :
    findAhead text p [c] n = some q ↔ findBehind text q [c] n = some p := by
  have hpairwise : (text.idxsOf c).Pairwise (· < ·) := List.pairwise_idxsOf
  rw [findAhead_eq hn, findBehind_eq hn, columnsAfter, columnsBefore,
    getElem?_filter_lt_iff hpairwise (mem_idxsOf_iff_getElem?.2 hp),
    getElem?_reverse_filter_gt_iff hpairwise (mem_idxsOf_iff_getElem?.2 hq)]

theorem getElem?_of_findAhead (hn : 0 < n) (h : findAhead text p [c] n = some q) :
    text[q]? = some c := by
  rw [findAhead_eq hn] at h
  exact mem_idxsOf_iff_getElem?.1 (List.mem_filter.1 (List.mem_of_getElem? h)).1

theorem getElem?_of_findBehind (hn : 0 < n) (h : findBehind text p [c] n = some q) :
    text[q]? = some c := by
  rw [findBehind_eq hn] at h
  exact mem_idxsOf_iff_getElem?.1
    (List.mem_filter.1 (List.mem_reverse.1 (List.mem_of_getElem? h))).1

namespace SearchKind

/-- The two kinds of search that land on the character itself. -/
def LandsOn (kind : SearchKind) : Prop :=
  kind = .find ∨ kind = .findBack

theorem LandsOn.getElem? {kind : SearchKind} (h : kind.LandsOn) (hn : 0 < n)
    (hq : kind.landing? text p [c] n = some q) : text[q]? = some c := by
  rcases h with rfl | rfl
  · exact getElem?_of_findAhead hn hq
  · exact getElem?_of_findBehind hn hq

theorem LandsOn.reverse {kind : SearchKind} (h : kind.LandsOn) (hn : 0 < n)
    (hp : text[p]? = some c) (hq : kind.landing? text p [c] n = some q) :
    kind.reverse.landing? text q [c] n = some p := by
  have hfound := h.getElem? hn hq
  rcases h with rfl | rfl
  · exact (findAhead_iff_findBehind hn hp hfound).1 hq
  · exact (findAhead_iff_findBehind hn hfound hp).2 hq

end SearchKind

end ModalEdit
