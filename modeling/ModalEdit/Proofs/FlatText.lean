import ModalEdit.Buffer.Flat
import ModalEdit.Proofs.Places

namespace ModalEdit

theorem length_joinLines_cons (line : Line) {rest : List Line} (h : rest ≠ []) :
    (joinLines (line :: rest)).length = line.length + 1 + (joinLines rest).length := by
  rw [joinLines_cons_of_ne_nil _ h, List.length_append, List.length_cons]
  omega

/-- The character at a place of some lines; a newline ends every line but the last. -/
def charIn (lines : List Line) (i c : Nat) : Option Char :=
  (if i + 1 < lines.length then lines.getD i [] ++ ['\n'] else lines.getD i [])[c]?

theorem charIn_of_lt {lines : List Line} {i c : Nat} (hc : c < (lines.getD i []).length) :
    charIn lines i c = (lines.getD i [])[c]? := by
  unfold charIn
  split
  · exact List.getElem?_append_left hc
  · rfl

theorem charIn_length (lines : List Line) (i : Nat) :
    charIn lines i (lines.getD i []).length = if i + 1 < lines.length then some '\n' else none := by
  unfold charIn
  split
  · exact List.getElem?_concat_length
  · exact List.getElem?_eq_none (Nat.le_refl _)

theorem exists_getD_startsFrom {lines : List Line} (hne : lines ≠ []) (offset : Nat) {k : Nat}
    (hk : k ≤ (joinLines lines).length) :
    ∃ i c : Nat, i < lines.length ∧ c ≤ (lines.getD i []).length ∧
      (startsFrom offset lines).getD i 0 + c = offset + k ∧
      (joinLines lines)[k]? = charIn lines i c := by
  induction lines generalizing offset k with
  | nil => contradiction
  | cons line rest ih =>
    cases rest with
    | nil => exact ⟨0, k, Nat.one_pos, hk, rfl, rfl⟩
    | cons next rest =>
      by_cases h : k ≤ line.length
      · refine ⟨0, k, Nat.succ_pos _, h, rfl, ?_⟩
        have hmore : 0 + 1 < (line :: next :: rest).length := Nat.succ_lt_succ (Nat.succ_pos _)
        rw [joinLines_cons_of_ne_nil _ (List.cons_ne_nil _ _), charIn, if_pos hmore,
          List.getD_cons_zero]
        rcases Nat.lt_or_eq_of_le h with h | h
        · rw [List.getElem?_append_left h, List.getElem?_append_left h]
        · rw [List.getElem?_append_right (Nat.le_of_eq h.symm),
            List.getElem?_append_right (Nat.le_of_eq h.symm), h, Nat.sub_self]
          rfl
      · obtain ⟨k, rfl⟩ := Nat.exists_eq_add_of_lt (Nat.lt_of_not_le h)
        rw [length_joinLines_cons _ (List.cons_ne_nil _ _)] at hk
        obtain ⟨i, c, hi, hc, hat, hch⟩ :=
          ih (List.cons_ne_nil _ _) (offset + line.length + 1) (k := k) (by omega)
        refine ⟨i + 1, c, Nat.succ_lt_succ hi, hc, ?_, ?_⟩
        · rw [startsFrom, List.getD_cons_succ, hat]
          omega
        · have hskip : ('\n' :: joinLines (next :: rest))[k + 1]? = charIn (next :: rest) i c := hch
          rw [joinLines_cons_of_ne_nil _ (List.cons_ne_nil _ _),
            List.getElem?_append_right (by omega),
            show line.length + k + 1 - line.length = k + 1 by omega, hskip]
          simp only [charIn, List.length_cons, Nat.add_lt_add_iff_right, List.getD_cons_succ]

theorem getD_startsFrom_le {lines : List Line} (offset : Nat) {i c : Nat} (hi : i < lines.length)
    (hc : c ≤ (lines.getD i []).length) :
    (startsFrom offset lines).getD i 0 + c ≤ offset + (joinLines lines).length := by
  induction lines generalizing offset i with
  | nil => exact absurd hi (Nat.not_lt_zero i)
  | cons line rest ih =>
    cases i with
    | zero =>
      cases rest with
      | nil => exact Nat.add_le_add_left hc offset
      | cons next rest =>
        rw [length_joinLines_cons _ (List.cons_ne_nil _ _)]
        simp only [startsFrom, List.getD_cons_zero] at hc ⊢
        omega
    | succ i =>
      have hi' : i < rest.length := Nat.lt_of_succ_lt_succ hi
      have hne : rest ≠ [] := List.ne_nil_of_length_pos (Nat.lt_of_le_of_lt (Nat.zero_le i) hi')
      have hrest := ih (offset + line.length + 1) hi' hc
      rw [length_joinLines_cons _ hne]
      simp only [startsFrom, List.getD_cons_succ]
      omega

theorem le_getD_startsFrom {lines : List Line} (offset : Nat) {i : Nat} (hi : i < lines.length) :
    offset ≤ (startsFrom offset lines).getD i 0 := by
  induction lines generalizing offset i with
  | nil => exact absurd hi (Nat.not_lt_zero i)
  | cons line rest ih =>
    cases i with
    | zero => exact Nat.le_refl offset
    | succ i =>
      have hrest := ih (offset + line.length + 1) (Nat.lt_of_succ_lt_succ hi)
      rw [startsFrom, List.getD_cons_succ]
      omega

/-- The lines that start no later than a place are those up to its own. -/
theorem getD_startsFrom_le_iff {lines : List Line} (offset : Nat) {i c j : Nat}
    (hi : i < lines.length) (hc : c ≤ (lines.getD i []).length) (hj : j < lines.length) :
    (startsFrom offset lines).getD j 0 ≤ (startsFrom offset lines).getD i 0 + c ↔ j ≤ i := by
  induction lines generalizing offset i j with
  | nil => exact absurd hi (Nat.not_lt_zero i)
  | cons line rest ih =>
    cases i with
    | zero =>
      cases j with
      | zero => exact iff_of_true (Nat.le_add_right _ c) (Nat.le_refl 0)
      | succ j =>
        have hlater := le_getD_startsFrom (offset + line.length + 1) (Nat.lt_of_succ_lt_succ hj)
        simp only [startsFrom, List.getD_cons_zero, List.getD_cons_succ] at hc ⊢
        omega
    | succ i =>
      cases j with
      | zero =>
        have hlater := le_getD_startsFrom offset hi
        exact iff_of_true (Nat.le_trans hlater (Nat.le_add_right _ c)) (Nat.zero_le _)
      | succ j =>
        have hrest := ih (offset + line.length + 1) (Nat.lt_of_succ_lt_succ hi) hc
          (Nat.lt_of_succ_lt_succ hj)
        exact hrest.trans Nat.succ_le_succ_iff.symm

theorem positionIn_getD_startsFrom {lines : List Line} (offset : Nat) {i c : Nat}
    (hi : i < lines.length) (hc : c ≤ (lines.getD i []).length) :
    positionIn (startsFrom offset lines) ((startsFrom offset lines).getD i 0 + c : Nat) =
      ⟨i, c⟩ := by
  have hline : lineIn (startsFrom offset lines) ((startsFrom offset lines).getD i 0 + c : Nat) 0
      ((startsFrom offset lines).length - 1) = i := by
    rw [length_startsFrom]
    refine lineIn_eq (Nat.zero_le i) (Nat.le_sub_one_of_lt hi) fun j hj => ?_
    rw [Int.ofNat_le]
    exact getD_startsFrom_le_iff offset hi hc (Nat.lt_of_le_sub_one (Nat.zero_lt_of_lt hi) hj)
  rw [positionIn, hline, Int.natCast_add, Int.add_comm, Int.add_sub_cancel]

namespace Buffer

theorem offset_le {b : Buffer} {i c : Nat} (hi : i < b.size) (hc : c ≤ (b.line i).length) :
    b.offset i c ≤ b.text.length := by
  have h := getD_startsFrom_le 0 hi hc
  rwa [Nat.zero_add] at h

theorem positionAt_offset {b : Buffer} {i c : Nat} (hi : i < b.size)
    (hc : c ≤ (b.line i).length) : b.positionAt (b.offset i c) = ⟨i, c⟩ :=
  positionIn_getD_startsFrom 0 hi hc

/-- An offset of the text is that of a place of the buffer, with the same character at it. -/
theorem exists_offset_eq {b : Buffer} {k : Nat} (hk : k ≤ b.text.length) :
    ∃ i c : Nat, i < b.size ∧ c ≤ (b.line i).length ∧ b.offset i c = k ∧
      b.text[k]? = charIn b.lines i c := by
  have h := exists_getD_startsFrom b.lines_ne_nil 0 hk
  rwa [Nat.zero_add] at h

theorem contains_positionAt {b : Buffer} {k : Nat} (hk : k ≤ b.text.length) :
    b.Contains (b.positionAt k) := by
  obtain ⟨i, c, hi, hc, rfl, _⟩ := exists_offset_eq hk
  rw [positionAt_offset hi hc]
  exact contains_natCast.2 ⟨hi, hc⟩

/-- The position lies in the buffer, at an offset of the text. -/
def StandsAt (b : Buffer) (p : Position) (k : Nat) : Prop :=
  b.Contains p ∧ b.offset p.line.toNat p.col.toNat = k

theorem getElem?_offset_eq_charIn {b : Buffer} {i c : Nat} (hi : i < b.size)
    (hc : c ≤ (b.line i).length) : b.text[b.offset i c]? = charIn b.lines i c := by
  obtain ⟨j, d, hj, hd, heq, hat⟩ := exists_offset_eq (offset_le hi hc)
  -- A place is the position of its offset, so two places with one offset are the same.
  have hplace := positionAt_offset hj hd
  rw [heq, positionAt_offset hi hc] at hplace
  injection hplace with hline hcol
  rw [hat, Int.natCast_inj.1 hline, Int.natCast_inj.1 hcol]

theorem getElem?_offset {b : Buffer} {i c : Nat} (hi : i < b.size) (hc : c < (b.line i).length) :
    b.text[b.offset i c]? = (b.line i)[c]? :=
  (getElem?_offset_eq_charIn hi (Nat.le_of_lt hc)).trans (charIn_of_lt hc)

theorem Contains.standsAt {b : Buffer} {p : Position} (h : b.Contains p) :
    b.StandsAt p (b.offset p.line.toNat p.col.toNat) :=
  ⟨h, rfl⟩

theorem StandsAt.le_length {b : Buffer} {p : Position} {k : Nat} (h : b.StandsAt p k) :
    k ≤ b.text.length := by
  obtain ⟨hp, rfl⟩ := h
  obtain ⟨i, c, rfl, hi, hc⟩ := hp.exists_natCast
  exact offset_le hi hc

theorem standsAt_positionAt {b : Buffer} {k : Nat} (hk : k ≤ b.text.length) :
    b.StandsAt (b.positionAt k) k := by
  refine ⟨contains_positionAt hk, ?_⟩
  obtain ⟨i, c, hi, hc, rfl, _⟩ := exists_offset_eq hk
  rw [positionAt_offset hi hc]
  rfl

theorem standsAt_iff {b : Buffer} {p : Position} {k : Nat} (hk : k ≤ b.text.length) :
    b.StandsAt p k ↔ p = b.positionAt k := by
  constructor
  · rintro ⟨hp, rfl⟩
    obtain ⟨i, c, rfl, hi, hc⟩ := hp.exists_natCast
    exact (positionAt_offset hi hc).symm
  · rintro rfl
    exact standsAt_positionAt hk

theorem contains_after_positionAt {b : Buffer} {k : Nat} {ch : Char}
    (h : b.text[k]? = some ch) (hch : ch ≠ '\n') :
    b.Contains ⟨(b.positionAt k).line, (b.positionAt k).col + 1⟩ := by
  have hk : k < b.text.length := (List.getElem?_eq_some_iff.1 h).1
  obtain ⟨i, c, hi, hc, rfl, hat⟩ := exists_offset_eq (Nat.le_of_lt hk)
  rw [positionAt_offset hi hc]
  refine contains_natCast.2 ⟨hi, ?_⟩
  rcases Nat.lt_or_eq_of_le hc with hlt | heq
  · exact hlt
  · -- Past the end of its line stands a line break or nothing.
    have hend := hat.symm.trans h
    rw [heq, line, charIn_length] at hend
    split at hend
    · exact absurd (Option.some.inj hend).symm hch
    · cases hend

end Buffer

end ModalEdit
