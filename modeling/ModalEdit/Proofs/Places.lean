import Mathlib.Data.List.GetD
import ModalEdit.Buffer.Cell

namespace ModalEdit

namespace Position

theorem natCast_le {i c j d : Nat} :
    (⟨i, c⟩ : Position) ≤ ⟨j, d⟩ ↔ i < j ∨ i = j ∧ c ≤ d := by
  have h : (⟨i, c⟩ : Position) ≤ ⟨j, d⟩ ↔ (i : Int) < j ∨ (i : Int) = j ∧ (c : Int) ≤ d := le_iff
  rw [h]
  omega

protected theorem le_of_lt {p q : Position} (h : p < q) : p ≤ q :=
  (p.le_total q).resolve_right h

theorem earlier_of_le {p q : Position} (h : p ≤ q) : p.earlier q = p :=
  if_pos h

theorem later_of_le {p q : Position} (h : p ≤ q) : p.later q = q :=
  if_pos h

theorem earlier_le_later (p q : Position) : p.earlier q ≤ p.later q := by
  unfold earlier later
  split
  · assumption
  · rename_i h
    exact (p.le_total q).resolve_left h

end Position

theorem clampCol_natCast (n c : Nat) : clampCol n (c : Int) = min c (n - 1) := rfl

namespace Buffer

theorem contains_natCast {b : Buffer} {i c : Nat} :
    b.Contains ⟨i, c⟩ ↔ i < b.size ∧ c ≤ (b.line i).length := by
  simp only [Contains, Int.toNat_natCast]
  omega

theorem Contains.exists_natCast {b : Buffer} {p : Position} (h : b.Contains p) :
    ∃ i c : Nat, p = ⟨i, c⟩ ∧ i < b.size ∧ c ≤ (b.line i).length := by
  obtain ⟨i, c⟩ := p
  obtain ⟨hi, hi', hc, hc'⟩ := h
  obtain ⟨i, rfl⟩ := Int.eq_ofNat_of_zero_le hi
  obtain ⟨c, rfl⟩ := Int.eq_ofNat_of_zero_le hc
  refine ⟨i, c, rfl, ?_, ?_⟩
  · exact Int.ofNat_lt.1 hi'
  · exact Int.ofNat_le.1 hc'

theorem lt_size_of_getElem? {b : Buffer} {i c : Nat} {ch : Char} (h : (b.line i)[c]? = some ch) :
    i < b.size := by
  apply Nat.lt_of_not_le
  intro hle
  rw [line, List.getD_eq_default _ _ hle] at h
  cases h

theorem clampLine_natCast {b : Buffer} {i : Nat} (h : i < b.size) : b.clampLine (i : Int) = i := by
  simp only [clampLine, lastLine, Int.toNat_natCast]
  omega

theorem clamp_natCast {b : Buffer} {i : Nat} (h : i < b.size) (c : Nat) :
    b.clamp ⟨i, c⟩ = ⟨i, (min c ((b.line i).length - 1) : Nat)⟩ := by
  simp only [clamp, clampLine_natCast h, clampCol_natCast]

theorem locate_natCast {b : Buffer} {i c : Nat} (h : i < b.size)
    (hc : c ≤ (b.line i).length) : b.locate ⟨i, c⟩ = ⟨i, b.line i, c⟩ := by
  simp only [locate, clampLine_natCast h, Int.toNat_natCast, Nat.min_eq_left hc]

theorem locate_clamp (b : Buffer) (p : Position) :
    b.locate (b.clamp p) =
      ⟨b.clampLine p.line, b.line (b.clampLine p.line),
        clampCol (b.line (b.clampLine p.line)).length p.col⟩ :=
  locate_natCast (b.clampLine_lt p.line) (Nat.le_trans (clampCol_le _ _) (Nat.sub_le _ _))

theorem col_locate_clamp_lt {b : Buffer} {p : Position} (h : b.line (b.clampLine p.line) ≠ []) :
    (b.locate (b.clamp p)).col < (b.locate (b.clamp p)).text.length := by
  rw [b.locate_clamp]
  exact Nat.lt_of_le_of_lt (clampCol_le _ _) (Nat.sub_lt (List.length_pos_iff.2 h) Nat.one_pos)

theorem IsCell.contains {b : Buffer} {p : Position} (h : b.IsCell p) : b.Contains p := by
  rw [← h]
  exact b.contains_clamp p

theorem isCell_natCast {b : Buffer} {i c : Nat} :
    b.IsCell ⟨i, c⟩ ↔ i < b.size ∧ c ≤ (b.line i).length - 1 := by
  constructor
  · intro h
    have hi := (contains_natCast.1 h.contains).1
    rw [IsCell, clamp_natCast hi] at h
    injection h with _ hc
    constructor
    · exact hi
    · omega
  · rintro ⟨hi, hc⟩
    rw [IsCell, clamp_natCast hi, Nat.min_eq_left hc]

theorem IsCell.exists_natCast {b : Buffer} {p : Position} (h : b.IsCell p) :
    ∃ i c : Nat, p = ⟨i, c⟩ ∧ i < b.size ∧ c ≤ (b.line i).length - 1 := by
  obtain ⟨i, c, rfl, _, _⟩ := h.contains.exists_natCast
  exact ⟨i, c, rfl, isCell_natCast.1 h⟩

theorem isCell_clamp (b : Buffer) (p : Position) : b.IsCell (b.clamp p) :=
  isCell_natCast.2 ⟨b.clampLine_lt p.line, clampCol_le _ _⟩

theorem Contains.isCell_left {b : Buffer} {p : Position} (h : b.Contains p) :
    b.IsCell ⟨p.line, max 0 (p.col - 1)⟩ := by
  obtain ⟨i, c, rfl, hi, hc⟩ := h.exists_natCast
  have hleft : max 0 ((c : Int) - 1) = (c - 1 : Nat) := by omega
  simp only [hleft]
  exact isCell_natCast.2 ⟨hi, Nat.sub_le_sub_right hc 1⟩

instance (b : Buffer) (p : Position) : Decidable (b.IsCell p) :=
  inferInstanceAs (Decidable (b.clamp p = p))

theorem Plain.newlineFree_line {b : Buffer} (h : b.Plain) (i : Nat) : NewlineFree (b.line i) := by
  by_cases hi : i < b.lines.length
  · rw [line, List.getD_eq_getElem _ _ hi]
    exact h _ (List.getElem_mem hi)
  · rw [line, List.getD_eq_default _ _ (Nat.le_of_not_lt hi)]
    exact List.not_mem_nil

end Buffer

namespace Spot

/-- The spot stands on its line, which is a line of the buffer. -/
structure In (s : Spot) (b : Buffer) : Prop where
  line_lt : s.line < b.size
  text_eq : s.text = b.line s.line
  col_le : s.col ≤ s.text.length

theorem In.contains_at {s : Spot} {b : Buffer} (h : s.In b) {col : Nat}
    (hc : col ≤ s.text.length) : b.Contains (s.at col) :=
  Buffer.contains_natCast.2 ⟨h.line_lt, h.text_eq ▸ hc⟩

theorem In.contains_position {s : Spot} {b : Buffer} (h : s.In b) : b.Contains s.position :=
  h.contains_at h.col_le

end Spot

theorem Buffer.in_locate (b : Buffer) (p : Position) : (b.locate p).In b :=
  ⟨b.clampLine_lt p.line, rfl, b.col_locate_le p⟩

/-- The text of a charwise span lies in the buffer; the lines of a linewise one are moved there. -/
def Span.Inside (b : Buffer) (s : Span) : Prop :=
  s.shape = .charwise → b.Contains s.start ∧ b.Contains s.stop

theorem Span.inside_linewise (b : Buffer) (p q : Position) :
    Span.Inside b ⟨p, q, .linewise⟩ := by
  intro h
  cases h

theorem Span.lt_of_isEmpty_eq_false {i c j c' : Nat}
    (h : (⟨⟨i, c⟩, ⟨j, c'⟩, .charwise⟩ : Span).isEmpty = false) : i < j ∨ i = j ∧ c < c' := by
  have hlt : (⟨i, c⟩ : Position) < ⟨j, c'⟩ := of_decide_eq_false h
  have hlt' : (i : Int) < j ∨ (i : Int) = j ∧ (c : Int) < c' := Position.lt_iff.1 hlt
  omega

end ModalEdit
