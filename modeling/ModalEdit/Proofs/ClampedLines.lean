import ModalEdit.Proofs.OperatorChanges
import ModalEdit.Proofs.Requests

namespace ModalEdit

namespace Buffer

theorem clampLine_mono (b : Buffer) {i j : Int} (h : i ≤ j) : b.clampLine i ≤ b.clampLine j := by
  simp only [clampLine]
  omega

theorem lineBounds_of_le {s : Span} (b : Buffer) (h : s.start.line ≤ s.stop.line) :
    b.lineBounds s = (b.clampLine s.start.line, b.clampLine s.stop.line) := by
  simp only [lineBounds, Nat.max_eq_right (b.clampLine_mono h)]

/-- The lines when those of a block have been emptied. -/
def emptied (b : Buffer) (top bottom : Nat) : List Line :=
  b.lines.take top ++ List.replicate (bottom + 1 - top) [] ++ b.lines.drop (bottom + 1)

theorem length_emptied {b : Buffer} {top bottom : Nat} (hle : top ≤ bottom)
    (h : bottom < b.size) : (b.emptied top bottom).length = b.size := by
  have hsize : b.lines.length = b.size := rfl
  simp only [emptied, List.length_append, List.length_take, List.length_replicate,
    List.length_drop, hsize]
  omega

theorem yankLines_result (b : Buffer) (s : Span) :
    (b.yankLines s).result b = .ok b ∧ b.IsCell (b.yankLines s).cursor := by
  have htop : (b.lineBounds s).1 < b.size :=
    Nat.lt_of_le_of_lt (b.lineBounds_le s) (b.lineBounds_lt s)
  exact ⟨rfl, isCell_natCast.2 ⟨htop, clampCol_le _ _⟩⟩

end Buffer

/-- The lines that an operator leaves of a buffer when it takes a block of them. -/
def Operator.linesLeft : Operator → Buffer → Nat → Nat → List Line
  | .delete, b, top, bottom => b.without top bottom
  | .change, b, top, bottom => b.emptied top bottom
  | .yank, b, _, _ => b.lines

theorem Operator.wholeLines_result (o : Operator) {b : Buffer} (h : b.Plain) (s : Span) :
    ∃ b', (o.wholeLines b s).result b = .ok b' ∧
      b'.lines = o.linesLeft b (b.lineBounds s).1 (b.lineBounds s).2 ∧
      b'.IsCell (o.wholeLines b s).cursor := by
  cases o with
  | delete => exact Buffer.deleteLines_result h s
  | change => exact Buffer.changeLines_result s
  | yank =>
    obtain ⟨hr, hcell⟩ := b.yankLines_result s
    exact ⟨b, hr, rfl, hcell⟩

namespace Document

variable {d : Document} {s : Span}

/-- An operator on whole lines takes exactly the lines between the two that its span names, once
these are moved into the buffer: they fill the register, the operator's own lines are left, and the
cursor is on a cell of the buffer that is left. -/
theorem line_operators_take_clamped (h : d.buffer.Plain) (hshape : s.shape = .linewise)
    (hle : s.start.line ≤ s.stop.line) (o : Operator) :
    let top := d.buffer.clampLine s.start.line
    let bottom := d.buffer.clampLine s.stop.line
    top ≤ bottom ∧ bottom < d.buffer.size ∧
    ∃ c d', o.run d.buffer s = .ok (some c) ∧
      c.register = some (.lines ((d.buffer.lines.drop top).take (bottom + 1 - top))) ∧
      (o = .yank → c.edit = none) ∧
      d.grant (.change c.edit c.cursor) = (d', none) ∧
      d'.buffer.lines = o.linesLeft d.buffer top bottom ∧
      (o ≠ .delete → d'.buffer.size = d.buffer.size) ∧
      d'.cursor = c.cursor ∧ d'.buffer.IsCell d'.cursor := by
  intro top bottom
  have hbounds : d.buffer.lineBounds s = (top, bottom) := d.buffer.lineBounds_of_le hle
  have htop : top ≤ bottom := d.buffer.clampLine_mono hle
  have hbottom : bottom < d.buffer.size := d.buffer.clampLine_lt _
  have hempty : s.isEmpty = false := by
    simp only [Span.isEmpty, hshape, decide_eq_false_iff_not, Int.not_lt]
    exact hle
  obtain ⟨b, hr, hlines, hcell⟩ := o.wholeLines_result h s
  have hreg := o.register_wholeLines d.buffer s
  rw [hbounds] at hlines hreg
  refine ⟨htop, hbottom, o.wholeLines d.buffer s, _, o.run_of_linewise d.buffer hshape hempty,
    hreg, ?_, grant_change hr, hlines, ?_, rfl, hcell⟩
  · rintro rfl
    rfl
  · intro ho
    have hsize : b.size = (o.linesLeft d.buffer top bottom).length := congrArg List.length hlines
    cases o with
    | delete => exact absurd rfl ho
    | change => exact hsize.trans (Buffer.length_emptied htop hbottom)
    | yank => exact hsize

theorem line_operators_take_clamped_outside :
    let d : Document := { buffer := .ofText "ab\ncd\nef".toList }
    (∃ c d', Operator.delete.run d.buffer ⟨⟨1, 7⟩, ⟨9, 0⟩, .linewise⟩ = .ok (some c) ∧
      c.register = some (.lines ["cd".toList, "ef".toList]) ∧
      d.grant (.change c.edit c.cursor) = (d', none) ∧ d'.buffer.lines = ["ab".toList] ∧
      d'.cursor = ⟨0, 1⟩) ∧
    ∃ c d', Operator.change.run d.buffer ⟨⟨-3, 0⟩, ⟨0, 0⟩, .linewise⟩ = .ok (some c) ∧
      c.register = some (.lines ["ab".toList]) ∧
      d.grant (.change c.edit c.cursor) = (d', none) ∧
      d'.buffer.lines = [[], "cd".toList, "ef".toList] := by
  intro d
  have hplain : d.buffer.Plain := Buffer.plain_ofText _
  constructor
  · obtain ⟨_, _, c, d', hrun, hreg, _, hgrant, hlines, _, hcursor, _⟩ :=
      line_operators_take_clamped hplain (s := ⟨⟨1, 7⟩, ⟨9, 0⟩, .linewise⟩) rfl (by decide) .delete
    cases hrun
    exact ⟨_, d', rfl, hreg, hgrant, hlines, hcursor⟩
  · obtain ⟨_, _, c, d', hrun, hreg, _, hgrant, hlines, _, _, _⟩ :=
      line_operators_take_clamped hplain (s := ⟨⟨-3, 0⟩, ⟨0, 0⟩, .linewise⟩) rfl (by decide) .change
    exact ⟨c, d', hrun, hreg, hgrant, hlines⟩

end Document

end ModalEdit
