import ModalEdit.Proofs.Replacement
import ModalEdit.Session.Basic

namespace ModalEdit

namespace Document

variable {d : Document}

/-- The document after a request, or as it was where there is none. -/
def granted (d : Document) : Except Fault Request → Document
  | .ok request => (d.grant request).1
  | .error _ => d

/-- A change that can be made is granted; if it edits, the state before it is remembered. -/
theorem grant_change {c : Change} {b : Buffer} (h : c.result d.buffer = .ok b) :
    d.grant (.change c.edit c.cursor) =
      ({ d with
          buffer := b
          cursor := c.cursor
          selection := none
          history := if c.edit.isSome then (d.buffer, d.cursor) :: d.history else d.history },
        none) := by
  obtain ⟨cursor, edit, register, insert⟩ := c
  cases edit with
  | none =>
    cases h
    rfl
  | some e =>
    have hr : d.buffer.replace e = .ok b := h
    simp only [grant, replace, hr]
    rfl

theorem repeat_undo {m : Nat} (h : m < d.history.length) :
    (m + 1).repeat undo d =
      { d with
          buffer := d.history[m].1
          cursor := d.history[m].2
          history := d.history.drop (m + 1) } := by
  induction m with
  | zero =>
    obtain ⟨saved, earlier, he⟩ := List.exists_cons_of_length_pos h
    simp only [Nat.repeat, undo, he]
    rfl
  | succ m ih =>
    have hm : m < d.history.length := Nat.lt_of_succ_lt h
    rw [Nat.repeat, ih hm]
    simp only [undo, List.drop_eq_getElem_cons h]

/-- Going back leads to the last state asked for, or to the oldest one there is. -/
theorem undoTimes_of_getElem? {n : Nat} {saved : Buffer × Position} (hn : 0 < n)
    (h : d.history[min n d.history.length - 1]? = some saved) :
    d.undoTimes n =
      { d with
          buffer := saved.1
          cursor := saved.2
          history := d.history.drop (min n d.history.length) } := by
  obtain ⟨hlt, rfl⟩ := List.getElem?_eq_some_iff.1 h
  have hm : min n d.history.length - 1 + 1 = min n d.history.length := by omega
  have hr := repeat_undo hlt
  rw [hm] at hr
  exact hr

theorem undoTimes_of_history_eq_nil (h : d.history = []) (n : Nat) : d.undoTimes n = d := by
  rw [undoTimes, h, List.length_nil, Nat.min_zero]
  rfl

theorem undoTimes_one {saved : Buffer × Position} {earlier : List (Buffer × Position)}
    (h : d.history = saved :: earlier) :
    d.undoTimes 1 = { d with buffer := saved.1, cursor := saved.2, history := earlier } := by
  have hmin : min 1 d.history.length = 1 := by
    rw [h, List.length_cons]
    omega
  have hget : d.history[min 1 d.history.length - 1]? = some saved := by
    rw [hmin, h]
    rfl
  rw [undoTimes_of_getElem? Nat.one_pos hget, hmin, h]
  rfl

end Document

end ModalEdit
