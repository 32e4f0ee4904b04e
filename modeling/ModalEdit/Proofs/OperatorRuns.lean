import ModalEdit.Proofs.MotionKeys
import ModalEdit.Proofs.ObjectRoutes
import ModalEdit.Proofs.OperatorTargets

namespace ModalEdit

/-- The lines from one to another, with a column that the cursor may go to. -/
def Span.ofLines (top : Nat) (col : Int) (bottom : Nat) : Span :=
  ⟨⟨top, col⟩, ⟨bottom, 0⟩, .linewise⟩

theorem Span.isEmpty_ofLines {top bottom : Nat} (h : top ≤ bottom) (col : Int) :
    (ofLines top col bottom).isEmpty = false :=
  decide_eq_false (Int.not_lt.2 (Int.ofNat_le.2 h))

theorem Buffer.lineBounds_ofLines {b : Buffer} {top bottom : Nat} (h : top ≤ bottom)
    (hbottom : bottom < b.size) (col : Int) :
    b.lineBounds (.ofLines top col bottom) = (top, bottom) :=
  lineBounds_natCast h hbottom col 0 .linewise

theorem Operator.run_ofLines {top bottom : Nat} (op : Operator) (b : Buffer) (h : top ≤ bottom)
    (col : Int) :
    op.run b (.ofLines top col bottom) = .ok (some (op.wholeLines b (.ofLines top col bottom))) :=
  op.run_of_linewise b rfl (Span.isEmpty_ofLines h col)

section Counts

variable {count : Option Nat}

theorem pos_of_mem_some {m : Nat} (h : 0 < m) : ∀ n ∈ some m, 0 < n := by
  rintro _ ⟨⟩
  exact h

theorem getD_one_pos (hpos : ∀ n ∈ count, 0 < n) : 0 < count.getD 1 := by
  cases count with
  | none => exact Nat.one_pos
  | some n => exact hpos n rfl

theorem times_natCast (hpos : ∀ n ∈ count, 0 < n) :
    times (count.map (Nat.cast ·)) = count.getD 1 := by
  cases count with
  | none => rfl
  | some n => exact if_pos (Int.natCast_pos.2 (hpos n rfl))

theorem counted_natCast (hpos : ∀ n ∈ count, 0 < n) :
    (counted (count.map (Nat.cast ·))).getD 1 = (count.getD 1 : Nat) := by
  cases count with
  | none => rfl
  | some n =>
    have hn : (n : Int) ≠ 0 := Int.ofNat_ne_zero.2 (Nat.ne_of_gt (hpos n rfl))
    simp only [counted, Option.map_some, Option.filter, hn, ne_eq, not_false_eq_true, decide_true,
      if_true, Option.getD_some]

/-- As many lines as the count says, from the line of a spot on and up to the last one. -/
theorem Buffer.linesFrom_natCast (b : Buffer) (s : Spot) (hpos : ∀ n ∈ count, 0 < n) :
    b.linesFrom s (count.map (Nat.cast ·)) =
      .ofLines s.line s.col (min (s.line + count.getD 1 - 1) b.lastLine) := by
  have hone := getD_one_pos hpos
  have hlast : min ((s.line : Int) + (count.getD 1 : Nat) - 1) b.lastLine =
      (min (s.line + count.getD 1 - 1) b.lastLine : Nat) := by
    omega
  rw [linesFrom, counted_natCast hpos, hlast]
  rfl

end Counts

/-- The line that the cursor is on. -/
def Document.cursorLine (d : Document) : Nat :=
  d.buffer.clampLine d.cursor.line

namespace Session

variable {s : Session} {d : Document} {op : Operator} {count : Option Nat}

theorem react_doubledKey (hm : s.mode = .normal) (hp : s.pending = .operator op count) :
    s.react d (.char op.key) =
      s.operate d op (some
        (d.buffer.linesFrom (d.buffer.locate (d.buffer.clamp d.cursor)) s.motionCount)) := by
  have hd : (Key.char op.key).digit? = none := by cases op <;> rfl
  rw [react_of_ne_insert (mode_ne_insert hm) Key.noConfusion]
  simp only [command, digit?_eq_none hd, hp, operatorKey, if_true, cursor, hm]

end Session

namespace Editor

variable {limits : Limits} {clipboard : Clipboard} {e w : Editor} {c : Change} {k : Key}

/-- The editor after a change, in which nothing is left of the command that made it. -/
def changed (e : Editor) (clipboard : Clipboard) (c : Change) : Editor where
  session := (e.session.reset.apply c).session
  document := e.document.granted (.ok (.change c.edit c.cursor))
  copied := e.copied ++ if clipboard = .working then (c.register.map Register.text).toList else []

theorem pressWithin_operatorKey_of_unreadable {op : Operator} {n : Nat} {f : Fault}
    (hm : e.session.mode = .normal) (hp : e.session.pending = .idle)
    (hf : limits.number n = some f) :
    (e.withCount n).pressWithin limits clipboard (.char op.key) = (e.withCount n, .error f) := by
  apply pressWithin_of_obstacle
  apply Session.Unreadable.obstacle
  refine ⟨?_, ?_, n, rfl, hf⟩
  · simp only [withCount, Session.usesCount, hm, hp]
    cases op <;> rfl
  · apply Session.digit?_eq_none
    cases op <;> rfl

/-- What a command leaves that was given key by key. On the way the document may have got a
highlight, which the change takes away. -/
theorem pressWithin_eq_changed (ho : w.session.obstacle limits k = none)
    (hr : w.session.react w.document k = e.session.reset.apply c) (hc : w.copied = e.copied)
    (hlines : c.OnLines e.document.buffer)
    (hd : w.document.grant (.change c.edit c.cursor) =
      e.document.grant (.change c.edit c.cursor)) :
    (w.pressWithin limits clipboard k).1 = e.changed clipboard c := by
  rw [pressWithin_of_apply ho hr (hd.trans (Document.grant_of_onLines hlines)), hc]
  rfl

theorem ran_changed {op : Operator} {span : Span} (hm : e.session.mode = .normal)
    (hspan : span.Inside e.document.buffer)
    (hrun : op.run e.document.buffer span = .ok (some c)) : Ran op e (e.changed clipboard c) := by
  have hlines := (Operator.exists_register_of_run hspan hrun).2
  exact ⟨span, c, e.session.reset, hspan, hrun, ⟨hm.symm, rfl, rfl⟩, ⟨rfl, rfl⟩, rfl,
    Document.grant_of_onLines hlines⟩

end Editor

end ModalEdit
