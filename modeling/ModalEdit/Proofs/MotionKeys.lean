import ModalEdit.Proofs.MotionSteps
import ModalEdit.Proofs.TypedCounts

namespace ModalEdit

namespace Session

variable {s : Session} {d : Document} {c : Char} {m : Motion}

theorem isMotionKey_of_ofKey? (h : Motion.ofKey? c = some m) : isMotionKey c = true := by
  rw [isMotionKey, h]
  rfl

theorem lead_eq_none_of_isMotionKey (h : isMotionKey c = true) :
    Lead.visual? c = none ∧ Lead.normal? c = none ∧ Lead.afterOperator? c = none := by
  rw [isMotionKey, Bool.or_eq_true] at h
  rcases h with h | h
  · obtain ⟨m, hm⟩ := Option.isSome_iff_exists.1 h
    unfold Motion.ofKey? at hm
    split at hm <;> first | exact ⟨rfl, rfl, rfl⟩ | cases hm
  · simp only [List.contains_eq_mem, List.mem_cons, List.not_mem_nil, or_false,
      decide_eq_true_eq] at h
    rcases h with rfl | rfl | rfl | rfl | rfl <;> exact ⟨rfl, rfl, rfl⟩

theorem motionOn_of_ofKey? (h : Motion.ofKey? c = some m) (count : Option Int) :
    s.motionOn d count c = some m := by
  unfold motionOn
  split
  · cases h
  · cases h
  · cases h
  · cases h
  · cases h
  · exact h

theorem react_motionOn (hm : s.mode ≠ .insert) (hp : s.pending = .idle)
    (hd : (Key.char c).digit? = none) (hkey : isMotionKey c = true)
    (h : s.motionOn d s.motionCount c = some m) :
    s.react d (.char c) =
      (s.follow d.buffer (s.cursor d) s.motionCount (some m)).1.land d
        (s.follow d.buffer (s.cursor d) s.motionCount (some m)).2 := by
  obtain ⟨hvisual, hnormal, _⟩ := lead_eq_none_of_isMotionKey hkey
  rw [react_of_ne_insert hm Key.noConfusion]
  simp only [command, digit?_eq_none hd, hp, freshKey, hkey, h, if_true]
  cases hmode : s.mode with
  | normal => simp only [hnormal]
  | insert => exact absurd hmode hm
  | visual sel => simp only [hvisual]

theorem react_motionKey (hm : s.mode ≠ .insert) (hp : s.pending = .idle)
    (hd : (Key.char c).digit? = none) (h : Motion.ofKey? c = some m) :
    s.react d (.char c) =
      (s.follow d.buffer (s.cursor d) s.motionCount (some m)).1.land d
        (s.follow d.buffer (s.cursor d) s.motionCount (some m)).2 :=
  react_motionOn hm hp hd (isMotionKey_of_ofKey? h) (motionOn_of_ofKey? h _)

/-- After an operator a motion key is followed for its span, except by the two word motions after
`c`, which have a span of their own. -/
theorem react_operatorMotion {op : Operator} {count : Option Nat} (hm : s.mode = .normal)
    (hp : s.pending = .operator op count) (hd : (Key.char c).digit? = none)
    (h : Motion.ofKey? c = some m) (hw : op = .change → c ≠ 'w' ∧ c ≠ 'W') :
    s.react d (.char c) =
      (s.follow d.buffer (s.cursor d) s.motionCount (some m)).1.operate d op
        ((s.follow d.buffer (s.cursor d) s.motionCount (some m)).2.bind (·.span)) := by
  obtain ⟨_, _, hl⟩ := lead_eq_none_of_isMotionKey (isMotionKey_of_ofKey? h)
  have hop : c ≠ op.key := by
    rintro rfl
    cases op <;> cases h
  have hword : ¬ (op = .change ∧ (c = 'w' ∨ c = 'W') ∧
      d.buffer.startsOnBlank (s.cursor d) = false) := by
    rintro ⟨hchange, hc, _⟩
    exact hc.elim (hw hchange).1 (hw hchange).2
  rw [react_of_ne_insert (mode_ne_insert hm) Key.noConfusion]
  simp only [command, digit?_eq_none hd, hp, operatorKey, if_neg hop, hl, isMotionKey_of_ofKey? h,
    if_true, if_neg hword, motionOn_of_ofKey? h]

theorem putting?_of_isMotionKey (h : isMotionKey c = true) : s.putting? (.char c) = none := by
  unfold putting?
  split
  · rename_i c' _ _ he
    cases he
    split
    · rename_i hput
      rcases hput with rfl | rfl <;> cases h
    · rfl
  · rfl

theorem usesCount_of_isMotionKey (hm : s.mode ≠ .insert) (hp : s.pending = .idle)
    (h : isMotionKey c = true) : s.usesCount (.char c) = true := by
  obtain ⟨hvisual, hnormal, _⟩ := lead_eq_none_of_isMotionKey h
  cases hmode : s.mode with
  | normal => simp [usesCount, hmode, hp, hnormal, h]
  | insert => exact absurd hmode hm
  | visual sel => simp [usesCount, hmode, hp, hvisual, h]

theorem usesCount_of_motion (hm : s.mode ≠ .insert) (hp : s.pending = .idle)
    (h : Motion.ofKey? c = some m) : s.usesCount (.char c) = true :=
  usesCount_of_isMotionKey hm hp (isMotionKey_of_ofKey? h)

theorem Cleared.times_eq_one (h : s.Cleared) : times s.motionCount = 1 := by
  rw [motionCount, takenCount, h.1, h.2]
  rfl

/-- How many columns at the end of a line are no seat for the cursor. -/
def room (s : Session) : Nat :=
  match s.mode with
  | .visual _ => 0
  | _ => 1

theorem room_le (s : Session) : s.room ≤ 1 := by
  unfold room
  split
  · exact Nat.zero_le 1
  · exact Nat.le_refl 1

/-- The seat for the cursor nearest to a position. -/
def seat (s : Session) (b : Buffer) (p : Position) : Position :=
  match s.mode with
  | .visual _ => (b.locate p).position
  | _ => b.clamp p

theorem seat_ofNats {b : Buffer} {x : Nat × Nat} (h : x.1 < b.size) :
    s.seat b (.ofNats x) = .ofNats (b.seat s.room x) := by
  unfold seat room
  split
  · simp only [Position.ofNats, Buffer.locate, Buffer.clampLine_natCast h, Int.toNat_natCast]
    rfl
  · exact b.clamp_natCast h x.2

def takenTo (s : Session) (p : Position) (col : Option Int) : Session :=
  { s.clear with
    mode :=
      match s.mode with
      | .visual sel => .visual (sel.movedTo p)
      | mode => mode
    desiredCol := col }

/-- Takes the cursor to a seat, with a column for vertical motions to aim at. -/
def goTo (s : Session) (d : Document) (p : Position) (col : Option Int) : Reaction :=
  match s.mode with
  | .visual _ => (s.takenTo p col).showing d
  | _ => { session := s.takenTo p col, request := .ok (.moveTo p) }

@[simp] theorem session_goTo (s : Session) (d : Document) (p : Position) (col : Option Int) :
    (s.goTo d p col).session = s.takenTo p col := by
  unfold goTo
  split
  · rfl
  · rfl

theorem buffer_showing (s : Session) (d : Document) :
    (d.granted (s.showing d).request).buffer = d.buffer := by
  unfold showing
  cases s.mode with
  | normal => rfl
  | insert => rfl
  | visual sel =>
    simp only
    cases sel.highlight d.buffer with
    | error f => rfl
    | ok ends => rfl

theorem buffer_goTo (s : Session) (d : Document) (p : Position) (col : Option Int) :
    (d.granted (s.goTo d p col).request).buffer = d.buffer := by
  unfold goTo
  split
  · exact buffer_showing _ d
  · rfl

theorem seat_takenTo (s : Session) (b : Buffer) (p q : Position) (col : Option Int) :
    (s.takenTo p col).seat b q = s.seat b q := by
  obtain ⟨mode, pending, count, register, marks, desiredCol, lastSearch⟩ := s
  cases mode with
  | normal => rfl
  | insert => rfl
  | visual sel => rfl

theorem room_takenTo (s : Session) (p : Position) (col : Option Int) :
    (s.takenTo p col).room = s.room := by
  obtain ⟨mode, pending, count, register, marks, desiredCol, lastSearch⟩ := s
  cases mode with
  | normal => rfl
  | insert => rfl
  | visual sel => rfl

theorem takenTo_takenTo (s : Session) (p q : Position) (col col' : Option Int) :
    (s.takenTo p col).takenTo q col' = s.takenTo q col' := by
  obtain ⟨mode, pending, count, register, marks, desiredCol, lastSearch⟩ := s
  cases mode with
  | normal => rfl
  | insert => rfl
  | visual sel => rfl

theorem land_some (s : Session) (d : Document) (col : Option Int) (landing : Landing) :
    { s with desiredCol := col }.land d (some landing) =
      s.goTo d (s.seat d.buffer landing.position) col := by
  obtain ⟨mode, pending, count, register, marks, desiredCol, lastSearch⟩ := s
  cases mode with
  | normal => rfl
  | insert => rfl
  | visual sel => rfl

theorem copied_goTo (s : Session) (d : Document) (p : Position) (col : Option Int) :
    (s.goTo d p col).copied = none := by
  unfold goTo
  split
  · rfl
  · rfl

theorem react_stepKey {f : Nat × Nat → Nat × Nat} (hm : s.mode ≠ .insert)
    (hp : s.pending = .idle) (hd : (Key.char c).digit? = none) (h : Motion.ofKey? c = some m)
    (hf : m.step? d.buffer = some f) :
    let spot := d.buffer.locate (s.cursor d)
    let goal := f^[times s.motionCount] (spot.line, spot.col)
    s.react d (.char c) = s.goTo d (s.seat d.buffer (.ofNats goal)) none := by
  intro spot goal
  obtain ⟨landing, hrun, hland⟩ := Motion.run_of_step? hf (s.cursor d) s.motionCount
  have hno : ¬ (m = .up ∨ m = .down) := by
    rintro (rfl | rfl)
    · cases hf
    · cases hf
  rw [react_motionKey hm hp hd h]
  simp only [follow, if_neg hno, hrun, land_some, hland, spot, goal]

/-- A vertical motion that leads to another line takes the cursor there, and one that leads nowhere
sets the column to aim at only. -/
theorem react_verticalKey {i : Nat} (hm : s.mode ≠ .insert) (hp : s.pending = .idle)
    (hd : (Key.char c).digit? = none) (h : Motion.ofKey? c = some m) (hv : m = .up ∨ m = .down)
    (hi : i < d.buffer.size) (hcur : (s.cursor d).line = i) :
    let col := s.desiredCol.getD (s.cursor d).col
    let goal := m.goalLine d.buffer i (times s.motionCount)
    s.react d (.char c) =
      if goal = i then { session := { s.clear with desiredCol := some col } }
      else s.goTo d (s.seat d.buffer ⟨goal, min col (d.buffer.line goal).length⟩) (some col) := by
  intro col goal
  have hrun := Motion.run_vertical hv hi col s.motionCount
  rw [react_motionKey hm hp hd h]
  simp only [follow, if_pos hv, hcur]
  by_cases hgoal : goal = i
  · rw [if_pos hgoal] at hrun ⊢
    rw [Option.map_eq_none_iff.1 hrun]
    rfl
  · rw [if_neg hgoal] at hrun ⊢
    obtain ⟨landing, hrun, hland⟩ := Option.map_eq_some_iff.1 hrun
    rw [hrun, land_some, hland]

end Session

end ModalEdit
