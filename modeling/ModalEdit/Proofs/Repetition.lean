import ModalEdit.Proofs.MotionKeys

namespace ModalEdit

/-- The keys of the motions that a count repeats. -/
def Motion.repeatedKeys : List Char :=
  ['h', 'j', 'k', 'l', 'w', 'W', 'b', 'B', 'e', 'E', '\x7b', '\x7d', '(', ')']

namespace Editor

variable {limits : Limits} {clipboard : Clipboard} {e : Editor} {c : Char} {m : Motion}
  {p q : Position} {col col' : Option Int}

/-- The editor with its cursor taken to a seat. -/
def goTo (e : Editor) (p : Position) (col : Option Int) : Editor :=
  { e with
      session := e.session.takenTo p col
      document := e.document.granted (e.session.goTo e.document p col).request }

def IsSeat (e : Editor) (p : Position) : Prop :=
  e.session.seat e.document.buffer p = p

theorem isSeat_seat (e : Editor) (p : Position) :
    e.IsSeat (e.session.seat e.document.buffer p) := by
  unfold IsSeat Session.seat
  cases e.session.mode with
  | normal => exact e.document.buffer.isCell_clamp p
  | insert => exact e.document.buffer.isCell_clamp p
  | visual sel =>
    obtain ⟨i, c, hp, hi, hc⟩ := (e.document.buffer.contains_locate p).exists_natCast
    simp only [hp, Buffer.locate_natCast hi hc]
    rfl

theorem IsSeat.contains (h : e.IsSeat p) : e.document.buffer.Contains p := by
  unfold IsSeat Session.seat at h
  rw [← h]
  split
  · exact e.document.buffer.contains_locate p
  · exact e.document.buffer.contains_clamp p

theorem goTo_of_normal (hm : e.session.mode = .normal) :
    e.goTo p col =
      { e with session := e.session.takenTo p col, document := e.document.moveTo p } := by
  simp only [goTo, Session.goTo, hm]
  rfl

theorem goTo_of_visual {sel : Selection} (h : e.Steady) (hm : e.session.mode = .visual sel)
    (hp : e.IsSeat p) (col : Option Int) :
    ∃ start stop, (sel.movedTo p).highlight e.document.buffer = .ok (start, stop) ∧
      e.goTo p col =
        { e with
            session := e.session.takenTo p col
            document := e.document.select start stop } := by
  have hin : (sel.movedTo p).Inside e.document.buffer := ⟨(h.selection sel hm).1, hp.contains⟩
  obtain ⟨start, stop, hh⟩ := Selection.exists_highlight hin
  refine ⟨start, stop, hh, ?_⟩
  simp only [goTo, Session.goTo, Session.showing, Session.takenTo, hm, hh]
  rfl

theorem buffer_goTo (e : Editor) (p : Position) (col : Option Int) :
    (e.goTo p col).document.buffer = e.document.buffer :=
  e.session.buffer_goTo e.document p col

theorem cursor_goTo (hne : e.session.mode ≠ .insert) (hp : e.IsSeat p) :
    (e.goTo p col).session.cursor (e.goTo p col).document = p := by
  cases hm : e.session.mode with
  | normal =>
    have hcell : e.document.buffer.clamp p = p := by
      simpa only [IsSeat, Session.seat, hm] using hp
    rw [goTo_of_normal hm]
    simp only [Session.cursor, Session.takenTo, hm]
    exact hcell
  | insert => exact absurd hm hne
  | visual sel => simp only [Session.cursor, goTo, Session.takenTo, hm, Selection.movedTo]

theorem mode_goTo (hne : e.session.mode ≠ .insert) : (e.goTo p col).session.mode ≠ .insert := by
  simp only [goTo, Session.takenTo]
  split
  · exact Mode.noConfusion
  · exact hne

theorem isSeat_goTo : (e.goTo p col).IsSeat q ↔ e.IsSeat q := by
  unfold IsSeat
  rw [buffer_goTo, goTo, Session.seat_takenTo]

theorem Steady.goTo (h : e.Steady) (hne : e.session.mode ≠ .insert) (hp : e.IsSeat p) :
    (e.goTo p col).Steady := by
  constructor
  · exact Session.Cleared.consistent ⟨rfl, rfl⟩
  · rw [buffer_goTo]
    intro sel' hm'
    cases hm : e.session.mode with
    | normal => simp [Editor.goTo, Session.takenTo, hm] at hm'
    | insert => exact absurd hm hne
    | visual sel =>
      simp only [Editor.goTo, Session.takenTo, hm, Mode.visual.injEq] at hm'
      subst hm'
      exact ⟨(h.selection sel hm).1, hp.contains⟩

theorem goTo_goTo (h : e.Steady) (hne : e.session.mode ≠ .insert) (hp : e.IsSeat p)
    (hq : e.IsSeat q) : (e.goTo p col).goTo q col' = e.goTo q col' := by
  cases hm : e.session.mode with
  | normal =>
    have hm' : (e.goTo p col).session.mode = .normal := by
      simp only [goTo, Session.takenTo, hm]
    rw [goTo_of_normal hm', goTo_of_normal hm, goTo_of_normal hm, Session.takenTo_takenTo]
    rfl
  | insert => exact absurd hm hne
  | visual sel =>
    have hm' : (e.goTo p col).session.mode = .visual (sel.movedTo p) := by
      simp only [goTo, Session.takenTo, hm]
    obtain ⟨start, stop, hh, he⟩ := goTo_of_visual h hm hq col'
    obtain ⟨start', stop', hh', he'⟩ := goTo_of_visual (h.goTo hne hp) hm'
      (isSeat_goTo.2 hq) col'
    obtain ⟨_, _, _, hfirst⟩ := goTo_of_visual h hm hp col
    rw [buffer_goTo] at hh'
    obtain ⟨rfl, rfl⟩ : start' = start ∧ stop' = stop := by
      simpa using hh'.symm.trans hh
    rw [he', he, hfirst, Session.takenTo_takenTo]
    rfl

theorem pressWithin_of_goTo {k : Key} (ho : e.session.obstacle limits k = none)
    (hr : e.session.react e.document k = e.session.goTo e.document p col) :
    (e.pressWithin limits clipboard k).1 = e.goTo p col := by
  have hcopied : (e.session.react e.document k).copied = none := by
    rw [hr]
    exact e.session.copied_goTo _ _ _
  rw [pressWithin_of_none ho, press_of_copied_eq_none hcopied, hr, Session.session_goTo]
  rfl

theorem isSeat_ofNats {x : Nat × Nat} (hx : x.1 < e.document.buffer.size) :
    e.IsSeat (.ofNats x) ↔ e.document.buffer.seat e.session.room x = x := by
  obtain ⟨i, c⟩ := x
  unfold IsSeat
  rw [Session.seat_ofNats hx]
  simp only [Position.ofNats, Buffer.seat, Position.mk.injEq, Prod.mk.injEq, Int.natCast_inj]

theorem isSeat_cursor (h : e.Steady) (hne : e.session.mode ≠ .insert) :
    e.IsSeat (e.session.cursor e.document) := by
  cases hm : e.session.mode with
  | normal =>
    simp only [IsSeat, Session.seat, Session.cursor, hm]
    exact e.document.buffer.isCell_clamp _
  | insert => exact absurd hm hne
  | visual sel =>
    simp only [IsSeat, Session.seat, Session.cursor, hm]
    obtain ⟨i, c, hp, hi, hc⟩ := (h.selection sel hm).2.exists_natCast
    rw [hp, Buffer.locate_natCast hi hc]
    rfl

section Steps

variable {b : Buffer} {room : Nat} {f : Nat × Nat → Nat × Nat} {x : Nat × Nat}

theorem pressWithin_stepKey (hne : e.session.mode ≠ .insert) (hp : e.session.pending = .idle)
    (hr : e.session.count.bind limits.number = none) (hb : e.document.buffer = b)
    (hroom : e.session.room = room) (hd : (Key.char c).digit? = none)
    (h : Motion.ofKey? c = some m) (hf : m.step? b = some f)
    (hcur : e.session.cursor e.document = .ofNats x) (hx : x.1 < b.size)
    (hseat : b.seat room x = x) :
    (e.pressWithin limits clipboard (.char c)).1 =
      e.goTo (.ofNats (b.seat room (f^[times e.session.motionCount] x))) none := by
  subst hb hroom
  have hreact := Session.react_stepKey hne hp hd h hf
  have hcol : x.2 ≤ (e.document.buffer.line x.1).length :=
    Nat.le_trans (Buffer.seat_eq_self_iff.1 hseat) (Nat.sub_le _ _)
  have hspot : e.document.buffer.locate (.ofNats x) = ⟨x.1, e.document.buffer.line x.1, x.2⟩ :=
    Buffer.locate_natCast hx hcol
  rw [hcur, hspot] at hreact
  have hkey : Session.isMotionKey c = true := Session.isMotionKey_of_ofKey? h
  apply pressWithin_of_goTo (Session.obstacle_eq_none hr (Session.putting?_of_isMotionKey hkey))
  rw [hreact, Session.seat_ofNats (Motion.iterate_step?_lt hf hx _)]

/-- Pressing the key of a step motion again and again takes a seat after every step. -/
theorem pressAll_stepKey (hs : e.Steady) (hne : e.session.mode ≠ .insert)
    (hc : e.session.Cleared) (hb : e.document.buffer = b) (hroom : e.session.room = room)
    (hd : (Key.char c).digit? = none) (h : Motion.ofKey? c = some m) (hf : m.step? b = some f)
    (hcur : e.session.cursor e.document = .ofNats x) (hx : x.1 < b.size)
    (hseat : b.seat room x = x) (n : Nat) :
    e.pressAll limits clipboard (List.replicate (n + 1) (.char c)) =
      e.goTo (.ofNats (b.seat room (f^[n + 1] x))) none := by
  have hle : room ≤ 1 := hroom ▸ e.session.room_le
  have hseats (k : Nat) : e.IsSeat (.ofNats (b.seat room (f^[k] x))) := by
    subst hb hroom
    have hlt : (e.document.buffer.seat e.session.room (f^[k] x)).1 < e.document.buffer.size :=
      Motion.iterate_step?_lt hf hx k
    exact (isSeat_ofNats hlt).2 (Buffer.seat_seat _ _ _)
  induction n with
  | zero =>
    have hfirst : (e.pressWithin limits clipboard (.char c)).1 = _ :=
      pressWithin_stepKey hne hc.1 (hc.number_eq_none limits) hb hroom hd h hf hcur hx hseat
    rw [hc.times_eq_one] at hfirst
    exact hfirst
  | succ n ih =>
    have hp := hseats (n + 1)
    have hlast : ((e.goTo (.ofNats (b.seat room (f^[n + 1] x))) none).pressWithin limits clipboard
        (.char c)).1 = _ :=
      pressWithin_stepKey (mode_goTo hne) rfl rfl ((e.buffer_goTo _ none).trans hb)
        ((e.session.room_takenTo _ none).trans hroom) hd h hf (cursor_goTo hne hp)
        (Motion.iterate_step?_lt hf hx (n + 1)) (Buffer.seat_seat _ _ _)
    rw [Session.Cleared.times_eq_one ⟨rfl, rfl⟩, Function.iterate_one,
      Motion.seat_step_seat hf hle hseat] at hlast
    rw [List.replicate_succ', pressAll_append, ih, pressAll_cons, pressAll_nil, hlast,
      goTo_goTo hs hne hp (hseats (n + 2))]

end Steps

section Vertical

variable {b : Buffer} {i : Nat}

/-- The seat nearest to a column of a line. -/
def aim (e : Editor) (goal : Nat) (col : Int) : Position :=
  e.session.seat e.document.buffer ⟨goal, min col (e.document.buffer.line goal).length⟩

theorem line_aim {goal : Nat} (h : goal < e.document.buffer.size) (col : Int) :
    (e.aim goal col).line = goal := by
  unfold aim Session.seat
  have hline := Buffer.clampLine_natCast h
  split
  · exact congrArg Nat.cast hline
  · exact congrArg Nat.cast hline

theorem aim_goTo (goal : Nat) (aimed : Int) : (e.goTo p col).aim goal aimed = e.aim goal aimed := by
  unfold aim
  rw [buffer_goTo]
  exact e.session.seat_takenTo _ _ _ _

/-- The editor after a vertical motion from line `i`: at a seat of another line, or where it was. -/
def aimAt (e : Editor) (i goal : Nat) (col : Int) : Editor :=
  if goal = i then { e with session := { e.session.clear with desiredCol := some col } }
  else e.goTo (e.aim goal col) (some col)

theorem pressWithin_verticalKey (hne : e.session.mode ≠ .insert) (hp : e.session.pending = .idle)
    (hr : e.session.count.bind limits.number = none) (hd : (Key.char c).digit? = none)
    (h : Motion.ofKey? c = some m) (hv : m = .up ∨ m = .down) (hi : i < e.document.buffer.size)
    (hcur : (e.session.cursor e.document).line = i) :
    (e.pressWithin limits clipboard (.char c)).1 =
      e.aimAt i (m.goalLine e.document.buffer i (times e.session.motionCount))
        (e.session.desiredCol.getD (e.session.cursor e.document).col) := by
  have hreact := Session.react_verticalKey hne hp hd h hv hi hcur
  have ho := Session.obstacle_eq_none hr
    (Session.putting?_of_isMotionKey (Session.isMotionKey_of_ofKey? h))
  unfold aimAt
  split
  · rename_i hgoal
    simp only [if_pos hgoal] at hreact
    exact pressWithin_of_react ho hreact
  · rename_i hgoal
    simp only [if_neg hgoal] at hreact
    exact pressWithin_of_goTo ho hreact

/-- One more vertical motion aims at the same column, on the line it leads to from the last one. -/
theorem pressWithin_aimAt {n : Nat} {col : Int} (hs : e.Steady) (hne : e.session.mode ≠ .insert)
    (hd : (Key.char c).digit? = none) (h : Motion.ofKey? c = some m) (hv : m = .up ∨ m = .down)
    (hi : i < e.document.buffer.size) (hcur : (e.session.cursor e.document).line = i) :
    ((e.aimAt i (m.goalLine e.document.buffer i (n + 1)) col).pressWithin limits clipboard
        (.char c)).1 =
      e.aimAt i (m.goalLine e.document.buffer i (n + 2)) col := by
  have hnext := Motion.goalLine_succ (m := m) hi (n + 1)
  have hback := Motion.goalLine_eq_self (m := m) (n := n) hi
  have hfirst := Motion.goalLine_one_eq_self (m := m) (n := n) hi
  have hlt := Motion.goalLine_lt (m := m) hi (n + 1)
  generalize m.goalLine e.document.buffer i (n + 1) = goal at *
  generalize m.goalLine e.document.buffer i (n + 2) = goal' at *
  by_cases hgoal : goal = i
  · rw [hgoal, hfirst hgoal] at hnext
    rw [hgoal, hnext]
    let e' : Editor := { e with session := { e.session.clear with desiredCol := some col } }
    have he : e.aimAt i i col = e' := if_pos rfl
    have hpress : (e'.pressWithin limits clipboard (.char c)).1 = _ :=
      pressWithin_verticalKey hne rfl rfl hd h hv hi hcur
    rw [Session.Cleared.times_eq_one ⟨rfl, rfl⟩, hfirst hgoal] at hpress
    rw [he, hpress]
    exact if_pos rfl
  · have hgoal' : goal' ≠ i := fun he => hgoal (hback he)
    have hp : e.IsSeat (e.aim goal col) := e.isSeat_seat _
    have hbuffer : (e.goTo (e.aim goal col) (some col)).document.buffer = e.document.buffer :=
      e.buffer_goTo _ _
    have hi' : goal < (e.goTo (e.aim goal col) (some col)).document.buffer.size := by
      rw [hbuffer]
      exact hlt
    have hcur' : ((e.goTo (e.aim goal col) (some col)).session.cursor
        (e.goTo (e.aim goal col) (some col)).document).line = goal := by
      rw [cursor_goTo hne hp]
      exact line_aim hlt col
    have hpress : ((e.goTo (e.aim goal col) (some col)).pressWithin limits clipboard
        (.char c)).1 = _ :=
      pressWithin_verticalKey (mode_goTo hne) rfl rfl hd h hv hi' hcur'
    rw [Session.Cleared.times_eq_one ⟨rfl, rfl⟩, hbuffer, ← hnext] at hpress
    rw [aimAt, if_neg hgoal, hpress, aimAt, aimAt, if_neg hgoal']
    split
    · rename_i hstay
      rw [hstay]
      rfl
    · rw [aim_goTo]
      exact goTo_goTo hs hne hp (e.isSeat_seat _)

theorem pressAll_verticalKey (hs : e.Steady) (hne : e.session.mode ≠ .insert)
    (hc : e.session.Cleared) (hd : (Key.char c).digit? = none) (h : Motion.ofKey? c = some m)
    (hv : m = .up ∨ m = .down) (hi : i < e.document.buffer.size)
    (hcur : (e.session.cursor e.document).line = i) (n : Nat) :
    e.pressAll limits clipboard (List.replicate (n + 1) (.char c)) =
      e.aimAt i (m.goalLine e.document.buffer i (n + 1))
        (e.session.desiredCol.getD (e.session.cursor e.document).col) := by
  induction n with
  | zero =>
    have hfirst : (e.pressWithin limits clipboard (.char c)).1 = _ :=
      pressWithin_verticalKey hne hc.1 (hc.number_eq_none limits) hd h hv hi hcur
    rw [hc.times_eq_one] at hfirst
    exact hfirst
  | succ n ih =>
    rw [List.replicate_succ', pressAll_append, ih, pressAll_cons, pressAll_nil,
      pressWithin_aimAt hs hne hd h hv hi hcur]

end Vertical

theorem times_withCount {n : Nat} (hc : e.session.Cleared) (hn : 0 < n) :
    times (e.withCount n).session.motionCount = n := by
  have hpos : (0 : Int) < n := Int.natCast_pos.2 hn
  simp only [Session.motionCount, Session.takenCount, withCount, hc.1, Pending.operatorCount,
    Option.map_some, times, if_pos hpos]
  rfl

theorem goTo_withCount (n : Nat) : (e.withCount n).goTo p col = e.goTo p col := rfl

theorem aimAt_withCount (n i goal : Nat) (col : Int) :
    (e.withCount n).aimAt i goal col = e.aimAt i goal col := rfl

end Editor

theorem Motion.of_mem_repeatedKeys {c : Char} (h : c ∈ repeatedKeys) (b : Buffer) :
    (Key.char c).digit? = none ∧
      ∃ m, ofKey? c = some m ∧ ((m = .up ∨ m = .down) ∨ ∃ f, m.step? b = some f) := by
  simp only [repeatedKeys, List.mem_cons, List.not_mem_nil, or_false] at h
  rcases h with rfl | rfl | rfl | rfl | rfl | rfl | rfl | rfl | rfl | rfl | rfl | rfl | rfl | rfl
  · exact ⟨rfl, _, rfl, .inr ⟨_, rfl⟩⟩
  · exact ⟨rfl, _, rfl, .inl (.inr rfl)⟩
  · exact ⟨rfl, _, rfl, .inl (.inl rfl)⟩
  all_goals exact ⟨rfl, _, rfl, .inr ⟨_, rfl⟩⟩

namespace Editor

variable {limits : Limits} {clipboard : Clipboard} {e : Editor} {c : Char} {n : Nat}

theorem pressAll_counted (hs : e.Steady) (hne : e.session.mode ≠ .insert)
    (hc : e.session.Cleared) (hk : c ∈ Motion.repeatedKeys) (hn : 0 < n)
    (hr : limits.number n = none) :
    ((e.withCount n).pressWithin limits clipboard (.char c)).1 =
      e.pressAll limits clipboard (List.replicate n (.char c)) := by
  have hcontains := (isSeat_cursor hs hne).contains
  obtain ⟨i, col, hcur, hi, _⟩ := hcontains.exists_natCast
  obtain ⟨n, rfl⟩ := Nat.exists_eq_add_of_lt hn
  rw [Nat.zero_add] at hr hn ⊢
  obtain ⟨hd, m, h, hv | ⟨f, hf⟩⟩ := Motion.of_mem_repeatedKeys hk e.document.buffer
  · have hline : (e.session.cursor e.document).line = i := by rw [hcur]
    have hcounted : ((e.withCount (n + 1)).pressWithin limits clipboard (.char c)).1 = _ :=
      pressWithin_verticalKey (e := e.withCount (n + 1)) hne hc.1 hr hd h hv hi hline
    rw [pressAll_verticalKey hs hne hc hd h hv hi hline, hcounted, times_withCount hc hn]
    exact aimAt_withCount _ _ _ _
  · have hplace : e.session.cursor e.document = .ofNats (i, col) := hcur
    have hseat : e.document.buffer.seat e.session.room (i, col) = (i, col) := by
      apply (isSeat_ofNats hi).1
      rw [← hplace]
      exact isSeat_cursor hs hne
    have hcounted : ((e.withCount (n + 1)).pressWithin limits clipboard (.char c)).1 = _ :=
      pressWithin_stepKey (e := e.withCount (n + 1)) hne hc.1 hr rfl rfl hd h hf hplace hi hseat
    rw [pressAll_stepKey hs hne hc rfl rfl hd h hf hplace hi hseat, hcounted,
      times_withCount hc hn]
    exact goTo_withCount _

/-- From every editor that keys lead to, a motion with a count does what pressing its key as often
does. Only where the digits of an integer are bounded can a count be too long to be read; the key
then fails and changes nothing. -/
theorem count_repeats {e₀ : Editor} (h₀ : e₀.session = {})
    (h : Reaches limits clipboard Keyed e₀ e) (hc : e.session.Cleared)
    (hne : e.session.mode ≠ .insert) (hk : c ∈ Motion.repeatedKeys) (hn : 0 < n) :
    (limits.number n = none →
        e.pressAll limits clipboard (Key.digits n ++ [.char c]) =
          e.pressAll limits clipboard (List.replicate n (.char c))) ∧
      ∀ f, limits.number n = some f →
        let typed := e.pressAll limits clipboard (Key.digits n)
        typed.pressWithin limits clipboard (.char c) = (typed, .error f) := by
  have hl := hc.lead?_eq_none
  constructor
  · intro hr
    rw [pressAll_append, pressAll_digits hn hne hl hc.2]
    exact pressAll_counted (h.steady h₀) hne hc hk hn hr
  · intro f hf
    obtain ⟨hd, m, hm, _⟩ := Motion.of_mem_repeatedKeys hk e.document.buffer
    rw [pressAll_digits hn hne hl hc.2]
    apply pressWithin_of_obstacle
    apply Session.Unreadable.obstacle
    refine ⟨Session.usesCount_of_motion hne hc.1 hm, ?_, n, rfl, hf⟩
    exact Session.digit?_eq_none hd

theorem count_repeats_words :
    let e : Editor := { document := { buffer := .ofText "ab cd".toList } }
    (e.pressAll .standard .working [.char '3', .char 'w']).document.cursor = ⟨0, 4⟩ ∧
      e.pressAll .standard .working [.char '3', .char 'w'] =
        e.pressAll .standard .working [.char 'w', .char 'w', .char 'w'] := by
  intro e
  have hwords : e.pressAll .standard .working (Key.digits 3 ++ [.char 'w']) =
      e.pressAll .standard .working (List.replicate 3 (.char 'w')) :=
    (count_repeats rfl .refl ⟨rfl, rfl⟩ Mode.noConfusion (by decide) (by decide)).1 rfl
  exact ⟨by decide, hwords⟩

end Editor

end ModalEdit
