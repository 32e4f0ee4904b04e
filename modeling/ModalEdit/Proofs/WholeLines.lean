import ModalEdit.Proofs.OperatorRuns
import ModalEdit.Proofs.Repetition

namespace ModalEdit

/-- The change with its cursor at another column. -/
def Change.atColumn (c : Change) (col : Int) : Change :=
  { c with cursor := ⟨c.cursor.line, col⟩ }

/-- Of a span of lines an operator sees nothing but the lines, apart from the column. -/
theorem Operator.exists_wholeLines_atColumn (o : Operator) {b : Buffer} {s s' : Span}
    (h : b.lineBounds s' = b.lineBounds s) :
    ∃ col, o.wholeLines b s' = (o.wholeLines b s).atColumn col := by
  cases o with
  | delete =>
    refine ⟨(b.deleteLines s').cursor.col, ?_⟩
    simp only [wholeLines, Buffer.deleteLines, h, Change.atColumn]
    split
    · rfl
    · split
      · rfl
      · rfl
  | change =>
    refine ⟨0, ?_⟩
    simp only [wholeLines, Buffer.changeLines, h, Change.atColumn]
  | yank =>
    refine ⟨(b.yankLines s').cursor.col, ?_⟩
    simp only [wholeLines, Buffer.yankLines, h, Change.atColumn]

/-- Above the last line the motion to a line below covers the lines from the one it starts on to
the one it leads to. -/
theorem Motion.span_run_down {b : Buffer} {i : Nat} (hi : i < b.lastLine) (col : Int)
    (count : Option Int) :
    (Motion.down.run b ⟨i, col⟩ count).bind (·.span) =
      some (.ofLines i col (min (i + times count) b.lastLine)) := by
  have hline : (b.locate ⟨i, col⟩).line = i :=
    Buffer.clampLine_natCast (Nat.lt_trans hi b.lastLine_lt_size)
  have hpos := times_pos count
  have hgoal : min (i + times count) b.lastLine ≠ i := by omega
  simp only [run, hline, if_neg hgoal]
  rfl

theorem Selection.span_linewise {p q : Position} {top bottom : Nat} (hp : p.line = top)
    (hq : q.line = bottom) (h : top ≤ bottom) :
    (⟨p, q, .linewise⟩ : Selection).span = .ofLines top 0 bottom := by
  have hle : (top : Int) ≤ bottom := Int.ofNat_le.2 h
  simp only [span, Selection.top, Selection.bottom, hp, hq, Int.min_eq_left hle,
    Int.max_eq_right hle]
  rfl

namespace Document

/-- What an operator makes of the line of the cursor and of so many below it as there are. -/
def linesBelow (d : Document) (op : Operator) (m : Nat) (col : Int) : Change :=
  op.wholeLines d.buffer (.ofLines d.cursorLine col (min (d.cursorLine + m) d.buffer.lastLine))

theorem cursorLine_le (d : Document) (m : Nat) :
    d.cursorLine ≤ min (d.cursorLine + m) d.buffer.lastLine :=
  Nat.le_min.2 ⟨Nat.le_add_right _ _, Nat.le_sub_one_of_lt (d.buffer.clampLine_lt _)⟩

theorem run_linesBelow (d : Document) (op : Operator) (m : Nat) (col : Int) :
    op.run d.buffer (.ofLines d.cursorLine col (min (d.cursorLine + m) d.buffer.lastLine)) =
      .ok (some (d.linesBelow op m col)) :=
  op.run_ofLines d.buffer (d.cursorLine_le m) col

theorem lineBounds_linesBelow (d : Document) (m : Nat) (col : Int) :
    d.buffer.lineBounds (.ofLines d.cursorLine col (min (d.cursorLine + m) d.buffer.lastLine)) =
      (d.cursorLine, min (d.cursorLine + m) d.buffer.lastLine) :=
  Buffer.lineBounds_ofLines (d.cursorLine_le m)
    (Nat.lt_of_le_of_lt (Nat.min_le_right _ _) d.buffer.lastLine_lt_size) col

theorem exists_linesBelow_atColumn (d : Document) (op : Operator) (m : Nat) (col col' : Int) :
    ∃ col'', d.linesBelow op m col' = (d.linesBelow op m col).atColumn col'' :=
  op.exists_wholeLines_atColumn
    ((d.lineBounds_linesBelow m col').trans (d.lineBounds_linesBelow m col).symm)

theorem register_linesBelow (d : Document) (op : Operator) (m : Nat) (col : Int) :
    (d.linesBelow op m col).register =
      some (.lines (d.buffer.block d.cursorLine (min (d.cursorLine + m) d.buffer.lastLine))) := by
  rw [linesBelow, op.register_wholeLines, d.lineBounds_linesBelow]

end Document

namespace Session

variable {s : Session} {d : Document} {op : Operator} {count : Option Nat} {m : Nat}

theorem exists_react_doubledKey (hm : s.mode = .normal) (hp : s.pending = .operator op count)
    (hcount : s.takenCount = some (m + 1)) :
    ∃ col, s.react d (.char op.key) = s.reset.apply (d.linesBelow op m col) := by
  have hpos := pos_of_mem_some (Nat.succ_pos m)
  rw [react_doubledKey hm hp, motionCount, hcount, Buffer.linesFrom_natCast _ _ hpos,
    Buffer.locate_clamp]
  exact ⟨_, operate_of_run hm (d.run_linesBelow op m _)⟩

theorem exists_react_operatorDown (hm : s.mode = .normal) (hp : s.pending = .operator op count)
    (hcount : s.takenCount = some m) (hpos : 0 < m) (hlast : d.cursorLine < d.buffer.lastLine) :
    ∃ col, s.react d (.char 'j') = s.reset.apply (d.linesBelow op m col) := by
  have hcursor : (s.cursor d).line = d.cursorLine := by
    simp only [cursor, hm]
    rfl
  have hword : 'j' ≠ 'w' ∧ 'j' ≠ 'W' := by decide
  have htimes : times s.motionCount = m := by
    rw [motionCount, hcount]
    exact times_natCast (pos_of_mem_some hpos)
  let col := s.desiredCol.getD (s.cursor d).col
  have hspan := Motion.span_run_down hlast col s.motionCount
  refine ⟨col, ?_⟩
  rw [react_operatorMotion hm hp rfl rfl fun _ => hword, follow, if_pos (.inr rfl)]
  simp only [hcursor, col, hspan, htimes]
  exact operate_of_run hm (d.run_linesBelow op m col)

end Session

namespace Editor

variable {limits : Limits} {clipboard : Clipboard} {e : Editor} {op : Operator} {n m : Nat}

/-- The editor with its cursor at another column. -/
def atColumn (e : Editor) (col : Int) : Editor :=
  { e with document := { e.document with cursor := ⟨e.document.cursor.line, col⟩ } }

theorem changed_atColumn {c : Change} (h : c.OnLines e.document.buffer) (col : Int) :
    e.changed clipboard (c.atColumn col) = (e.changed clipboard c).atColumn col := by
  obtain ⟨b, hb⟩ := h.exists_result
  have hb' : (c.atColumn col).result e.document.buffer = .ok b := hb
  simp only [changed, atColumn, Document.granted, Document.grant_change hb,
    Document.grant_change hb']
  rfl

theorem exists_pressAll_doubled (hm : e.session.mode = .normal) (hc : e.session.Cleared)
    (hr : limits.number (m + 1) = none) :
    ∃ col, e.pressAll limits clipboard (Key.digits (m + 1) ++ [.char op.key, .char op.key]) =
      e.changed clipboard (e.document.linesBelow op m col) := by
  let w := e.operatorTyped op (some (m + 1)) none
  have hcount : w.session.takenCount = some (m + 1) := congrArg some (Nat.mul_one (m + 1))
  obtain ⟨col, hreact⟩ : ∃ col, w.session.react e.document (.char op.key) = _ :=
    Session.exists_react_doubledKey hm rfl hcount
  have ho : w.session.obstacle limits (.char op.key) = none :=
    Session.obstacle_eq_none rfl (Session.putting?_eq_none (Pending.operator_ne_idle _ _))
  refine ⟨col, ?_⟩
  rw [pressAll_before hm hc (Nat.succ_pos m) hr]
  exact pressWithin_eq_changed ho hreact rfl (op.onLines_wholeLines _ _) rfl

/-- An operator and the motion that leads down as many lines. -/
theorem exists_pressAll_downward (hm : e.session.mode = .normal) (hc : e.session.Cleared)
    (hpos : 0 < m) (hr : limits.number m = none)
    (hlast : e.document.cursorLine < e.document.buffer.lastLine) :
    ∃ col, e.pressAll limits clipboard (.char op.key :: (Key.digits m ++ [.char 'j'])) =
      e.changed clipboard (e.document.linesBelow op m col) := by
  let w := e.operatorTyped op none (some m)
  obtain ⟨col, hreact⟩ : ∃ col, w.session.react e.document (.char 'j') = _ :=
    Session.exists_react_operatorDown hm rfl rfl hpos hlast
  have ho : w.session.obstacle limits (.char 'j') = none :=
    Session.obstacle_eq_none hr (Session.putting?_eq_none (Pending.operator_ne_idle _ _))
  refine ⟨col, ?_⟩
  rw [pressAll_operatorKey hm hc, pressAll_after (Session.mode_ne_insert hm) hpos]
  exact pressWithin_eq_changed ho hreact rfl (op.onLines_wholeLines _ _) rfl

theorem steady_selecting {sel : Selection} (h : sel.Inside e.document.buffer)
    (start stop : Position) : (e.selecting sel start stop).Steady := by
  constructor
  · exact Session.Cleared.consistent ⟨rfl, rfl⟩
  · rintro _ ⟨⟩
    exact h

theorem exists_pressWithin_down {sel : Selection} {i : Nat} (clipboard : Clipboard)
    (h : e.Steady) (hm : e.session.mode = .visual sel) (hc : e.session.Cleared) (hpos : 0 < m)
    (hr : limits.number m = none) (hcur : sel.cursor.line = i)
    (hi : i < e.document.buffer.lastLine) :
    ∃ p col start stop,
      ((e.withCount m).pressWithin limits clipboard (.char 'j')).1 =
          { e with
              session := e.session.takenTo p (some col)
              document := e.document.select start stop } ∧
        p.line = (min (i + m) e.document.buffer.lastLine : Nat) := by
  have hlt := e.document.buffer.lastLine_lt_size
  have hne : min (i + m) e.document.buffer.lastLine ≠ i := by omega
  have hcursor : (e.session.cursor e.document).line = i := by
    simp only [Session.cursor, hm]
    exact hcur
  have hdown : ((e.withCount m).pressWithin limits clipboard (.char 'j')).1 = _ :=
    pressWithin_verticalKey (e := e.withCount m) (m := .down)
      (Session.mode_ne_insert_of_visual hm) hc.1 hr rfl rfl (.inr rfl) (Nat.lt_trans hi hlt) hcursor
  rw [times_withCount hc hpos, aimAt_withCount] at hdown
  generalize (e.withCount m).session.desiredCol.getD _ = col at hdown
  obtain ⟨start, stop, _, hgoTo⟩ := goTo_of_visual h hm (e.isSeat_seat _) (some col)
  refine ⟨_, col, start, stop, hdown.trans ((if_neg hne).trans hgoTo), ?_⟩
  exact line_aim (Nat.lt_of_le_of_lt (Nat.min_le_right _ _) hlt) col

theorem exists_pressAll_selecting (clipboard : Clipboard) (hm : e.session.mode = .normal)
    (hc : e.session.Cleared) (hpos : 0 < m) (hr : limits.number m = none)
    (hlast : e.document.cursorLine < e.document.buffer.lastLine) :
    ∃ (sel : Selection) (w : Editor) (start stop : Position),
      e.pressAll limits clipboard (.char 'V' :: (Key.digits m ++ [.char 'j'])) = w ∧
        w.session.mode = .visual sel ∧ w.session.Cleared ∧ w.session.reset = e.session.reset ∧
        w.document = e.document.select start stop ∧ w.copied = e.copied ∧
        sel.span = .ofLines e.document.cursorLine 0
          (min (e.document.cursorLine + m) e.document.buffer.lastLine) := by
  let pos := e.document.buffer.clamp e.document.cursor
  have hcontains : e.document.buffer.Contains pos := e.document.buffer.contains_clamp _
  have hinside : (⟨pos, pos, .linewise⟩ : Selection).Inside e.document.buffer :=
    ⟨hcontains, hcontains⟩
  obtain ⟨start, stop, hh⟩ := Selection.exists_highlight hinside
  -- The editor after `V`, from which the motion goes down.
  let v := e.selecting ⟨pos, pos, .linewise⟩ start stop
  have hvisual : (e.pressWithin limits clipboard (.char 'V')).1 = v :=
    pressWithin_visualKey .linewise hm hc rfl hh
  have hline : pos.line = e.document.cursorLine := rfl
  obtain ⟨p, col, start', stop', hdown, hgoal⟩ := exists_pressWithin_down (e := v) clipboard
    (steady_selecting hinside start stop) rfl ⟨rfl, rfl⟩ hpos hr hline hlast
  let w : Editor :=
    { v with
        session := v.session.takenTo p (some col)
        document := v.document.select start' stop' }
  refine ⟨⟨pos, p, .linewise⟩, w, start', stop', ?_, rfl, ⟨rfl, rfl⟩, rfl, rfl, rfl,
    Selection.span_linewise hline hgoal (e.document.cursorLine_le m)⟩
  rw [pressAll_cons, hvisual, pressAll_append,
    pressAll_digits (e := v) hpos Mode.noConfusion rfl rfl, pressAll_cons, hdown, pressAll_nil]

theorem pressAll_selected (hm : e.session.mode = .normal) (hc : e.session.Cleared)
    (hpos : 0 < m) (hr : limits.number m = none)
    (hlast : e.document.cursorLine < e.document.buffer.lastLine) :
    e.pressAll limits clipboard (.char 'V' :: (Key.digits m ++ [.char 'j', .char op.key])) =
      e.changed clipboard (e.document.linesBelow op m 0) := by
  obtain ⟨sel, w, start, stop, hw, hmode, hcleared, hreset, hdocument, hcopied, hspan⟩ :=
    exists_pressAll_selecting clipboard hm hc hpos hr hlast
  have hlines := op.onLines_wholeLines e.document.buffer
    (.ofLines e.document.cursorLine 0 (min (e.document.cursorLine + m) e.document.buffer.lastLine))
  have hrun : op.run w.document.buffer sel.span = .ok (some (e.document.linesBelow op m 0)) := by
    rw [hdocument, hspan]
    exact e.document.run_linesBelow op m 0
  have ho : w.session.obstacle limits (.char op.key) = none :=
    Session.obstacle_eq_none (hcleared.number_eq_none limits) (Session.putting?_of_visual hmode)
  have hreact : w.session.react w.document (.char op.key) = _ :=
    Session.react_operatorOnSelection hmode hcleared.1 hrun
  have hkeys : Key.char 'V' :: (Key.digits m ++ [.char 'j', .char op.key]) =
      (.char 'V' :: (Key.digits m ++ [.char 'j'])) ++ [.char op.key] := by
    rw [List.cons_append, List.append_assoc, List.singleton_append]
  rw [hkeys, pressAll_append, hw]
  apply pressWithin_eq_changed ho (hreset ▸ hreact) hcopied hlines
  rw [hdocument]
  exact Document.grant_select hlines start stop

theorem exists_changed_linesBelow (e : Editor) (op : Operator) (m : Nat) (col col' : Int) :
    ∃ col'', e.changed clipboard (e.document.linesBelow op m col') =
      (e.changed clipboard (e.document.linesBelow op m col)).atColumn col'' := by
  obtain ⟨col'', h⟩ := e.document.exists_linesBelow_atColumn op m col col'
  refine ⟨col'', ?_⟩
  rw [h]
  exact changed_atColumn (op.onLines_wholeLines _ _) col''

/-- Above the last line, an operator takes the same lines with a count before its doubled key, with
the motion that leads down one line less, and on a selection of lines that this motion has taken
there: as many as the count says, as far as there are lines. The register is filled with them, and
the editors that are left differ at most in the column of the cursor. Only where the digits of an
integer are bounded can the count be too long to be read; an operator typed after it then fails and
changes nothing. -/
theorem line_operators_agree (hm : e.session.mode = .normal) (hc : e.session.Cleared)
    (hn : 2 ≤ n) (hlast : e.document.cursorLine ≠ e.document.buffer.lastLine) :
    (limits.number n = none →
        let counted := e.pressAll limits clipboard (Key.digits n ++ [.char op.key, .char op.key])
        let downward := e.pressAll limits clipboard
          (.char op.key :: (Key.digits (n - 1) ++ [.char 'j']))
        let selected := e.pressAll limits clipboard
          (.char 'V' :: (Key.digits (n - 1) ++ [.char 'j', .char op.key]))
        Ran op e counted ∧
          counted.session.register = some (.lines (e.document.buffer.block e.document.cursorLine
            (min (e.document.cursorLine + n - 1) e.document.buffer.lastLine))) ∧
          (∃ col, downward = counted.atColumn col) ∧ ∃ col, selected = counted.atColumn col) ∧
      ∀ f, limits.number n = some f →
        let typed := e.pressAll limits clipboard (Key.digits n)
        typed.pressWithin limits clipboard (.char op.key) = (typed, .error f) := by
  obtain ⟨m, rfl⟩ : ∃ m, n = m + 1 := Nat.exists_eq_add_one.2 (Nat.lt_of_lt_of_le Nat.two_pos hn)
  have hpos : 0 < m := Nat.lt_of_succ_lt_succ hn
  have hlt : e.document.cursorLine < e.document.buffer.lastLine :=
    Nat.lt_of_le_of_ne (Nat.le_sub_one_of_lt (e.document.buffer.clampLine_lt _)) hlast
  constructor
  · intro hr counted downward selected
    have hr' : limits.number m = none := Limits.number_of_le (Nat.le_succ m) hr
    obtain ⟨col, hcounted⟩ : ∃ col, counted = _ := exists_pressAll_doubled hm hc hr
    obtain ⟨col', hdownward⟩ : ∃ col, downward = _ := exists_pressAll_downward hm hc hpos hr' hlt
    have hselected : selected = _ := pressAll_selected hm hc hpos hr' hlt
    have hspan := Span.inside_linewise e.document.buffer ⟨e.document.cursorLine, col⟩
      ⟨(min (e.document.cursorLine + m) e.document.buffer.lastLine : Nat), 0⟩
    rw [hcounted, hdownward, hselected]
    refine ⟨ran_changed hm hspan (e.document.run_linesBelow op m col), ?_,
      e.exists_changed_linesBelow op m col col', e.exists_changed_linesBelow op m col 0⟩
    have hregister := e.document.register_linesBelow op m col
    simp only [changed, Session.apply, hregister, Option.some_or]
    rfl
  · intro f hf
    rw [pressAll_digits (Nat.succ_pos m) (Session.mode_ne_insert hm) hc.lead?_eq_none hc.2]
    exact pressWithin_operatorKey_of_unreadable hm hc.1 hf

theorem line_operators_agree_past_end :
    let e : Editor := { document := { buffer := .ofText "ab\ncd\nef".toList, cursor := ⟨1, 1⟩ } }
    let counted := e.pressAll .standard .working ("3dd".toList.map .char)
    let downward := e.pressAll .standard .working ("d2j".toList.map .char)
    let selected := e.pressAll .standard .working ("V2jd".toList.map .char)
    counted.document.buffer.text = "ab".toList ∧
      (∃ col, downward = counted.atColumn col) ∧ ∃ col, selected = counted.atColumn col := by
  intro e counted downward selected
  have hlast : e.document.cursorLine ≠ e.document.buffer.lastLine := by decide
  have hr : Limits.standard.number 3 = none := Limits.number_of_le (n := 9) (by decide) rfl
  obtain ⟨_, _, hdownward, hselected⟩ : Ran .delete e counted ∧ _ ∧
      (∃ col, downward = counted.atColumn col) ∧ ∃ col, selected = counted.atColumn col :=
    (line_operators_agree rfl ⟨rfl, rfl⟩ (n := 3) (by decide) hlast).1 hr
  exact ⟨by decide +kernel, hdownward, hselected⟩

end Editor

end ModalEdit
