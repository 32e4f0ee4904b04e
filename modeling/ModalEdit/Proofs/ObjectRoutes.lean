import ModalEdit.Proofs.CountProducts
import ModalEdit.Proofs.Granting

namespace ModalEdit

/-- The selection that covers a span from its start to its end. -/
def Span.selected (span : Span) : Selection :=
  ⟨span.start, span.stop, span.shape⟩

theorem TextObject.cols_of_linewise {o : TextObject} {b : Buffer} {pos : Position} {outer : Bool}
    {span : Span} (h : o.find b pos outer = some span) (hl : span.shape = .linewise) :
    span.start.col = 0 ∧ span.stop.col = 0 := by
  unfold find at h
  cases o with
  | word g =>
    obtain ⟨stretch, _, rfl⟩ := Option.map_eq_some_iff.1 h
    cases hl
  | quotation quote =>
    obtain ⟨stretch, _, rfl⟩ := Option.map_eq_some_iff.1 h
    cases hl
  | bracketed kind =>
    obtain ⟨⟨first, last⟩, _, rfl⟩ := Option.map_eq_some_iff.1 h
    cases outer <;> cases hl
  | paragraph =>
    cases h
    exact ⟨rfl, rfl⟩
  | sentence =>
    obtain ⟨stretch, _, rfl⟩ := Option.map_eq_some_iff.1 h
    cases hl

/-- An operator takes from the selection of an object that is not empty the object itself. -/
theorem TextObject.span_selected {o : TextObject} {b : Buffer} {pos : Position} {outer : Bool}
    {span : Span} (h : o.find b pos outer = some span) (hne : span.isEmpty = false) :
    span.selected.span = span := by
  have hcols := cols_of_linewise h
  obtain ⟨start, stop, shape⟩ := span
  cases shape with
  | charwise =>
    have hlt : start < stop := of_decide_eq_false hne
    have hle : start ≤ stop := (start.le_total stop).resolve_right hlt
    simp only [Span.selected, Selection.span, Position.earlier_of_le hle, Position.later_of_le hle]
  | linewise =>
    obtain ⟨i, c⟩ := start
    obtain ⟨j, c'⟩ := stop
    obtain ⟨rfl, rfl⟩ := hcols rfl
    have hle : i ≤ j := Int.not_lt.1 (of_decide_eq_false hne)
    simp only [Span.selected, Selection.span, Selection.top, Selection.bottom, Int.min_eq_left hle,
      Int.max_eq_right hle]

/-- A change takes the highlight away, so it does not matter what was highlighted before. -/
theorem Document.grant_select {d : Document} {change : Change} (h : change.OnLines d.buffer)
    (start stop : Position) :
    (d.select start stop).grant (.change change.edit change.cursor) =
      d.grant (.change change.edit change.cursor) := by
  obtain ⟨b, hb⟩ := h.exists_result
  have hselect : change.result (d.select start stop).buffer = .ok b := hb
  rw [grant_change hb, grant_change hselect]
  rfl

/-- The key that starts a selection of a shape. -/
def Shape.key : Shape → Char
  | .charwise => 'v'
  | .linewise => 'V'

namespace Session

variable {s : Session} {d : Document} {sel : Selection} {op : Operator} {c : Char} {outer : Bool}

theorem react_visualKey (hm : s.mode = .normal) (hp : s.pending = .idle) (shape : Shape) :
    s.react d (.char shape.key) = s.select d shape := by
  have hd : (Key.char shape.key).digit? = none := by cases shape <;> rfl
  have hl : Lead.normal? shape.key = none := by cases shape <;> rfl
  have hno : isMotionKey shape.key = false := by cases shape <;> rfl
  have hop : Operator.ofKey? shape.key = none := by cases shape <;> rfl
  rw [react_of_ne_insert (mode_ne_insert hm) Key.noConfusion]
  simp only [command, digit?_eq_none hd, hp, freshKey, hm, hl, hno, hop, Bool.false_eq_true,
    if_false]
  cases shape <;> rfl

theorem react_objectLead (hm : s.mode = .visual sel) (hp : s.pending = .idle) :
    s.react d (.char (Lead.object outer).key) =
      { session := { s with pending := .lead (.object outer) } } := by
  have hd : (Key.char (Lead.object outer).key).digit? = none := by cases outer <;> rfl
  have hl : Lead.visual? (Lead.object outer).key = some (.object outer) := by cases outer <;> rfl
  rw [react_of_ne_insert (mode_ne_insert_of_visual hm) Key.noConfusion]
  simp only [command, digit?_eq_none hd, hp, freshKey, hm, hl]

theorem objectOn_eq_some {o : TextObject} {b : Buffer} {pos : Position} {span : Span}
    (ho : TextObject.ofKey? c = some o) (hf : o.find b pos outer = some span) :
    objectOn b pos outer (.char c) = some span :=
  Option.bind_eq_some_iff.2 ⟨o, ho, hf⟩

theorem react_objectKey (hm : s.mode = .visual sel) (hp : s.pending = .lead (.object outer)) :
    s.react d (.char c) =
      s.clear.selectObject d (objectOn d.buffer sel.cursor outer (.char c)) := by
  have hl : s.pending.lead?.isSome := by rw [hp]; rfl
  rw [react_of_ne_insert (mode_ne_insert_of_visual hm) Key.noConfusion]
  simp only [command, digit?_eq_none_of_lead hl, hp, finishLead, cursor, hm]

theorem react_selectionOperator (hm : s.mode = .visual sel) (hp : s.pending = .idle)
    (op : Operator) : s.react d (.char op.key) = s.operateOn d op sel := by
  have hd : (Key.char op.key).digit? = none := by cases op <;> rfl
  have hl : Lead.visual? op.key = none := by cases op <;> rfl
  have hno : isMotionKey op.key = false := by cases op <;> rfl
  rw [react_of_ne_insert (mode_ne_insert_of_visual hm) Key.noConfusion]
  simp only [command, digit?_eq_none hd, hp, freshKey, hm, hl, hno, Operator.ofKey?_key,
    Bool.false_eq_true, if_false]

theorem react_operatorOnSelection {change : Change} (hm : s.mode = .visual sel)
    (hp : s.pending = .idle) (hrun : op.run d.buffer sel.span = .ok (some change)) :
    s.react d (.char op.key) = s.reset.apply change := by
  simp only [react_selectionOperator hm hp, operateOn, hrun, attempt]
  rfl

theorem apply_clear (hm : s.mode = .normal) (change : Change) :
    s.clear.apply change = s.reset.apply change := by
  simp only [apply, reset, clear, hm]

theorem operate_of_run {span : Span} {change : Change} (hm : s.mode = .normal)
    (hrun : op.run d.buffer span = .ok (some change)) :
    s.operate d op (some span) = s.reset.apply change := by
  simp only [operate, hrun, attempt, ← apply_clear hm]
  rfl

theorem react_operatorObject {count : Option Nat} {span : Span} {change : Change}
    (hm : s.mode = .normal) (hp : s.pending = .operatorLead op count (.object outer))
    (hspan : objectOn d.buffer (d.buffer.clamp d.cursor) outer (.char c) = some span)
    (hrun : op.run d.buffer span = .ok (some change)) :
    s.react d (.char c) = s.reset.apply change := by
  have hl : s.pending.lead?.isSome := by rw [hp]; rfl
  rw [react_of_ne_insert (mode_ne_insert hm) Key.noConfusion]
  simp only [command, digit?_eq_none_of_lead hl, hp, operatorLeadKey, cursor, hm, hspan]
  exact operate_of_run hm hrun

end Session

namespace Editor

variable {limits : Limits} {clipboard : Clipboard} {e : Editor} {op : Operator} {c : Char}
  {o : TextObject} {outer : Bool} {span : Span}

theorem pressWithin_of_apply {s : Session} {change : Change} {d : Document} {k : Key}
    (ho : e.session.obstacle limits k = none)
    (hr : e.session.react e.document k = s.apply change)
    (hg : e.document.grant (.change change.edit change.cursor) = (d, none)) :
    e.pressWithin limits clipboard k =
      (⟨(s.apply change).session, d,
          e.copied ++ if clipboard = .working then (s.apply change).copied.toList else []⟩,
        .ok ⟨true, (s.apply change).session.mode.name, (s.apply change).copied⟩) := by
  have hrequest : (s.apply change).request = .ok (.change change.edit change.cursor) := rfl
  rw [pressWithin_of_none ho]
  simp only [press, hr, hrequest, hg]
  rfl

/-- The editor in a visual mode without partial input, with a highlight. -/
def selecting (e : Editor) (sel : Selection) (start stop : Position) : Editor where
  session := { e.session.clear with mode := .visual sel }
  document := e.document.select start stop
  copied := e.copied

theorem pressWithin_visualKey {pos start stop : Position} (shape : Shape)
    (hm : e.session.mode = .normal) (hc : e.session.Cleared)
    (hpos : e.document.buffer.clamp e.document.cursor = pos)
    (hh : (⟨pos, pos, shape⟩ : Selection).highlight e.document.buffer = .ok (start, stop)) :
    (e.pressWithin limits clipboard (.char shape.key)).1 =
      e.selecting ⟨pos, pos, shape⟩ start stop := by
  subst hpos
  have hput : e.session.putting? (.char shape.key) = none := by
    simp only [Session.putting?, hm, hc.1]
    cases shape <;> rfl
  have hreact : e.session.react e.document (.char shape.key) = _ :=
    (Session.react_visualKey hm hc.1 shape).trans (Session.showing_of_visual rfl hh)
  rw [pressWithin_of_none (Session.obstacle_eq_none (hc.number_eq_none limits) hput),
    press_of_copied_eq_none (by rw [hreact]), hreact]
  rfl

theorem pressWithin_objectLead {sel : Selection} (hm : e.session.mode = .visual sel)
    (hc : e.session.Cleared) :
    (e.pressWithin limits clipboard (.char (Lead.object outer).key)).1 =
      { e with session := { e.session with pending := .lead (.object outer) } } :=
  pressWithin_of_react
    (Session.obstacle_eq_none (hc.number_eq_none limits) (Session.putting?_of_visual hm))
    (Session.react_objectLead hm hc.1)

theorem pressWithin_objectKey {sel : Selection} {start stop : Position}
    (hm : e.session.mode = .visual sel) (hp : e.session.pending = .lead (.object outer))
    (hr : e.session.count.bind limits.number = none) (hsel : sel.shape = .charwise)
    (hspan : Session.objectOn e.document.buffer sel.cursor outer (.char c) = some span)
    (hh : span.selected.highlight e.document.buffer = .ok (start, stop)) :
    (e.pressWithin limits clipboard (.char c)).1 = e.selecting span.selected start stop := by
  have hclear : e.session.clear.mode = .visual sel := hm
  have hshape : (if span.isLinewise then Shape.linewise else sel.shape) = span.shape := by
    rw [hsel, Span.isLinewise]
    cases span.shape <;> rfl
  have hreact : e.session.react e.document (.char c) =
      { session := { e.session.clear with mode := .visual span.selected }
        request := .ok (.highlight start stop) } := by
    rw [Session.react_objectKey hm hp, hspan]
    simp only [Session.selectObject, hclear, hshape]
    exact Session.showing_of_visual rfl hh
  rw [pressWithin_of_none (Session.obstacle_eq_none hr (Session.putting?_of_visual hm)),
    press_of_copied_eq_none (by rw [hreact]), hreact]
  rfl

theorem pressAll_selectObject (hm : e.session.mode = .normal) (hc : e.session.Cleared)
    (ho : TextObject.ofKey? c = some o)
    (hf : o.find e.document.buffer (e.document.buffer.clamp e.document.cursor) outer = some span) :
    ∃ start stop,
      e.pressAll limits clipboard [.char 'v', .char (Lead.object outer).key, .char c] =
        e.selecting span.selected start stop := by
  generalize hpos : e.document.buffer.clamp e.document.cursor = pos at hf
  have hinside : span.selected.Inside e.document.buffer :=
    TextObject.contains_find (TextObject.ne_empty_quotation_of_ofKey? ho) hf
  have hspan := Session.objectOn_eq_some ho hf
  obtain ⟨start, stop, hh⟩ := Selection.exists_highlight hinside
  -- The three keys, each from the editor that the key before it leaves.
  let v := e.selecting ⟨pos, pos, .charwise⟩ (pos.earlier pos) (pos.later pos)
  let w : Editor := { v with session := { v.session with pending := .lead (.object outer) } }
  have hvisual : (e.pressWithin limits clipboard (.char 'v')).1 = v :=
    pressWithin_visualKey .charwise hm hc hpos rfl
  have hlead : (v.pressWithin limits clipboard (.char (Lead.object outer).key)).1 = w :=
    pressWithin_objectLead rfl ⟨rfl, rfl⟩
  have hobject : (w.pressWithin limits clipboard (.char c)).1 =
      e.selecting span.selected start stop :=
    pressWithin_objectKey rfl rfl rfl rfl hspan hh
  refine ⟨start, stop, ?_⟩
  rw [pressAll_cons, hvisual, pressAll_cons, hlead, pressAll_cons, hobject]
  rfl

theorem pressAll_operatorObject (hm : e.session.mode = .normal) (hc : e.session.Cleared) :
    e.pressAll limits clipboard [.char op.key, .char (Lead.object outer).key] =
      { e with session := { e.session.clear with
          pending := .operatorLead op none (.object outer) } } := by
  have hl : Lead.afterOperator? (Lead.object outer).key = some (.object outer) := by
    cases outer <;> rfl
  rw [pressAll_operatorKey hm hc, pressAll_cons,
    pressWithin_lead (e := e.operatorTyped op none none) (Session.mode_ne_insert hm) rfl rfl hl]
  rfl

/-- Selecting a text object that is not empty and then typing an operator ends, with the same
report, where the operator does with the object typed after it: its change over the object is
granted, and the register filled. -/
theorem operator_on_selected_object (hm : e.session.mode = .normal) (hc : e.session.Cleared)
    (ho : TextObject.ofKey? c = some o)
    (hf : o.find e.document.buffer (e.document.buffer.clamp e.document.cursor) outer = some span)
    (hne : span.isEmpty = false) :
    ∃ e' report change,
      (e.pressAll limits clipboard
          [.char 'v', .char (Lead.object outer).key, .char c]).pressWithin limits clipboard
          (.char op.key) = (e', .ok report) ∧
        (e.pressAll limits clipboard
          [.char op.key, .char (Lead.object outer).key]).pressWithin limits clipboard
          (.char c) = (e', .ok report) ∧
        op.run e.document.buffer span = .ok (some change) ∧
        e.document.grant (.change change.edit change.cursor) = (e'.document, none) ∧
        e'.session.register = change.register ∧ e'.session.register.isSome := by
  have hinside : span.Inside e.document.buffer := fun _ =>
    TextObject.contains_find (TextObject.ne_empty_quotation_of_ofKey? ho) hf
  obtain ⟨change, r, hrun, hreg, hlines⟩ := op.run_of_not_isEmpty hinside hne
  obtain ⟨start, stop, hselected⟩ : ∃ start stop,
      e.pressAll limits clipboard [.char 'v', .char (Lead.object outer).key, .char c] =
        e.selecting span.selected start stop :=
    pressAll_selectObject hm hc ho hf
  have hspan := Session.objectOn_eq_some ho hf
  have hrun' : op.run e.document.buffer span.selected.span = .ok (some change) := by
    rw [TextObject.span_selected hf hne]
    exact hrun
  rw [hselected, pressAll_operatorObject hm hc]
  let v := e.selecting span.selected start stop
  let w : Editor := { e with session := { e.session.clear with
    pending := .operatorLead op none (.object outer) } }
  have hv : v.session.react v.document (.char op.key) = e.session.reset.apply change :=
    Session.react_operatorOnSelection rfl rfl hrun'
  have hw : w.session.react w.document (.char c) = e.session.reset.apply change :=
    Session.react_operatorObject hm rfl hspan hrun
  have hov : v.session.obstacle limits (.char op.key) = none :=
    Session.obstacle_eq_none rfl (Session.putting?_of_visual rfl)
  have how : w.session.obstacle limits (.char c) = none :=
    Session.obstacle_eq_none rfl (Session.putting?_eq_none (Pending.operatorLead_ne_idle _ _ _))
  have hgrant := Document.grant_of_onLines hlines
  have hgrant' := (Document.grant_select hlines start stop).trans hgrant
  have hregister : (e.session.reset.apply change).session.register = some r := by
    simp only [Session.apply, hreg, Option.some_or]
  refine ⟨_, _, change, pressWithin_of_apply hov hv hgrant', pressWithin_of_apply how hw hgrant,
    hrun, hgrant, hregister.trans hreg.symm, ?_⟩
  rw [hregister]
  rfl

theorem operator_on_selected_object_brackets :
    let e : Editor := { document := { buffer := .ofText ['(', 'a', '\n', 'b', ')'] } }
    ∃ e' report,
      (e.pressAll .standard .working
          [.char 'v', .char (Lead.object false).key, .char '(']).pressWithin .standard .working
          (.char Operator.delete.key) = (e', .ok report) ∧
        (e.pressAll .standard .working
          [.char Operator.delete.key, .char (Lead.object false).key]).pressWithin .standard .working
          (.char '(') = (e', .ok report) ∧
        e'.session.register.isSome := by
  intro e
  have hf : (TextObject.bracketed .round).find e.document.buffer
      (e.document.buffer.clamp e.document.cursor) false =
        some ⟨⟨0, 1⟩, ⟨1, 1⟩, .charwise⟩ := by
    decide +kernel
  have ho : TextObject.ofKey? '(' = some (.bracketed .round) := rfl
  obtain ⟨e', report, change, hselected, htyped, _, _, _, hfilled⟩ :=
    operator_on_selected_object rfl ⟨rfl, rfl⟩ ho hf rfl
  exact ⟨e', report, hselected, htyped, hfilled⟩

end Editor

end ModalEdit
