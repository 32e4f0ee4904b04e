import ModalEdit.Proofs.AimedColumn
import ModalEdit.Proofs.OperatorChanges
import ModalEdit.Proofs.Undoing

namespace ModalEdit

theorem Selection.start_of_isEmpty {sel : Selection} (h : sel.span.isEmpty = true) :
    sel.span.start = sel.cursor := by
  obtain ⟨anchor, cursor, shape⟩ := sel
  cases shape with
  | linewise =>
    have hlt : max anchor.line cursor.line < min anchor.line cursor.line := of_decide_eq_true h
    omega
  | charwise =>
    have hle : anchor.later cursor ≤ anchor.earlier cursor := of_decide_eq_true h
    show anchor.earlier cursor = cursor
    unfold Position.later Position.earlier at hle
    unfold Position.earlier
    split
    · rename_i hac
      rw [if_pos hac, if_pos hac] at hle
      exact Position.le_antisymm hac hle
    · rfl

namespace Session

section Walk

variable {s s' : Session} {d : Document} {k : Key}

theorem aims_operatorKey {op : Operator} {count : Option Nat} (ha : s.Aims d)
    (hm : s.mode = .normal) (hp : s.pending.lead? = none) (hno : ¬ s.Displaces d k) :
    (s.operatorKey d op count k).Aims d := by
  have hdrop (span : Option Span) : (s.operate d op span).Aims d := aims_operate fun _ => ha
  cases k with
  | escape => exact hdrop none
  | named name => exact hdrop none
  | char c =>
    simp only [operatorKey]
    split
    · exact hdrop _
    · split
      · exact ha
      · split
        · split
          · exact hdrop _
          · exact aims_operate_motionKey ha hm hp hno
        · exact hdrop none

theorem aims_operatorLeadKey {op : Operator} {lead : Lead} (ha : s.Aims d) :
    (s.operatorLeadKey d op lead k).Aims d := by
  have hfollow : ((s.followLead d.buffer (s.cursor d) s.motionCount lead k).1.operate d op
      ((s.followLead d.buffer (s.cursor d) s.motionCount lead k).2.bind (·.span))).Aims d := by
    apply aims_operate
    intro _
    rcases s.followLead_column d.buffer (s.cursor d) s.motionCount lead k with h | h
    · exact aims_of_none h
    · rw [h]
      exact ha
  cases lead with
  | object outer => exact aims_operate fun _ => ha
  | find kind => exact hfollow
  | mark exact => exact hfollow
  | go => exact hfollow
  | replace => exact hfollow
  | setMark => exact hfollow

theorem aims_finishLead {lead : Lead} (ha : s.Aims d) (hp : s.pending = .lead lead)
    (hno : ¬ s.Displaces d k) : (s.finishLead d lead k).Aims d := by
  have hland : ((s.followLead d.buffer (s.cursor d) s.motionCount lead k).1.land d
      (s.followLead d.buffer (s.cursor d) s.motionCount lead k).2).Aims d := by
    rcases s.followLead_column d.buffer (s.cursor d) s.motionCount lead k with h | h
    · exact aims_land_of_none h _
    · rw [h]
      exact ha
  cases lead with
  | find kind => exact hland
  | mark exact => exact hland
  | go => exact hland
  | replace =>
    have hclear : s.clear.Aims d := ha
    exact aims_attempt hclear _
  | setMark =>
    cases k with
    | char c =>
      simp only [finishLead]
      split
      · exact ha
      · exact ha
    | escape => exact ha
    | named name => exact ha
  | object outer =>
    simp only [finishLead, selectObject]
    split
    · rename_i sel span hm hf
      apply aims_showing rfl
      intro col hcol
      have hf : objectOn d.buffer sel.cursor outer k = some span := by
        simpa only [cursor, show s.mode = .visual sel from hm] using hf
      have hcarries : s.Carries d k col d.buffer span.stop := .object hm hp hf hcol
      exact hcarries.aimedAt hno
    · exact ha

theorem aimedAt_cursor {sel : Selection} {col : Int} (ha : s.Aims d) (hm : s.mode = .visual sel)
    (hcol : s.desiredCol = some col) : d.buffer.AimedAt sel.cursor col := by
  have hplace := ha (mode_ne_insert_of_visual hm) col hcol
  simpa only [place, hm] using hplace

theorem aims_operateOn {op : Operator} {sel : Selection} (ha : s.Aims d)
    (hm : s.mode = .visual sel) (hsel : sel.Inside d.buffer) : (s.operateOn d op sel).Aims d := by
  rcases op.run_of_inside hsel.span with ⟨hempty, hrun⟩ | ⟨c, hrun⟩
  · simp only [operateOn, hrun]
    intro _ col hcol
    show d.buffer.AimedAt (d.buffer.clamp sel.span.start) col
    rw [Selection.start_of_isEmpty hempty]
    exact (aimedAt_cursor ha hm hcol).clamp
  · simp only [operateOn, hrun]
    exact aims_of_none rfl

theorem aims_escape : (s.escape d).Aims d :=
  aims_of_none rfl

theorem aims_changeOrInsert {span : Span} (ha : s'.Aims d) :
    (s'.changeOrInsert d span).Aims d := by
  unfold changeOrInsert
  split
  · exact aims_of_insert rfl
  · exact aims_attempt ha _

theorem aims_undo (hs : s.Consistent) (ha : s.Aims d) (hm : s.mode = .normal)
    (hp : s.pending = .idle) (hno : ¬ s.Displaces d (.char 'u')) :
    Reaction.Aims { session := s.clear, request := .ok (.undo (s.takenCount.getD 1)) } d := by
  simp only [Reaction.Aims, Document.granted, Document.grant]
  cases hsaved : d.history[min (s.takenCount.getD 1) d.history.length - 1]? with
  | none =>
    have hlen := List.getElem?_eq_none_iff.1 hsaved
    have hnil : d.history = [] := List.eq_nil_of_length_eq_zero (by omega)
    rw [Document.undoTimes_of_history_eq_nil hnil]
    exact ha
  | some saved =>
    rw [Document.undoTimes_of_getElem? hs.times_pos hsaved]
    intro _ col hcol
    have haimed := (Carries.undo ⟨hm, hp, rfl⟩ hsaved hcol).aimedAt hno
    simpa only [place, clear, hm] using haimed

theorem aims_select {shape : Shape} (ha : s.Aims d) (hm : s.mode = .normal) :
    (s.select d shape).Aims d := by
  apply aims_showing rfl
  intro col hcol
  have hplace := ha (mode_ne_insert hm) col hcol
  simp only [place, hm] at hplace
  exact hplace.clamp

theorem aims_visualCommand {sel : Selection} {c : Char} (ha : s.Aims d)
    (hm : s.mode = .visual sel) (hp : s.pending = .idle) (hno : ¬ s.Displaces d (.char c)) :
    (s.visualCommand d sel c).Aims d := by
  have hcursor (col : Int) (hcol : s.desiredCol = some col) : d.buffer.AimedAt sel.cursor col :=
    aimedAt_cursor ha hm hcol
  have hturn (shape : Shape) : (if sel.shape = shape then s.escape d
      else { s.clear with mode := .visual { sel with shape } }.showing d).Aims d := by
    split
    · exact aims_escape
    · exact aims_showing rfl hcursor
  unfold visualCommand
  split
  · exact hturn .charwise
  · exact hturn .linewise
  · apply aims_showing rfl
    intro col hcol
    exact (Carries.swap hm hp hcol).aimedAt hno
  · exact ha

theorem aims_normalCommand {c : Char} (hs : s.Consistent) (ha : s.Aims d) (hm : s.mode = .normal)
    (hp : s.pending = .idle) (hno : ¬ s.Displaces d (.char c)) :
    (s.normalCommand d c).Aims d := by
  have hclear : s.clear.Aims d := ha
  have hidle (answer : Except Fault (Option Change)) : (s.clear.attempt answer).Aims d :=
    aims_attempt hclear answer
  unfold normalCommand
  simp only
  split
  · exact aims_of_insert rfl
  · exact aims_of_insert rfl
  · exact aims_of_insert rfl
  · exact aims_of_insert rfl
  · exact hidle _
  · exact aims_of_none rfl
  · exact hidle _
  · exact aims_changeOrInsert hclear
  · exact hidle _
  · exact hidle _
  · exact aims_changeOrInsert hclear
  · exact hidle _
  · exact hidle _
  · exact hidle _
  · exact aims_undo hs ha hm hp hno
  · split
    · exact hidle _
    · exact ha
  · split
    · exact hidle _
    · exact ha
  · exact aims_select ha hm
  · exact aims_select ha hm
  · exact ha

theorem aims_freshKey {c : Char} (hs : s.Consistent) (ha : s.Aims d) (hp : s.pending = .idle)
    (hne : s.mode ≠ .insert) (hsel : ∀ sel, s.mode = .visual sel → sel.Inside d.buffer)
    (hno : ¬ s.Displaces d (.char c)) : (s.freshKey d c).Aims d := by
  have hl : s.pending.lead? = none := by
    rw [hp]
    rfl
  have hland := aims_land_motionKey ha hne hsel hl hno
  have hawaits (lead : Lead) :
      Reaction.Aims { session := { s with pending := .lead lead } } d := ha
  cases hm : s.mode with
  | insert => exact absurd hm hne
  | normal =>
    rw [hm] at hawaits
    simp only [freshKey, hm]
    split
    · exact hawaits _
    · split
      · exact hland
      · cases Operator.ofKey? c with
        | some op => exact ha
        | none => exact aims_normalCommand hs ha hm hp hno
  | visual sel =>
    have hinside := hsel sel hm
    rw [hm] at hawaits
    simp only [freshKey, hm]
    split
    · exact hawaits _
    · split
      · exact hland
      · cases Operator.ofKey? c with
        | some op => exact aims_operateOn ha hm hinside
        | none =>
          simp only
          split
          · exact aims_operateOn ha hm hinside
          · exact aims_visualCommand ha hm hp hno

/-- A key that does not displace the column leaves it aimed at. -/
theorem aims_react (hs : s.Consistent) (hsel : ∀ sel, s.mode = .visual sel → sel.Inside d.buffer)
    (ha : s.Aims d) (hno : ¬ s.Displaces d k) : (s.react d k).Aims d := by
  by_cases hk : k = .escape
  · subst hk
    exact aims_escape
  · by_cases hi : s.mode = .insert
    · rw [react_of_insert hi hk]
      exact aims_of_insert hi
    · rw [react_of_ne_insert hi hk]
      cases hd : s.digit? k with
      | some s' =>
        obtain ⟨n, _, rfl, _⟩ := digit?_eq_some hd
        simp only [command, hd]
        exact ha
      | none =>
        have hallows := hs.pending
        cases hp : s.pending with
        | lead lead =>
          simp only [command, hd, hp]
          exact aims_finishLead ha hp hno
        | operator op count =>
          rw [hp] at hallows
          have hl : s.pending.lead? = none := by
            rw [hp]
            rfl
          simp only [command, hd, hp]
          exact aims_operatorKey ha hallows.1 hl hno
        | operatorLead op count lead =>
          simp only [command, hd, hp]
          exact aims_operatorLeadKey ha
        | idle =>
          simp only [command, hd, hp]
          cases k with
          | char c => exact aims_freshKey hs ha hp hi hsel hno
          | escape => exact absurd rfl hk
          | named name => exact ha

theorem eq_of_vertical {c : Char} {m : Motion} (h : Motion.ofKey? c = some m)
    (hv : m = .up ∨ m = .down) : c = 'j' ∨ c = 'k' := by
  rcases hv with rfl | rfl
  · right
    unfold Motion.ofKey? at h
    split at h <;> first | rfl | cases h
  · left
    unfold Motion.ofKey? at h
    split at h <;> first | rfl | cases h

theorem digit?_of_vertical {c : Char} {m : Motion} (h : Motion.ofKey? c = some m)
    (hv : m = .up ∨ m = .down) : (Key.char c).digit? = none := by
  rcases eq_of_vertical h hv with rfl | rfl
  · rfl
  · rfl

/-- What a key carries the column to. -/
theorem Carries.react {col : Int} {b : Buffer} {p : Position} (h : s.Carries d k col b p)
    (hs : s.Consistent) :
    (s.react d k).session.mode ≠ .insert ∧ (s.react d k).session.desiredCol = some col ∧
      (d.granted (s.react d k).request).buffer = b ∧
      (s.react d k).session.place (d.granted (s.react d k).request) = p := by
  have hshown (s' : Session) {sel : Selection} (hm : s'.mode = .visual sel) :
      (s'.showing d).session.mode ≠ .insert ∧
        (s'.showing d).session.desiredCol = s'.desiredCol ∧
        (d.granted (s'.showing d).request).buffer = d.buffer ∧
        (s'.showing d).session.place (d.granted (s'.showing d).request) = sel.cursor := by
    refine ⟨mode_ne_insert_of_visual hm, rfl, buffer_showing s' d, ?_⟩
    show s'.place _ = sel.cursor
    simp only [place, hm]
  cases h with
  | undo hu hsaved hcol =>
    have hundo := Document.undoTimes_of_getElem? hs.times_pos hsaved
    rw [hu.react d]
    refine ⟨mode_ne_insert hu.1, hcol, ?_, ?_⟩
    · simp only [Document.granted, Document.grant, hundo]
    · simp only [place, clear, hu.1, Document.granted, Document.grant, hundo]
  | @swap sel col hm hp hcol =>
    have hreact : s.react d (.char 'o') =
        { s.clear with mode := .visual sel.swapped }.showing d := by
      obtain ⟨mode, pending, count, register, marks, desiredCol, lastSearch⟩ := s
      cases hm
      cases hp
      rfl
    rw [hreact, ← hcol]
    exact hshown { s.clear with mode := .visual sel.swapped } rfl
  | @object sel k outer span col hm hp hf hcol =>
    obtain ⟨c, rfl⟩ : ∃ c, k = .char c := by
      cases k with
      | char c => exact ⟨c, rfl⟩
      | escape => cases hf
      | named name => cases hf
    have hd : s.digit? (.char c) = none := digit?_eq_none_of_lead (by rw [hp]; rfl)
    have hreact : s.react d (.char c) = s.clear.selectObject d (some span) := by
      rw [react_of_ne_insert (mode_ne_insert_of_visual hm) Key.noConfusion]
      simp only [command, hd, hp, finishLead, cursor, hm, hf]
    have hmode : s.clear.mode = .visual sel := hm
    rw [hreact, ← hcol]
    simp only [selectObject, hmode]
    exact hshown { s.clear with mode := .visual ⟨span.start, span.stop, _⟩ } rfl
  | @stuck c m hm hp hk hv hcol hrun =>
    have hstuck : s.react d (.char c) =
        { session := { s.clear with desiredCol := some (s.cursor d).col } } := by
      have hfollow : s.follow d.buffer (s.cursor d) s.motionCount (some m) =
          ({ s with desiredCol := some (s.cursor d).col }, none) := by
        simp only [follow, if_pos hv, hcol, Option.getD_none]
        exact congrArg _ hrun
      have hallows := hs.pending
      cases hpend : s.pending with
      | idle =>
        rw [react_motionKey (mode_ne_insert hm) hpend (digit?_of_vertical hk hv) hk, hfollow]
        rfl
      | operator op count =>
        have hword : op = .change → c ≠ 'w' ∧ c ≠ 'W' := by
          rintro -
          rcases eq_of_vertical hk hv with rfl | rfl
          · decide
          · decide
        rw [react_operatorMotion hm hpend (digit?_of_vertical hk hv) hk hword, hfollow]
        rfl
      | lead lead =>
        rw [hpend] at hp
        cases hp
      | operatorLead op count lead =>
        rw [hpend] at hp
        cases hp
    rw [hstuck]
    refine ⟨mode_ne_insert hm, rfl, rfl, ?_⟩
    simp only [place, clear, hm]
    rfl

end Walk

end Session

namespace Editor

variable {limits : Limits} {clipboard : Clipboard} {e : Editor}

/-- The step is a key that meets no limit and displaces the column. -/
def Displaces (limits : Limits) (e : Editor) : Step → Prop
  | .key k => e.session.obstacle limits k = none ∧ e.session.Displaces e.document k
  | _ => False

theorem Steady.aims_stepWithin {s : Step} (h : e.Steady) (ha : e.session.Aims e.document)
    (hs : Keyed e s) (hno : ¬ e.Displaces limits s) :
    (e.stepWithin limits clipboard s).1.session.Aims
      (e.stepWithin limits clipboard s).1.document := by
  cases s with
  | key k =>
    change (e.pressWithin limits clipboard k).1.session.Aims
      (e.pressWithin limits clipboard k).1.document
    cases ho : e.session.obstacle limits k with
    | none =>
      rw [pressWithin_of_none ho, press_session, press_document]
      exact Session.aims_react h.consistent h.selection ha fun hd => hno ⟨ho, hd⟩
    | some stopped =>
      obtain ⟨s', f⟩ := stopped
      rw [pressWithin_of_obstacle ho]
      rcases Session.obstacle_eq_some ho with ⟨_, rfl⟩ | ⟨_, rfl⟩
      · exact ha
      · exact ha
  | type text =>
    apply Session.aims_of_insert
    have hm : (e.stepWithin limits clipboard (.type text)).1.session = e.session := by
      simp only [Editor.stepWithin, step, edited]
      split <;> rfl
    rw [hm]
    exact hs
  | _ => exact hs.elim

theorem Steady.displaced_stepWithin {s : Step} (h : e.Steady) (hd : e.Displaces limits s) :
    ¬ (e.stepWithin limits clipboard s).1.session.Aims
      (e.stepWithin limits clipboard s).1.document := by
  cases s with
  | key k =>
    obtain ⟨ho, col, b, p, hcarries, hno⟩ := hd
    obtain ⟨hne, hcol, hbuffer, hplace⟩ := hcarries.react h.consistent
    change ¬ (e.pressWithin limits clipboard k).1.session.Aims
      (e.pressWithin limits clipboard k).1.document
    rw [pressWithin_of_none ho, press_session, press_document]
    intro ha
    have haimed := ha hne col hcol
    rw [hbuffer, hplace] at haimed
    exact hno haimed
  | _ => exact hd.elim

/-- Whatever is entered, the cursor is where the remembered column has put it, as long as no key
displaces the column; and each key that does leaves a column remembered that the cursor is not
at. -/
theorem column_unless_displaced {e₀ : Editor} (h₀ : e₀.session = {}) :
    (∀ e, Reaches limits clipboard (fun e s => Keyed e s ∧ ¬ e.Displaces limits s) e₀ e →
        e.session.Aims e.document) ∧
      ∀ e s e', Reaches limits clipboard Keyed e₀ e → e.Displaces limits s →
        e' = (e.stepWithin limits clipboard s).1 → ¬ e'.session.Aims e'.document := by
  constructor
  · intro e h
    induction h with
    | refl => exact Session.aims_of_none (by rw [h₀])
    | step h hs ih =>
      have hsteady := (h.mono fun _ _ => And.left).steady h₀
      exact hsteady.aims_stepWithin ih hs.1 hs.2
  · rintro e s _ h hd rfl
    exact (h.steady h₀).displaced_stepWithin hd

theorem column_unless_displaced_swap :
    let e₀ : Editor := { document := { buffer := .ofText ['a', 'b', 'c', '\n', 'd', 'e', 'f'] } }
    let e := e₀.pressAll .standard .working [.char 'v', .char 'l', .char 'l', .char 'j']
    let e' := (e.pressWithin .standard .working (.char 'o')).1
    e'.session.mode = .visual ⟨⟨1, 2⟩, ⟨0, 0⟩, .charwise⟩ ∧ e'.session.desiredCol = some 2 ∧
      ¬ e'.session.Aims e'.document := by
  intro e₀ e e'
  have hreach : Reaches .standard .working Keyed e₀ e :=
    Reaches.refl.pressAll fun _ _ _ => trivial
  have hmode : e.session.mode = .visual ⟨⟨0, 0⟩, ⟨1, 2⟩, .charwise⟩ := by decide
  have hpending : e.session.pending = .idle := by decide
  have hcol : e.session.desiredCol = some 2 := by decide
  have hlong : ¬ e.document.buffer.AimedAt ⟨0, 0⟩ 2 := by
    rintro ⟨_, h⟩
    revert h
    decide
  have hdisplaces : e.Displaces .standard (.key (.char 'o')) :=
    ⟨by decide, 2, _, _, .swap hmode hpending hcol, hlong⟩
  have hstep : e' = (e.stepWithin .standard .working (.key (.char 'o'))).1 := by
    simp only [e', stepWithin]
  have haims : ¬ e'.session.Aims e'.document :=
    (column_unless_displaced rfl).2 e (.key (.char 'o')) e' hreach hdisplaces hstep
  exact ⟨by decide, by decide, haims⟩

end Editor

end ModalEdit
