import ModalEdit.Proofs.Soundness

namespace ModalEdit

/-- The reaction puts or copies a text that begins with a line break and goes to a later column than
the first, or goes back to a state whose cursor was on no cell. -/
def Reaction.Strays (r : Reaction) (d : Document) : Prop :=
  match r.request with
  | .ok (.change edit cursor) =>
    r.session.mode = .normal ∧ 0 < cursor.col ∧
      ((edit.map Edit.text).getD (r.copied.getD [])).head? = some '\n'
  | .ok (.undo times) =>
    ∃ saved, d.history[min times d.history.length - 1]? = some saved ∧ ¬ saved.1.IsCell saved.2
  | _ => False

namespace Session

variable {s : Session} {d : Document} {k : Key} {r : Reaction}

theorem strays_apply {s' : Session} {c : Change} (hm : s'.mode = .normal) :
    (s'.apply c).Strays d ↔ c.insert = false ∧ c.Breaks := by
  obtain ⟨cursor, edit, register, insert⟩ := c
  have hmode : (if insert then Mode.insert else s'.mode) = .normal ↔ insert = false := by
    cases insert with
    | false => simp [hm]
    | true => simp
  cases edit with
  | none => exact and_congr hmode Iff.rfl
  | some e => exact and_congr hmode Iff.rfl

theorem isCell_change {c : Change} (hc : c.Fits d.buffer) (hi : c.insert = false) :
    (d.grant (.change c.edit c.cursor)).1.buffer.IsCell
      (d.grant (.change c.edit c.cursor)).1.cursor ↔ ¬ c.Breaks := by
  obtain ⟨b, hr, _, hcell⟩ := hc.result
  rw [Document.grant_change hr]
  exact hcell hi

/-- A reaction that does not stray leaves a cursor on a cell, if it was on one before. -/
theorem Outcome.isCell_granted (h : s.Outcome d k r) (hs : s.Consistent) (hd : d.Sound)
    (hk : k.IsPlain) (hreg : s.register ≠ some (.chars [])) (hstray : ¬ r.Strays d)
    (hcell : s.mode = .normal → d.buffer.IsCell d.cursor) (hm : r.session.mode = .normal) :
    (d.granted r.request).buffer.IsCell (d.granted r.request).cursor := by
  cases h with
  | typed hi => exact hcell hm
  | digit hi hdigit =>
    obtain ⟨n, _, rfl, _⟩ := digit?_eq_some hdigit
    exact hcell hm
  | awaits hp ha hc => exact hcell hm
  | rests hc hsame hr => exact hcell (hsame.symm.trans hm)
  | moves hc hr hp hmode =>
    rcases hmode with hmode | ⟨_, hcell⟩
    · cases hmode.symm.trans hm
    · exact hcell
  | leaves hi => exact hd.cursor.isCell_left
  | shows hc hr hv hsel hh => cases hv.symm.trans hm
  | undoes hu =>
    simp only [Document.granted, Document.grant]
    cases hsaved : d.history[min (s.takenCount.getD 1) d.history.length - 1]? with
    | none =>
      have hlen := List.getElem?_eq_none_iff.1 hsaved
      have hnil : d.history = [] := List.eq_nil_of_length_eq_zero (by omega)
      rw [Document.undoTimes_of_history_eq_nil hnil]
      exact hcell hm
    | some saved =>
      rw [Document.undoTimes_of_getElem? hs.times_pos hsaved]
      apply Decidable.byContradiction
      intro hno
      exact hstray ⟨saved, hsaved, hno⟩
  | @changes s' c hc hnormal hr ho =>
    have hfits := Buffer.accepts_some.1 (ho.fits hd.plain hk hreg)
    have hinsert : c.insert = false := by
      cases hi : c.insert with
      | false => rfl
      | true => simp [apply, hi] at hm
    apply (isCell_change hfits hinsert).2
    intro hb
    exact hstray ((strays_apply hnormal).2 ⟨hinsert, hb⟩)
  | fails hc hnormal hr ho =>
    exact absurd (ho.fits hd.plain hk hreg) (Buffer.not_accepts_error _ _)

/-- A reaction that strays leaves a cursor on no cell. -/
theorem Outcome.not_isCell_granted (h : s.Outcome d k r) (hs : s.Consistent) (hd : d.Sound)
    (hk : k.IsPlain) (hreg : s.register ≠ some (.chars [])) (hstray : r.Strays d) :
    r.session.mode = .normal ∧
      ¬ (d.granted r.request).buffer.IsCell (d.granted r.request).cursor := by
  cases h with
  | typed hi => exact hstray.elim
  | digit hi hdigit => exact hstray.elim
  | awaits hp ha hc => exact hstray.elim
  | rests hc hsame hr => exact hstray.elim
  | moves hc hr hp hmode => exact hstray.elim
  | leaves hi => exact hstray.elim
  | shows hc hr hv hsel hh => exact hstray.elim
  | undoes hu =>
    obtain ⟨saved, hsaved, hno⟩ := hstray
    constructor
    · exact hu.1
    · simp only [Document.granted, Document.grant,
        Document.undoTimes_of_getElem? hs.times_pos hsaved]
      exact hno
  | @changes s' c hc hnormal hr ho =>
    obtain ⟨hinsert, hbreaks⟩ := (strays_apply hnormal).1 hstray
    have hfits := Buffer.accepts_some.1 (ho.fits hd.plain hk hreg)
    constructor
    · exact hstray.1
    · intro hcell
      exact (isCell_change hfits hinsert).1 hcell hbreaks
  | fails hc hnormal hr ho => exact hstray.elim

end Session

namespace Editor

variable {limits : Limits} {clipboard : Clipboard} {e : Editor} {k : Key}

/-- In normal mode the cursor is on a cell. -/
def Rests (e : Editor) : Prop :=
  e.session.mode = .normal → e.document.buffer.IsCell e.document.cursor

/-- The step is a key that meets no limit and whose reaction strays. -/
def Strays (limits : Limits) (e : Editor) : Step → Prop
  | .key k =>
    e.session.obstacle limits k = none ∧ (e.session.react e.document k).Strays e.document
  | _ => False

theorem Sound.rests_stepWithin {s : Step} (h : e.Sound) (hr : e.Rests) (hs : e.Entered s)
    (hstray : ¬ e.Strays limits s) : (e.stepWithin limits clipboard s).1.Rests := by
  cases s with
  | key k =>
    change (e.pressWithin limits clipboard k).1.Rests
    cases ho : e.session.obstacle limits k with
    | none =>
      rw [pressWithin_of_none ho, Rests, press_session, press_document]
      apply (h.steady.outcome k).isCell_granted h.steady.consistent h.document hs h.register _ hr
      intro hb
      exact hstray ⟨ho, hb⟩
    | some stopped =>
      obtain ⟨s', f⟩ := stopped
      rw [pressWithin_of_obstacle ho, Rests, (Session.mode_of_obstacle ho).1]
      exact hr
  | type text =>
    have hm : (e.stepWithin limits clipboard (.type text)).1.session = e.session := by
      simp only [Editor.stepWithin, step, edited]
      split <;> rfl
    rw [Rests, hm, hs.1]
    intro hi
    cases hi
  | _ => exact hs.elim

theorem Sound.strays_stepWithin {s : Step} (h : e.Sound) (hs : e.Entered s)
    (hstray : e.Strays limits s) :
    (e.stepWithin limits clipboard s).1.session.mode = .normal ∧
      ¬ (e.stepWithin limits clipboard s).1.Rests := by
  cases s with
  | key k =>
    obtain ⟨ho, hstray⟩ := hstray
    change (e.pressWithin limits clipboard k).1.session.mode = .normal ∧
      ¬ (e.pressWithin limits clipboard k).1.Rests
    rw [pressWithin_of_none ho, Rests, press_session, press_document]
    obtain ⟨hm, hno⟩ := (h.steady.outcome k).not_isCell_granted h.steady.consistent h.document hs
      h.register hstray
    constructor
    · exact hm
    · intro hcell
      exact hno (hcell hm)
  | _ => exact hstray.elim

/-- From a cursor on a cell, whatever is entered leaves the cursor on a cell whenever normal mode is
reached, as long as no key strays; and each key that strays leaves normal mode with a cursor on no
cell. -/
theorem rests_unless_strays {e₀ : Editor} (h₀ : e₀.session = {}) (hd : e₀.document.Sound)
    (hc : e₀.document.buffer.IsCell e₀.document.cursor) :
    (∀ e, Reaches limits clipboard (fun e s => e.Entered s ∧ ¬ e.Strays limits s) e₀ e →
        e.session.mode = .normal → e.document.buffer.IsCell e.document.cursor) ∧
      ∀ e s e', Reaches limits clipboard Entered e₀ e → e.Entered s → e.Strays limits s →
        e' = (e.stepWithin limits clipboard s).1 →
        e'.session.mode = .normal ∧ ¬ e'.document.buffer.IsCell e'.document.cursor := by
  constructor
  · intro e h
    show e.Rests
    induction h with
    | refl => exact fun _ => hc
    | step h hs ih =>
      have hsound := (h.mono fun _ _ => And.left).sound h₀ hd
      exact hsound.rests_stepWithin ih hs.1 hs.2
  · rintro e s _ h hs hstray rfl
    obtain ⟨hm, hno⟩ : (e.stepWithin limits clipboard s).1.session.mode = .normal ∧
        ¬ (e.stepWithin limits clipboard s).1.Rests :=
      (h.sound h₀ hd).strays_stepWithin hs hstray
    exact ⟨hm, fun hcell => hno fun _ => hcell⟩

/-- The cursor in front of the second of two lines that a pair of brackets spans. -/
def spanned : Editor :=
  { document := { buffer := .ofText ['(', '\n', 'a', ')'], cursor := ⟨1, 0⟩ } }

theorem rests_unless_strays_yank_brackets :
    let e := spanned.pressAll .standard .working [.char 'y', .char 'i', .char '(']
    e.session.mode = .normal ∧ e.document.cursor = ⟨0, 1⟩ ∧
      ¬ e.document.buffer.IsCell e.document.cursor := by
  have hsound : spanned.document.Sound :=
    ⟨Buffer.plain_ofText ['(', '\n', 'a', ')'], by decide,
      fun _ hm => absurd hm List.not_mem_nil⟩
  have hreach : Reaches .standard .working Entered spanned
      (spanned.pressAll .standard .working [.char 'y', .char 'i']) :=
    reaches_pressAll_chars ['y', 'i'] (show '\n' ∉ ['y', 'i'] by decide)
  obtain ⟨hm, hno⟩ := (rests_unless_strays rfl hsound (by decide)).2 _ (.key (.char '(')) _ hreach
    (Key.isPlain_char (by decide)) ⟨rfl, rfl, by decide, rfl⟩ rfl
  exact ⟨hm, by decide, hno⟩

end Editor

end ModalEdit
