import ModalEdit.Proofs.Granting
import ModalEdit.Proofs.PendingInput

namespace ModalEdit

namespace Selection

variable {sel : Selection} {b : Buffer} {start stop : Position}

theorem span_of_charwise (hshape : sel.shape = .charwise)
    (hh : sel.highlight b = .ok (start, stop)) : sel.span = ⟨start, stop, .charwise⟩ := by
  simp only [highlight, hshape] at hh
  cases hh
  simp only [span, hshape]

theorem highlight_of_linewise (h : sel.Inside b) (hshape : sel.shape = .linewise)
    (hh : sel.highlight b = .ok (start, stop)) :
    ∃ top bottom : Nat, sel.top = top ∧ sel.bottom = bottom ∧ top ≤ bottom ∧ bottom < b.size ∧
      start = ⟨top, (0 : Nat)⟩ ∧
      (bottom + 1 < b.size ∧ stop = ⟨(bottom + 1 : Nat), (0 : Nat)⟩ ∨
        bottom + 1 = b.size ∧ stop = ⟨bottom, (b.line bottom).length⟩) := by
  obtain ⟨i, _, hi, hi', _⟩ := h.1.exists_natCast
  obtain ⟨j, _, hj, hj', _⟩ := h.2.exists_natCast
  have htop : sel.top = (min i j : Nat) := by
    simp only [top, hi, hj]
    omega
  have hbottom : sel.bottom = (max i j : Nat) := by
    simp only [bottom, hi, hj]
    omega
  have hlt : max i j < b.size := Nat.max_lt.2 ⟨hi', hj'⟩
  refine ⟨min i j, max i j, htop, hbottom,
    Nat.le_trans (Nat.min_le_left i j) (Nat.le_max_left i j), hlt, ?_⟩
  simp only [highlight, hshape, htop, hbottom, Buffer.lineAt_natCast hlt, bind, Except.bind] at hh
  split at hh
  · rename_i hnext
    cases hh
    exact ⟨rfl, .inl ⟨Int.ofNat_lt.1 hnext, rfl⟩⟩
  · rename_i hnext
    cases hh
    exact ⟨rfl, .inr ⟨by omega, rfl⟩⟩

/-- The ends of what is highlighted are in order and lie in the buffer. -/
theorem highlight_inside (h : sel.Inside b) (hh : sel.highlight b = .ok (start, stop)) :
    start ≤ stop ∧ b.Contains start ∧ b.Contains stop := by
  cases hshape : sel.shape with
  | charwise =>
    simp only [highlight, hshape] at hh
    cases hh
    exact ⟨sel.anchor.earlier_le_later sel.cursor, h.1.earlier h.2, h.1.later h.2⟩
  | linewise =>
    obtain ⟨top, bottom, _, _, hle, hlt, rfl, hstop⟩ := highlight_of_linewise h hshape hh
    have hstart : b.Contains ⟨top, (0 : Nat)⟩ :=
      Buffer.contains_natCast.2 ⟨Nat.lt_of_le_of_lt hle hlt, Nat.zero_le _⟩
    rcases hstop with ⟨hnext, rfl⟩ | ⟨_, rfl⟩
    · exact ⟨Position.natCast_le.2 (.inl (Nat.lt_succ_of_le hle)), hstart,
        Buffer.contains_natCast.2 ⟨hnext, Nat.zero_le _⟩⟩
    · refine ⟨Position.natCast_le.2 ?_, hstart, Buffer.contains_natCast.2 ⟨hlt, Nat.le_refl _⟩⟩
      exact (Nat.lt_or_eq_of_le hle).imp_right fun he => ⟨he, Nat.zero_le _⟩

end Selection

theorem Document.selection_undo (d : Document) : d.undo.selection = d.selection := by
  unfold undo
  split <;> rfl

theorem Document.selection_undoTimes (d : Document) (n : Nat) :
    (d.undoTimes n).selection = d.selection := by
  unfold undoTimes
  generalize min n d.history.length = m
  induction m with
  | zero => rfl
  | succ m ih =>
    rw [Nat.repeat, selection_undo]
    exact ih

namespace Session

variable {s s' : Session} {d : Document} {b : Buffer} {k : Key} {r : Reaction}

/-- What is to be highlighted in a buffer. -/
def highlight (s : Session) (b : Buffer) : Option (Position × Position) :=
  s.mode.selection?.bind fun sel => (sel.highlight b).toOption

theorem highlight_congr (hm : s'.mode = s.mode) : s'.highlight b = s.highlight b := by
  rw [highlight, hm, highlight]

theorem highlight_of_normal (hm : s.mode = .normal) : s.highlight b = none := by
  rw [highlight, hm]
  rfl

theorem highlight_of_insert (hm : s.mode = .insert) : s.highlight b = none := by
  rw [highlight, hm]
  rfl

theorem highlight_of_visual {sel : Selection} {start stop : Position} (hm : s.mode = .visual sel)
    (hh : sel.highlight b = .ok (start, stop)) : s.highlight b = some (start, stop) := by
  simp only [highlight, hm, Mode.selection?, Option.bind_some, hh, Except.toOption]

/-- A document that highlights the selection of a session still does so after a key. -/
theorem Outcome.highlight (h : s.Outcome d k r) (hd : d.selection = s.highlight d.buffer) :
    (d.granted r.request).selection = r.session.highlight (d.granted r.request).buffer := by
  cases h with
  | typed hm => exact hd
  | digit hm hk =>
    obtain ⟨n, _, rfl, _⟩ := digit?_eq_some hk
    exact hd
  | awaits hp ha hc => exact hd
  | rests hc hm hr => exact hd.trans (highlight_congr hm).symm
  | moves hc hr hp hm =>
    rcases hm with hm | ⟨hm, _⟩
    · exact (highlight_of_insert hm).symm
    · exact (highlight_of_normal hm).symm
  | leaves hm => rfl
  | shows hc hr hm hsel hh => exact (highlight_of_visual hm hh).symm
  | undoes hu =>
    have hnone : d.selection = none := hd.trans (highlight_of_normal hu.1)
    have hm : s.clear.mode = .normal := hu.1
    rw [highlight_of_normal hm, ← hnone]
    exact d.selection_undoTimes _
  | @changes s' c hc hm hr ho =>
    obtain ⟨b, hb⟩ := ho.onLines.exists_result
    have hnone : (s'.apply c).session.highlight b = none :=
      (mode_apply hm c).elim highlight_of_normal highlight_of_insert
    simp only [Session.apply, Document.granted, Document.grant_change hb]
    exact hnone.symm
  | fails hc hm hr ho => exact ho.ne_error.elim

end Session

namespace Editor

variable {limits : Limits} {clipboard : Clipboard} {e : Editor} {k : Key}

/-- The document highlights the selection of the session, and nothing where there is none. -/
def Highlights (e : Editor) : Prop :=
  e.document.selection = e.session.highlight e.document.buffer

theorem Highlights.press (h : e.Highlights) (hs : e.Steady) :
    (e.press clipboard k).1.Highlights := by
  rw [Highlights, press_session, press_document]
  exact (hs.outcome k).highlight h

theorem Highlights.pressWithin (h : e.Highlights) (hs : e.Steady) :
    (e.pressWithin limits clipboard k).1.Highlights := by
  cases ho : e.session.obstacle limits k with
  | none =>
    rw [pressWithin_of_none ho]
    exact h.press hs
  | some stopped =>
    obtain ⟨s', f⟩ := stopped
    rw [pressWithin_of_obstacle ho]
    exact h.trans (Session.highlight_congr (Session.mode_of_obstacle ho).1).symm

theorem Highlights.type {text : List Char} (h : e.Highlights) (hm : e.session.mode = .insert) :
    (e.stepWithin limits clipboard (.type text)).1.Highlights := by
  have hnone (b : Buffer) : e.session.highlight b = none := Session.highlight_of_insert hm
  have hselection : e.document.selection = none := h.trans (hnone _)
  cases hr : e.document.buffer.replace (.insert e.document.cursor text) with
  | ok b =>
    simp only [Editor.stepWithin, step, Document.type, Document.replace, hr, edited]
    exact (hnone b).symm
  | error f =>
    simp only [Editor.stepWithin, step, Document.type, Document.replace, hr, edited]
    exact hselection.trans (hnone _).symm

theorem Highlights.stepWithin {s : Step} (h : e.Highlights) (hs : e.Steady) (hk : Keyed e s) :
    (e.stepWithin limits clipboard s).1.Highlights := by
  cases s with
  | key k => exact h.pressWithin hs
  | type text => exact h.type hk
  | _ => exact hk.elim

theorem Reaches.highlights {e₀ : Editor} (h : Reaches limits clipboard Keyed e₀ e)
    (h₀ : e₀.session = {}) (hd : e₀.document.selection = none) : e.Highlights := by
  induction h with
  | refl =>
    rw [Highlights, h₀]
    exact hd
  | step h hk ih => exact ih.stepWithin (h.steady h₀) hk

/-- Whatever keys lead to it, the document highlights something just in the visual modes, and then
what follows from the selection and the lines as they are; its ends are in order and lie in the
buffer. -/
theorem highlight_mirrors_selection {e₀ : Editor} (h₀ : e₀.session = {})
    (hd : e₀.document.selection = none) (h : Reaches limits clipboard Keyed e₀ e) :
    (e.document.selection.isSome ↔
        e.session.mode.name = .visual ∨ e.session.mode.name = .visualLine) ∧
      ∀ sel, e.session.mode = .visual sel → ∃ start stop,
        e.document.selection = some (start, stop) ∧
          sel.highlight e.document.buffer = .ok (start, stop) ∧
          start ≤ stop ∧ e.document.buffer.Contains start ∧ e.document.buffer.Contains stop := by
  have hs := h.steady h₀
  have hhighlights := h.highlights h₀ hd
  have hvisual : ∀ sel, e.session.mode = .visual sel → ∃ start stop,
      e.document.selection = some (start, stop) ∧
        sel.highlight e.document.buffer = .ok (start, stop) ∧
        start ≤ stop ∧ e.document.buffer.Contains start ∧ e.document.buffer.Contains stop := by
    intro sel hm
    have hsel := hs.selection sel hm
    obtain ⟨start, stop, hh⟩ := Selection.exists_highlight hsel
    have hshown := hhighlights.trans (Session.highlight_of_visual hm hh)
    exact ⟨start, stop, hshown, hh, Selection.highlight_inside hsel hh⟩
  refine ⟨?_, hvisual⟩
  rw [← hs.consistent.coherent.selection]
  cases hm : e.session.mode with
  | normal =>
    rw [hhighlights.trans (Session.highlight_of_normal hm)]
    rfl
  | insert =>
    rw [hhighlights.trans (Session.highlight_of_insert hm)]
    rfl
  | visual sel =>
    obtain ⟨start, stop, hshown, _⟩ := hvisual sel hm
    rw [hshown]
    exact iff_of_true rfl rfl

theorem highlight_mirrors_selection_backward :
    let e := ({ document := { buffer := .ofText ['a', 'b'] } } : Editor).pressAll .standard .working
      [.char 'l', .char 'v', .char 'h']
    e.document.selection = some (⟨0, 0⟩, ⟨0, 1⟩) := by
  intro e
  have hreach : Reaches .standard .working Keyed { document := { buffer := .ofText ['a', 'b'] } }
      e :=
    Reaches.refl.pressAll fun _ _ _ => trivial
  have hm : e.session.mode = .visual ⟨⟨0, 1⟩, ⟨0, 0⟩, .charwise⟩ := by
    decide +kernel
  obtain ⟨_, hvisual⟩ := highlight_mirrors_selection rfl rfl hreach
  obtain ⟨start, stop, hshown, hh, _⟩ := hvisual _ hm
  cases hh
  exact hshown

end Editor

end ModalEdit
