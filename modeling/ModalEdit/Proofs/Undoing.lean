import ModalEdit.Proofs.Runs

namespace ModalEdit

/-- Buffer, cursor and history are the same. -/
structure Document.Agrees (d d' : Document) : Prop where
  buffer : d.buffer = d'.buffer
  cursor : d.cursor = d'.cursor
  history : d.history = d'.history

/-- The buffer stays as it is, and nothing is remembered or taken back. -/
structure Document.Keeps (d d' : Document) : Prop where
  buffer : d'.buffer = d.buffer
  history : d'.history = d.history

/-- The state before is remembered. -/
def Document.Remembers (d d' : Document) : Prop :=
  d'.history = (d.buffer, d.cursor) :: d.history

theorem Document.grant_change_once (d : Document) (edit : Option Edit) (p : Position) :
    d.Keeps (d.grant (.change edit p)).1 ∨ d.Remembers (d.grant (.change edit p)).1 := by
  cases edit with
  | none => exact .inl ⟨rfl, rfl⟩
  | some e =>
    right
    cases hr : d.buffer.replace e with
    | error f =>
      simp only [grant, replace, hr]
      rfl
    | ok b =>
      simp only [grant, replace, hr]
      rfl

namespace Session

variable {s : Session} {d : Document} {k : Key} {r : Reaction}

/-- Normal mode without partial input. -/
def AtRest (s : Session) : Prop :=
  s.mode = .normal ∧ s.Cleared

/-- A key other than undo changes the document at most once, and then leaves no partial input. -/
theorem Outcome.granted_once (h : s.Outcome d k r) (hu : ¬ s.Undoes k) :
    d.Keeps (d.granted r.request) ∨
      d.Remembers (d.granted r.request) ∧ r.session.Cleared ∧
        (r.session.mode = .normal ∨ r.session.mode = .insert) := by
  cases h with
  | typed hm => exact .inl ⟨rfl, rfl⟩
  | digit hm hd => exact .inl ⟨rfl, rfl⟩
  | awaits hp ha hc => exact .inl ⟨rfl, rfl⟩
  | rests hc hm hr => exact .inl ⟨rfl, rfl⟩
  | moves hc hr hp hm => exact .inl ⟨rfl, rfl⟩
  | leaves hm => exact .inl ⟨rfl, rfl⟩
  | shows hc hr hm hsel hh => exact .inl ⟨rfl, rfl⟩
  | undoes h => exact absurd h hu
  | @changes s' c hc hm hr ho =>
    exact (d.grant_change_once c.edit c.cursor).imp_right fun hd => ⟨hd, hc, mode_apply hm c⟩
  | fails hc hm hr ho => exact .inl ⟨rfl, rfl⟩

theorem AtRest.obstacle_undo {limits : Limits} (h : s.AtRest) :
    s.obstacle limits (.char 'u') = none := by
  obtain ⟨hm, hp, hc⟩ := h
  have hput : s.putting? (.char 'u') = none := by
    simp only [putting?, hm, hp]
    rfl
  simp only [obstacle, hc, hput, Option.bind_none, ite_self]

theorem Undoes.react (h : s.Undoes k) (d : Document) :
    s.react d k = { session := s.clear, request := .ok (.undo (s.takenCount.getD 1)) } := by
  obtain ⟨mode, pending, count, register, marks, desiredCol, lastSearch⟩ := s
  obtain ⟨rfl, rfl, rfl⟩ := h
  rfl

theorem AtRest.react_undo (h : s.AtRest) (d : Document) :
    s.react d (.char 'u') = { session := s, request := .ok (.undo 1) } := by
  obtain ⟨mode, pending, count, register, marks, desiredCol, lastSearch⟩ := s
  obtain ⟨rfl, rfl, rfl⟩ := h
  exact Undoes.react ⟨rfl, rfl, rfl⟩ d

theorem obstacle_escape (limits : Limits) (hm : s.mode = .insert) :
    s.obstacle limits .escape = none := by
  simp only [obstacle, usesCount, hm]
  rfl

end Session

namespace Editor

variable {limits : Limits} {clipboard : Clipboard} {e e' : Editor} {k : Key}

/-- The key is the undo command, and is carried out. -/
def Undoes (limits : Limits) (e : Editor) (k : Key) : Prop :=
  e.session.Undoes k ∧ e.session.obstacle limits k = none

/-- The editor out of insert mode, by the escape key where need be. -/
def outOfInsert (limits : Limits) (clipboard : Clipboard) (e : Editor) : Editor :=
  if e.session.mode = .insert then (e.pressWithin limits clipboard .escape).1 else e

theorem atRest_outOfInsert (hc : e.session.Cleared)
    (hm : e.session.mode = .normal ∨ e.session.mode = .insert) :
    (e.outOfInsert limits clipboard).session.AtRest ∧
      e.document.Keeps (e.outOfInsert limits clipboard).document ∧
      (e.outOfInsert limits clipboard).session.register = e.session.register := by
  rcases hm with hm | hm
  · have hno : ¬ e.session.mode = .insert := by
      intro hi
      cases hm.symm.trans hi
    rw [outOfInsert, if_neg hno]
    exact ⟨⟨hm, hc⟩, ⟨rfl, rfl⟩, rfl⟩
  · rw [outOfInsert, if_pos hm, pressWithin_of_none (Session.obstacle_escape limits hm),
      press_session, press_document]
    simp only [Session.react, Session.escape, hm]
    exact ⟨⟨rfl, rfl, rfl⟩, ⟨rfl, rfl⟩, rfl⟩

theorem pressWithin_undo {saved : Buffer × Position} {earlier : List (Buffer × Position)}
    (h : e.session.AtRest) (hh : e.document.history = saved :: earlier) :
    (e.pressWithin limits clipboard (.char 'u')).1.session = e.session ∧
      (e.pressWithin limits clipboard (.char 'u')).1.document =
        { e.document with buffer := saved.1, cursor := saved.2, history := earlier } := by
  rw [pressWithin_of_none h.obstacle_undo, press_session, press_document, h.react_undo]
  exact ⟨rfl, Document.undoTimes_one hh⟩

theorem Steady.changes_once (h : e.Steady) (hu : ¬ e.Undoes limits k) :
    e.document.Keeps (e.pressWithin limits clipboard k).1.document ∨
      e.document.Remembers (e.pressWithin limits clipboard k).1.document ∧
        (e.pressWithin limits clipboard k).1.session.Cleared ∧
        ((e.pressWithin limits clipboard k).1.session.mode = .normal ∨
          (e.pressWithin limits clipboard k).1.session.mode = .insert) := by
  cases ho : e.session.obstacle limits k with
  | none =>
    rw [pressWithin_of_none ho, press_document, press_session]
    apply (h.outcome k).granted_once
    intro hs
    exact hu ⟨hs, ho⟩
  | some stopped =>
    obtain ⟨s', f⟩ := stopped
    rw [pressWithin_of_obstacle ho]
    exact .inl ⟨rfl, rfl⟩

/-- The key edits: the state before it is remembered, and it is not the undo command. -/
structure EditedBy (limits : Limits) (clipboard : Clipboard) (e : Editor) (k : Key) : Prop where
  not_undoes : ¬ e.Undoes limits k
  remembers : e.document.Remembers (e.pressWithin limits clipboard k).1.document

/-- The step is a key that leaves buffer and history alone. -/
def Idles (limits : Limits) (clipboard : Clipboard) (e : Editor) : Step → Prop
  | .key k => e.document.Keeps (e.pressWithin limits clipboard k).1.document
  | _ => False

/-- A number of keys that edit, with keys between them that do not, lead from one editor to another;
insert mode is left after each edit. -/
inductive Edits (limits : Limits) (clipboard : Clipboard) (e : Editor) : Nat → Editor → Prop
  | first {k : Key} (h : e.EditedBy limits clipboard k) :
    Edits limits clipboard e 1 ((e.pressWithin limits clipboard k).1.outOfInsert limits clipboard)
  | next {n : Nat} {e' e'' : Editor} {k : Key} (h : Edits limits clipboard e n e')
    (hidle : Reaches limits clipboard (Idles limits clipboard) e' e'')
    (hedit : e''.EditedBy limits clipboard k) :
    Edits limits clipboard e (n + 1)
      ((e''.pressWithin limits clipboard k).1.outOfInsert limits clipboard)

theorem Idles.keyed {s : Step} (h : e.Idles limits clipboard s) : e.Keyed s := by
  cases s with
  | key k => trivial
  | _ => exact h.elim

theorem Reaches.keeps (h : Reaches limits clipboard (Idles limits clipboard) e e') :
    e.document.Keeps e'.document := by
  induction h with
  | refl => exact ⟨rfl, rfl⟩
  | @step e' s _ hs ih =>
    cases s with
    | key k => exact ⟨hs.buffer.trans ih.buffer, hs.history.trans ih.history⟩
    | _ => exact hs.elim

/-- After a key that edits and out of insert mode, the session is at rest, and the state before the
key is the one remembered last. -/
theorem EditedBy.outOfInsert (h : e.EditedBy limits clipboard k) (hs : e.Steady)
    (he : e' = (e.pressWithin limits clipboard k).1) :
    (e'.outOfInsert limits clipboard).session.AtRest ∧
      e.document.Remembers (e'.outOfInsert limits clipboard).document ∧
      (e'.outOfInsert limits clipboard).session.register = e'.session.register := by
  subst he
  rcases hs.changes_once h.not_undoes with hkeep | ⟨hremember, hc, hm⟩
  · -- A history cannot be one longer and the same.
    have hlen := congrArg List.length (h.remembers.symm.trans hkeep.history)
    exact absurd hlen (Nat.succ_ne_self _)
  · obtain ⟨hrest, hkeep, hreg⟩ := atRest_outOfInsert hc hm
    exact ⟨hrest, hkeep.history.trans hremember, hreg⟩

theorem Steady.outOfInsert (h : e.Steady) : (e.outOfInsert limits clipboard).Steady := by
  unfold Editor.outOfInsert
  split
  · exact h.pressWithin
  · exact h

theorem Edits.steady {n : Nat} (h : Edits limits clipboard e n e') (hs : e.Steady) :
    e'.Steady := by
  induction h with
  | first h => exact hs.pressWithin.outOfInsert
  | next _ hidle hedit ih =>
    have hidle := hidle.mono fun _ _ => Idles.keyed
    exact (ih.reaches hidle).pressWithin.outOfInsert

theorem pressWithin_undo_of_remembers {d : Document} (h : e.session.AtRest)
    (hd : d.Remembers e.document) :
    (e.pressWithin limits clipboard (.char 'u')).1.document.Agrees d ∧
      (e.pressWithin limits clipboard (.char 'u')).1.session = e.session := by
  obtain ⟨hsession, hdocument⟩ := pressWithin_undo h hd
  rw [hdocument]
  exact ⟨⟨rfl, rfl, rfl⟩, hsession⟩

/-- Any editor at rest with the history that some edits leave goes back, by as many undos, to where
the edits began. -/
theorem Edits.undone {n : Nat} {f : Editor} (h : Edits limits clipboard e n e') (hs : e.Steady)
    (hf : f.session.AtRest) (hh : f.document.history = e'.document.history) :
    (f.pressAll limits clipboard (List.replicate n (.char 'u'))).document.Agrees e.document ∧
      (f.pressAll limits clipboard (List.replicate n (.char 'u'))).session = f.session := by
  -- Only the history of `f` counts, since the first undo takes buffer and cursor from it.
  induction h generalizing f with
  | first hedit =>
    obtain ⟨_, hremember, _⟩ := hedit.outOfInsert hs rfl
    rw [List.replicate_one, pressAll_cons, pressAll_nil]
    exact pressWithin_undo_of_remembers hf (hh.trans hremember)
  | @next n e' e'' k h hidle hedit ih =>
    have hsteady := (h.steady hs).reaches (hidle.mono fun _ _ => Idles.keyed)
    obtain ⟨_, hremember, _⟩ := hedit.outOfInsert hsteady rfl
    obtain ⟨hagree, hsession⟩ : (f.pressWithin limits clipboard (.char 'u')).1.document.Agrees
          e''.document ∧ (f.pressWithin limits clipboard (.char 'u')).1.session = f.session :=
      pressWithin_undo_of_remembers hf (hh.trans hremember)
    have hrest : (f.pressWithin limits clipboard (.char 'u')).1.session.AtRest :=
      hsession.symm ▸ hf
    obtain ⟨hback, hkept⟩ := ih hrest (hagree.history.trans hidle.keeps.history)
    rw [List.replicate_succ, pressAll_cons]
    exact ⟨hback, hkept.trans hsession⟩

theorem Edits.atRest {n : Nat} (h : Edits limits clipboard e n e') (hs : e.Steady) :
    e'.session.AtRest := by
  cases h with
  | first hedit => exact (hedit.outOfInsert hs rfl).1
  | next h hidle hedit =>
    have hsteady := (h.steady hs).reaches (hidle.mono fun _ _ => Idles.keyed)
    exact (hedit.outOfInsert hsteady rfl).1

/-- Every key but undo leaves buffer and history alone, or is an edit that one undo takes back as it
was. As many undos as there were edits go back to where the edits began, and without a history undo
leaves the document alone. -/
theorem undo_reverts_edits {e₀ : Editor} (h₀ : e₀.session = {})
    (h : Reaches limits clipboard Keyed e₀ e) :
    (∀ k e' f, ¬ e.Undoes limits k → e' = (e.pressWithin limits clipboard k).1 →
        f = ((e'.outOfInsert limits clipboard).pressWithin limits clipboard (.char 'u')).1 →
        e.document.Keeps e'.document ∨
          e.document.Remembers e'.document ∧ f.document.Agrees e.document ∧
            f.session.register = e'.session.register) ∧
      (∀ n e' f, Edits limits clipboard e n e' →
        f = e'.pressAll limits clipboard (List.replicate n (.char 'u')) →
        f.document.Agrees e.document ∧ f.session.register = e'.session.register) ∧
      ∀ k, e.Undoes limits k → e.document.history = [] →
        (e.pressWithin limits clipboard k).1.document = e.document := by
  have hs := h.steady h₀
  refine ⟨?_, ?_, ?_⟩
  · rintro k e' f hu rfl rfl
    refine (hs.changes_once hu).imp_right fun hchange => ⟨hchange.1, ?_⟩
    obtain ⟨hrest, hremember, hreg⟩ := EditedBy.outOfInsert ⟨hu, hchange.1⟩ hs rfl
    obtain ⟨hagree, hsession⟩ := pressWithin_undo_of_remembers hrest hremember
    exact ⟨hagree, hsession ▸ hreg⟩
  · rintro n e' f hedits rfl
    obtain ⟨hagree, hsession⟩ := hedits.undone hs (hedits.atRest hs) rfl
    exact ⟨hagree, congrArg Session.register hsession⟩
  · rintro k ⟨hu, ho⟩ hnil
    rw [pressWithin_of_none ho, press_document, hu.react]
    exact Document.undoTimes_of_history_eq_nil hnil _

theorem undo_reverts_edits_change_line :
    let e : Editor := { document := { buffer := .ofText ['a', 'b'] } }
    let e' := (e.pressWithin .standard .working (.char 'S')).1
    e'.document.buffer = .ofText [] ∧ e'.session.mode = .insert ∧
      ((e'.outOfInsert .standard .working).pressWithin .standard .working
        (.char 'u')).1.document.Agrees e.document := by
  intro e e'
  have hreach : Reaches .standard .working Keyed e e := .refl
  have hu : ¬ e.Undoes .standard (.char 'S') := fun h => absurd h.1.2.2 (by decide)
  obtain ⟨honce, _⟩ := undo_reverts_edits rfl hreach
  rcases honce (.char 'S') e' _ hu rfl rfl with hkeep | ⟨_, hagree, _⟩
  · exact absurd hkeep.buffer (by decide)
  · exact ⟨by decide, by decide, hagree⟩

end Editor

end ModalEdit
