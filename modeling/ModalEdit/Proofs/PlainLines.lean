import ModalEdit.Proofs.Runs

namespace ModalEdit

namespace Document

variable {d : Document}

/-- The lines hold no line breaks, now and in every state to go back to. -/
structure Plain (d : Document) : Prop where
  buffer : d.buffer.Plain
  history : ∀ saved ∈ d.history, saved.1.Plain

namespace Plain

theorem of_history_eq_nil (hb : d.buffer.Plain) (hh : d.history = []) : d.Plain := by
  refine ⟨hb, ?_⟩
  rw [hh]
  intro saved hm
  exact absurd hm List.not_mem_nil

theorem remember (h : d.Plain) : d.remember.Plain :=
  ⟨h.buffer, List.forall_mem_cons.2 ⟨h.buffer, h.history⟩⟩

theorem replace (h : d.Plain) (e : Edit) : (d.replace e).1.Plain := by
  cases hr : d.buffer.replace e with
  | ok b =>
    simp only [Document.replace, hr]
    exact ⟨h.buffer.of_replace hr, h.remember.history⟩
  | error f =>
    simp only [Document.replace, hr]
    exact h.remember

theorem undo (h : d.Plain) : d.undo.Plain := by
  unfold Document.undo
  split
  · exact h
  · rename_i buffer cursor earlier he
    have hsaved := h.history
    rw [he] at hsaved
    obtain ⟨hbuffer, hearlier⟩ := List.forall_mem_cons.1 hsaved
    exact ⟨hbuffer, hearlier⟩

theorem undoTimes (h : d.Plain) (n : Nat) : (d.undoTimes n).Plain := by
  unfold Document.undoTimes
  generalize min n d.history.length = times
  induction times with
  | zero => exact h
  | succ times ih => exact ih.undo

theorem grant (h : d.Plain) (request : Request) : (d.grant request).1.Plain := by
  cases request with
  | stay => exact h
  | moveTo p => exact ⟨h.buffer, h.history⟩
  | highlight start stop => exact ⟨h.buffer, h.history⟩
  | undo times => exact h.undoTimes times
  | change edit cursor =>
    cases edit with
    | none => exact ⟨h.buffer, h.history⟩
    | some e =>
      have hr := h.replace e
      simp only [Document.grant]
      split
      · rename_i he
        rw [he] at hr
        exact ⟨hr.buffer, hr.history⟩
      · exact hr

theorem type (h : d.Plain) (text : List Char) : (d.type text).1.Plain :=
  h.grant (.change (some (.insert d.cursor text)) ⟨d.cursor.line, d.cursor.col + text.length⟩)

theorem granted (h : d.Plain) (request : Except Fault Request) : (d.granted request).Plain := by
  cases request with
  | ok request => exact h.grant request
  | error f => exact h

end Plain

end Document

namespace Editor

variable {limits : Limits} {clipboard : Clipboard} {e : Editor} {s : Step}

theorem plain_edited {outcome : Document × Option Fault} (h : outcome.1.Plain) :
    (e.edited outcome).1.document.Plain := by
  obtain ⟨d, _ | f⟩ := outcome
  · exact h
  · exact h

theorem plain_pressWithin (h : e.document.Plain) (k : Key) :
    (e.pressWithin limits clipboard k).1.document.Plain := by
  cases ho : e.session.obstacle limits k with
  | none =>
    rw [pressWithin_of_none ho, press_document]
    exact h.granted _
  | some stopped =>
    rw [pressWithin_of_obstacle ho]
    exact h

theorem plain_stepWithin (h : e.document.Plain) :
    (e.stepWithin limits clipboard s).1.document.Plain := by
  cases s with
  | key k => exact plain_pressWithin h k
  | type text => exact plain_edited (h.type text)
  | moveTo p => exact ⟨h.buffer, h.history⟩
  | select start stop => exact ⟨h.buffer, h.history⟩
  | undo => exact h.undo
  | replace edit => exact plain_edited (h.replace edit)
  | reset => exact h
  | view viewport => exact ⟨h.buffer, h.history⟩
  | register content => exact h
  | lineAt i => exact h

/-- Whatever is done to an editor with plain lines, they stay plain. -/
theorem Reaches.plain {P : Editor → Step → Prop} {e₀ : Editor}
    (h : Reaches limits clipboard P e₀ e) (h₀ : e₀.document.Plain) : e.document.Plain := by
  induction h with
  | refl => exact h₀
  | step _ _ ih => exact plain_stepWithin ih

end Editor

end ModalEdit
