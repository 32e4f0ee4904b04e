import ModalEdit.Limits.Editing
import ModalEdit.Proofs.Reactions
import ModalEdit.Proofs.Requests

namespace ModalEdit

namespace Session

variable {s s' : Session} {k : Key} {limits : Limits} {f : Fault}

theorem digit?_eq_some (h : s.digit? k = some s') :
    ∃ n, k.digit? = some n ∧ s' = { s with count := some (10 * s.count.getD 0 + n) } ∧
      s.pending.lead? = none ∧ (n = 0 → s.count ≠ none) := by
  simp only [digit?, Option.bind_eq_bind, Option.bind_eq_some_iff] at h
  obtain ⟨n, hn, h⟩ := h
  split at h
  · cases h
  · rename_i hc
    rw [not_or, Option.not_isSome_iff_eq_none, not_and] at hc
    cases h
    exact ⟨n, hn, rfl, hc⟩

theorem Consistent.digit (hs : s.Consistent) (hm : s.mode ≠ .insert)
    (h : s.digit? k = some s') : s'.Consistent := by
  obtain ⟨n, _, rfl, _, hzero⟩ := digit?_eq_some h
  constructor
  case pending => exact hs.pending
  case insert =>
    intro he
    exact absurd he hm
  case count =>
    intro _ he
    cases he
    cases hc : s.count with
    | none =>
      apply Nat.lt_of_lt_of_le _ (Nat.le_add_left _ _)
      apply Nat.pos_of_ne_zero
      intro hn
      exact hzero hn hc
    | some m =>
      have hm := hs.count m hc
      simp only [Option.getD_some]
      omega

/-- The key uses a count that has too many digits to be read. -/
def Unreadable (limits : Limits) (s : Session) (k : Key) (f : Fault) : Prop :=
  s.usesCount k = true ∧ s.digit? k = none ∧ ∃ n, s.count = some n ∧ limits.number n = some f

/-- The key puts more copies of the register than can be made. -/
def Overfull (limits : Limits) (s : Session) (k : Key) (f : Fault) : Prop :=
  ∃ r n, s.putting? k = some (r, n) ∧ limits.copies r n = some f

theorem usesCount_of_putting? {put : Register × Nat} (h : s.putting? k = some put) :
    s.usesCount k = true ∧ s.digit? k = none := by
  unfold putting? at h
  split at h
  · rename_i c hm hp
    split at h
    · rename_i hc
      simp only [usesCount, hm, hp]
      rcases hc with rfl | rfl
      · exact ⟨by decide, rfl⟩
      · exact ⟨by decide, rfl⟩
    · cases h
  · cases h

/-- A count that cannot be read leaves the session alone, and copies that cannot be made leave it
without partial input. -/
theorem obstacle_eq_some (h : s.obstacle limits k = some (s', f)) :
    (s.Unreadable limits k f ∧ s' = s) ∨ (s.Overfull limits k f ∧ s' = s.clear) := by
  unfold obstacle at h
  split at h
  · rename_i huse
    obtain ⟨huse, hd⟩ := Bool.and_eq_true_iff.1 huse
    split at h
    · rename_i f' hf
      cases h
      obtain ⟨n, hn, hf⟩ := Option.bind_eq_some_iff.1 hf
      exact .inl ⟨⟨huse, Option.isNone_iff_eq_none.1 hd, n, hn, hf⟩, rfl⟩
    · obtain ⟨⟨r, n⟩, hput, h⟩ := Option.bind_eq_some_iff.1 h
      obtain ⟨f', hf, he⟩ := Option.map_eq_some_iff.1 h
      cases he
      exact .inr ⟨⟨r, n, hput, hf⟩, rfl⟩
  · cases h

theorem Unreadable.obstacle (h : s.Unreadable limits k f) : s.obstacle limits k = some (s, f) := by
  obtain ⟨huse, hd, n, hn, hf⟩ := h
  simp only [Session.obstacle, huse, hd, hn, Option.bind_some, hf]
  rfl

theorem Overfull.exists_obstacle (h : s.Overfull limits k f) :
    ∃ stopped, s.obstacle limits k = some stopped := by
  obtain ⟨r, n, hput, hf⟩ := h
  obtain ⟨huse, hd⟩ := usesCount_of_putting? hput
  cases hread : s.count.bind limits.number with
  | some f' =>
    obtain ⟨m, hm, hf'⟩ := Option.bind_eq_some_iff.1 hread
    exact ⟨_, Unreadable.obstacle ⟨huse, hd, m, hm, hf'⟩⟩
  | none =>
    refine ⟨(s.clear, f), ?_⟩
    simp only [obstacle, huse, hd, hread, hput, Option.bind_some, hf]
    rfl

theorem Consistent.obstacle (hs : s.Consistent) (h : s.obstacle limits k = some (s', f)) :
    s'.Consistent := by
  rcases obstacle_eq_some h with ⟨_, rfl⟩ | ⟨_, rfl⟩
  · exact hs
  · exact s.cleared_clear.consistent

theorem mode_of_obstacle (h : s.obstacle limits k = some (s', f)) :
    s'.mode = s.mode ∧ s'.register = s.register := by
  rcases obstacle_eq_some h with ⟨_, rfl⟩ | ⟨_, rfl⟩
  · exact ⟨rfl, rfl⟩
  · exact ⟨rfl, rfl⟩

theorem Outcome.consistent {d : Document} {r : Reaction} (h : s.Outcome d k r)
    (hs : s.Consistent) : r.session.Consistent := by
  cases h with
  | typed hm => exact hs
  | digit hm hd => exact hs.digit hm hd
  | awaits hp ha hc =>
    constructor
    case pending => exact ha
    case count =>
      intro n hn
      rcases hc with rfl | rfl
      · exact hs.count n hn
      · cases hn
    case insert =>
      intro hm
      rw [show s.mode = .insert from hm] at ha
      exact absurd ha.idle_of_insert hp
  | rests hc hm hr => exact hc.consistent
  | moves hc hr hp hm => exact hc.consistent
  | leaves hm => exact Cleared.consistent ⟨rfl, rfl⟩
  | shows hc hr hm hin hh => exact hc.consistent
  | undoes hu => exact s.cleared_clear.consistent
  | changes hc hm hr ho => exact Cleared.consistent hc
  | fails hc hm hr ho => exact hc.consistent

theorem mode_apply (hm : s.mode = .normal) (c : Change) :
    (s.apply c).session.mode = .normal ∨ (s.apply c).session.mode = .insert := by
  simp only [apply, hm]
  split
  · exact .inr rfl
  · exact .inl rfl

/-- Whatever a reaction selects lies in the buffer it leaves. -/
theorem Outcome.selection {d : Document} {r : Reaction} (h : s.Outcome d k r)
    (hsel : ∀ sel, s.mode = .visual sel → sel.Inside d.buffer) :
    ∀ sel, r.session.mode = .visual sel → sel.Inside (d.granted r.request).buffer := by
  intro sel hv
  cases h with
  | typed hm => exact hsel sel hv
  | digit hm hd =>
    obtain ⟨n, _, rfl, _⟩ := digit?_eq_some hd
    exact hsel sel hv
  | awaits hp ha hc => exact hsel sel hv
  | rests hc hm hr => exact hsel sel (hm.symm.trans hv)
  | moves hc hr hp hm =>
    rcases hm with hm | ⟨hm, _⟩
    · cases hm.symm.trans hv
    · cases hm.symm.trans hv
  | leaves hm => cases hv
  | shows hc hr hm hin hh =>
    cases hm.symm.trans hv
    exact hin
  | undoes hu => cases hu.1.symm.trans hv
  | @changes s' c hc hm hr ho =>
    rcases mode_apply hm c with hm | hm
    · cases hm.symm.trans hv
    · cases hm.symm.trans hv
  | fails hc hm hr ho => cases hm.symm.trans hv

end Session

namespace Editor

variable {limits : Limits} {clipboard : Clipboard} {e : Editor} {k : Key}

theorem press_session (e : Editor) (clipboard : Clipboard) (k : Key) :
    (e.press clipboard k).1.session = (e.session.react e.document k).session := by
  simp only [press]
  split
  · rfl
  · split <;> rfl

theorem press_document (e : Editor) (clipboard : Clipboard) (k : Key) :
    (e.press clipboard k).1.document =
      e.document.granted (e.session.react e.document k).request := by
  simp only [press]
  split
  · rename_i f hf
    rw [hf]
    rfl
  · rename_i request hr
    rw [hr]
    simp only [Document.granted]
    split
    · rename_i d f hg
      rw [hg]
    · rename_i d hg
      rw [hg]

theorem pressWithin_of_obstacle {s' : Session} {f : Fault}
    (h : e.session.obstacle limits k = some (s', f)) :
    e.pressWithin limits clipboard k = ({ e with session := s' }, .error f) := by
  simp only [pressWithin, h]

theorem pressWithin_of_none (h : e.session.obstacle limits k = none) :
    e.pressWithin limits clipboard k = e.press clipboard k := by
  simp only [pressWithin, h]

/-- Editors that a run from `e₀` leads to, each of whose steps `P` admits. -/
inductive Reaches (limits : Limits) (clipboard : Clipboard) (P : Editor → Step → Prop)
    (e₀ : Editor) : Editor → Prop
  | refl : Reaches limits clipboard P e₀ e₀
  | step {e : Editor} {s : Step} (h : Reaches limits clipboard P e₀ e) (hs : P e s) :
    Reaches limits clipboard P e₀ (e.stepWithin limits clipboard s).1

theorem Reaches.mono {P Q : Editor → Step → Prop} {e₀ : Editor}
    (h : Reaches limits clipboard P e₀ e) (hpq : ∀ e s, P e s → Q e s) :
    Reaches limits clipboard Q e₀ e := by
  induction h with
  | refl => exact .refl
  | step _ hs ih => exact .step ih (hpq _ _ hs)

/-- Presses keys one after the other, going on after faults. -/
def pressAll (limits : Limits) (clipboard : Clipboard) (e : Editor) (ks : List Key) : Editor :=
  ks.foldl (fun e k => (e.pressWithin limits clipboard k).1) e

@[simp] theorem pressAll_nil (e : Editor) : e.pressAll limits clipboard [] = e := rfl

@[simp] theorem pressAll_cons (e : Editor) (k : Key) (ks : List Key) :
    e.pressAll limits clipboard (k :: ks) =
      (e.pressWithin limits clipboard k).1.pressAll limits clipboard ks := rfl

theorem Reaches.pressAll {P : Editor → Step → Prop} {e₀ : Editor} {ks : List Key}
    (h : Reaches limits clipboard P e₀ e) (hks : ∀ k ∈ ks, ∀ e, P e (.key k)) :
    Reaches limits clipboard P e₀ (e.pressAll limits clipboard ks) := by
  induction ks generalizing e with
  | nil => exact h
  | cons k ks ih =>
    have hk := h.step (hks k List.mem_cons_self e)
    apply ih hk
    intro k' hk'
    exact hks k' (List.mem_cons_of_mem k hk')

/-- The steps of someone at a keyboard: keys, and in insert mode text. -/
def Keyed (e : Editor) : Step → Prop
  | .key _ => True
  | .type _ => e.session.mode = .insert
  | _ => False

/-- The session is consistent, and what it selects lies in the buffer. -/
structure Steady (e : Editor) : Prop where
  consistent : e.session.Consistent
  selection : ∀ sel, e.session.mode = .visual sel → sel.Inside e.document.buffer

theorem steady_of_fresh (h : e.session = {}) : e.Steady := by
  constructor
  · rw [h]
    exact Session.Cleared.consistent ⟨rfl, rfl⟩
  · rw [h]
    intro sel hm
    cases hm

theorem Steady.outcome (h : e.Steady) (k : Key) :
    e.session.Outcome e.document k (e.session.react e.document k) :=
  Session.outcome_react h.consistent h.selection

theorem Steady.press (h : e.Steady) : (e.press clipboard k).1.Steady := by
  have hout := h.outcome k
  constructor
  · rw [press_session]
    exact hout.consistent h.consistent
  · rw [press_session, press_document]
    exact hout.selection h.selection

theorem Steady.pressWithin (h : e.Steady) : (e.pressWithin limits clipboard k).1.Steady := by
  cases ho : e.session.obstacle limits k with
  | none =>
    rw [pressWithin_of_none ho]
    exact h.press
  | some stopped =>
    obtain ⟨s', f⟩ := stopped
    rw [pressWithin_of_obstacle ho]
    refine ⟨h.consistent.obstacle ho, ?_⟩
    rw [(Session.mode_of_obstacle ho).1]
    exact h.selection

theorem Steady.stepWithin {s : Step} (h : e.Steady) (hs : Keyed e s) :
    (e.stepWithin limits clipboard s).1.Steady := by
  cases s with
  | key k => exact h.pressWithin
  | type text =>
    -- Nothing is selected while text is typed, so the buffer may change at will.
    have hm : e.session.mode = .insert := hs
    have hsel : ∀ sel b, e.session.mode = .visual sel → sel.Inside b := by
      intro sel b hv
      cases hm.symm.trans hv
    simp only [Editor.stepWithin, step, edited]
    split <;> exact ⟨h.consistent, fun sel => hsel sel _⟩
  | moveTo p => exact hs.elim
  | select start stop => exact hs.elim
  | undo => exact hs.elim
  | replace edit => exact hs.elim
  | reset => exact hs.elim
  | view viewport => exact hs.elim
  | register content => exact hs.elim
  | lineAt i => exact hs.elim

theorem Steady.reaches {e' : Editor} (h : e.Steady) (hr : Reaches limits clipboard Keyed e e') :
    e'.Steady := by
  induction hr with
  | refl => exact h
  | step _ hs ih => exact ih.stepWithin hs

theorem Reaches.steady {e₀ : Editor} (h : Reaches limits clipboard Keyed e₀ e)
    (h₀ : e₀.session = {}) : e.Steady :=
  (steady_of_fresh h₀).reaches h

end Editor

end ModalEdit
