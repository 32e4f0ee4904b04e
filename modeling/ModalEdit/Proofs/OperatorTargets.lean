import ModalEdit.Proofs.Granting
import ModalEdit.Proofs.TypedCounts

namespace ModalEdit

namespace Session

variable {s s' : Session} {d : Document} {op : Operator} {k : Key}

/-- Mode, register and marks stay as they are. The selection is part of the mode. -/
structure Retains (s s' : Session) : Prop where
  mode : s'.mode = s.mode
  register : s'.register = s.register
  marks : s'.marks = s.marks

/-- What a key makes of an operator that waits for its target. -/
inductive Resolves (s : Session) (d : Document) (op : Operator) : Reaction → Prop
  | runs {s' : Session} {span : Span} {c : Change} (hs : s.Retains s') (hc : s'.Cleared)
    (hspan : span.Inside d.buffer) (hrun : op.run d.buffer span = .ok (some c)) :
    Resolves s d op (s'.apply c)
  | drops {s' : Session} (hs : s.Retains s') : Resolves s d op { session := s' }

theorem resolves_operate {span : Option Span} (hs : s.Retains s')
    (hspan : ∀ sp, span = some sp → sp.Inside d.buffer) :
    s.Resolves d op (s'.operate d op span) := by
  cases span with
  | none => exact .drops ⟨hs.mode, hs.register, hs.marks⟩
  | some sp =>
    have hinside := hspan sp rfl
    rcases op.run_of_inside hinside with ⟨_, hrun⟩ | ⟨c, hrun⟩
    · simp only [operate, attempt, hrun]
      exact .drops ⟨hs.mode, hs.register, hs.marks⟩
    · simp only [operate, attempt, hrun]
      exact .runs ⟨hs.mode, hs.register, hs.marks⟩ ⟨rfl, rfl⟩ hinside hrun

theorem resolves_operatorKey {count : Option Nat} (hm : s.mode = .normal) :
    s.Resolves d op (s.operatorKey d op count k) := by
  have hcell := isCell_cursor d hm
  have hdrop : s.Resolves d op (s.operate d op none) := .drops ⟨rfl, rfl, rfl⟩
  cases k with
  | escape => exact hdrop
  | named name => exact hdrop
  | char c =>
    simp only [operatorKey]
    split
    · apply resolves_operate ⟨rfl, rfl, rfl⟩
      rintro _ ⟨⟩
      exact Span.inside_linewise _ _ _
    · split
      · exact .drops ⟨rfl, rfl, rfl⟩
      · split
        · split
          · apply resolves_operate ⟨rfl, rfl, rfl⟩
            intro sp he
            obtain ⟨landing, hl, hspan⟩ := Option.bind_eq_some_iff.1 he
            exact Motion.inside_of_run (.inl hcell) hl hspan
          · obtain ⟨col, he⟩ := follow_session s d.buffer (s.cursor d) s.motionCount
              (s.motionOn d s.motionCount c)
            rw [he]
            exact resolves_operate ⟨rfl, rfl, rfl⟩ fun sp => inside_of_follow hcell
        · exact hdrop

theorem resolves_operatorLeadKey {lead : Lead} (hm : s.mode = .normal) :
    s.Resolves d op (s.operatorLeadKey d op lead k) := by
  have hcell := isCell_cursor d hm
  have hfollow : s.Resolves d op
      ((s.followLead d.buffer (s.cursor d) s.motionCount lead k).1.operate d op
        ((s.followLead d.buffer (s.cursor d) s.motionCount lead k).2.bind (·.span))) := by
    obtain ⟨col, search, he⟩ := followLead_session s d.buffer (s.cursor d) s.motionCount lead k
    rw [he]
    exact resolves_operate ⟨rfl, rfl, rfl⟩ fun sp => inside_of_followLead hcell
  cases lead with
  | object outer => exact resolves_operate ⟨rfl, rfl, rfl⟩ fun sp he _ => contains_objectOn he
  | find kind => exact hfollow
  | mark exact => exact hfollow
  | go => exact hfollow
  | replace => exact hfollow
  | setMark => exact hfollow

theorem resolves_command (hm : s.mode = .normal) (hp : s.pending.operator? = some op) :
    s.Resolves d op (s.command d k) := by
  cases hd : s.digit? k with
  | some s' =>
    obtain ⟨n, _, rfl, _⟩ := digit?_eq_some hd
    simp only [command, hd]
    exact .drops ⟨rfl, rfl, rfl⟩
  | none =>
    cases hpending : s.pending with
    | idle =>
      rw [hpending] at hp
      cases hp
    | lead l =>
      rw [hpending] at hp
      cases hp
    | operator op' count =>
      rw [hpending] at hp
      cases hp
      simp only [command, hd, hpending]
      exact resolves_operatorKey hm
    | operatorLead op' count lead =>
      rw [hpending] at hp
      cases hp
      simp only [command, hd, hpending]
      exact resolves_operatorLeadKey hm

theorem resolves_react (hs : s.Consistent) (hp : s.pending.operator? = some op) :
    s.Resolves d op (s.react d k) := by
  have hm := hs.mode_of_operator hp
  by_cases hk : k = .escape
  · subst hk
    have he : s.react d .escape = { session := s.reset } := by
      simp only [react, escape, hm]
    rw [he]
    exact .drops ⟨hm.symm, rfl, rfl⟩
  · rw [react_of_ne_insert (mode_ne_insert hm) hk]
    exact resolves_command hm hp

/-- All that can stop a key after an operator is a count that cannot be read. -/
theorem unreadable_of_operator {limits : Limits} {f : Fault}
    (hp : s.pending.operator? = some op) (h : s.obstacle limits k = some (s', f)) :
    s.Unreadable limits k f ∧ s' = s := by
  have hbusy : s.pending ≠ .idle := by
    intro hidle
    rw [hidle] at hp
    cases hp
  refine (obstacle_eq_some h).resolve_right ?_
  rintro ⟨⟨r, n, hput, _⟩, _⟩
  cases hput.symm.trans (putting?_eq_none hbusy)

end Session

namespace Editor

variable {limits : Limits} {clipboard : Clipboard} {e e' : Editor} {k : Key} {op : Operator}

/-- The operator has run: the document has granted its change over a span of the buffer, and the
session has taken it up with no partial input left. -/
def Ran (op : Operator) (e e' : Editor) : Prop :=
  ∃ span c s, span.Inside e.document.buffer ∧ op.run e.document.buffer span = .ok (some c) ∧
    e.session.Retains s ∧ s.Cleared ∧ e'.session = (s.apply c).session ∧
    e.document.grant (.change c.edit c.cursor) = (e'.document, none)

/-- An operator that waits for its target is carried out as a whole or not at all. A key whose
report carries a text has run it, with that text in the register and no partial input left; any
other key leaves document, mode, register and marks as they are, and fails only where the count
cannot be read. -/
theorem operator_all_or_nothing {e₀ : Editor} {answer : Except Fault Report}
    (h₀ : e₀.session = {}) (h : Reaches limits clipboard Keyed e₀ e)
    (hp : e.session.pending.operator? = some op)
    (he : e.pressWithin limits clipboard k = (e', answer)) :
    (∃ report text, answer = .ok report ∧ report.copied = some text ∧ Ran op e e' ∧
        e'.session.register.map Register.text = some text ∧ e'.session.Cleared) ∨
      ((∃ report, answer = .ok report ∧ report.copied = none) ∨
          ∃ f, answer = .error f ∧ e.session.Unreadable limits k f) ∧
        e'.document = e.document ∧ e.session.Retains e'.session := by
  have hs := h.steady h₀
  cases ho : e.session.obstacle limits k with
  | some stopped =>
    obtain ⟨s', f⟩ := stopped
    rw [pressWithin_of_obstacle ho] at he
    cases he
    obtain ⟨hunreadable, rfl⟩ := Session.unreadable_of_operator hp ho
    exact .inr ⟨.inr ⟨f, rfl, hunreadable⟩, rfl, rfl, rfl, rfl⟩
  | none =>
    have hresolves : e.session.Resolves e.document op (e.session.react e.document k) :=
      Session.resolves_react hs.consistent hp
    rw [pressWithin_of_none ho, hs.press_eq] at he
    generalize e.session.react e.document k = r at he hresolves
    cases he
    cases hresolves with
    | @runs s span c hretains hc hspan hrun =>
      left
      obtain ⟨⟨r, hr⟩, hlines⟩ := Operator.exists_register_of_run hspan hrun
      have hgrant := Document.grant_of_onLines hlines
      refine ⟨_, r.text, rfl, ?_, ⟨span, c, s, hspan, hrun, hretains, hc, rfl, hgrant⟩, ?_, hc⟩
      · simp only [Session.apply, hr, Option.map_some]
      · simp only [Session.apply, hr, Option.some_or, Option.map_some]
    | drops hretains => exact .inr ⟨.inl ⟨_, rfl, rfl⟩, rfl, hretains⟩

theorem operator_all_or_nothing_delete_word :
    let e : Editor := { document := { buffer := .ofText ['a', ' ', 'b'] } }
    let d := (e.pressWithin .standard .working (.char 'd')).1
    Ran .delete d (d.pressWithin .standard .working (.char 'w')).1 := by
  intro e d
  have hd : Reaches .standard .working Keyed e d :=
    Reaches.refl.step (s := .key (.char 'd')) trivial
  have hcopied : (d.pressWithin .standard .working (.char 'w')).2.toOption.bind Report.copied =
      some ['a', ' '] := by
    decide +kernel
  rcases he : d.pressWithin .standard .working (.char 'w') with ⟨e', answer⟩
  rw [he] at hcopied
  rcases operator_all_or_nothing rfl hd rfl he with ⟨_, _, _, _, hran, _⟩ | ⟨hnot, _⟩
  · exact hran
  · rcases hnot with ⟨report, rfl, hnone⟩ | ⟨f, rfl, _⟩
    · cases hnone.symm.trans hcopied
    · cases hcopied

end Editor

end ModalEdit
