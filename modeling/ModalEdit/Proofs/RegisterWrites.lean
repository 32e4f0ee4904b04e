import ModalEdit.Proofs.Granting
import ModalEdit.Proofs.TypedCounts

namespace ModalEdit

theorem Operator.key_of_ofKey? {c : Char} {op : Operator} (h : ofKey? c = some op) :
    c = op.key := by
  unfold ofKey? at h
  split at h <;> cases h <;> rfl

namespace Session

variable {s : Session} {d : Document} {k : Key} {r : Reaction}

/-- The key may run an operator: one waits for its target, or the key is a command that works on
text at the cursor or on the selection. -/
def Operates (s : Session) (k : Key) : Prop :=
  s.pending.operator?.isSome ∧ k ≠ .escape ∨
    s.pending = .idle ∧
      (s.mode = .normal ∧ k ∈ ['x', 's', 'S', 'D', 'C', 'Y'].map Key.char ∨
        s.mode.selection?.isSome ∧ k ∈ ['d', 'c', 'y', 'x'].map Key.char)

section Walk

theorem copied_attempt {answer : Except Fault (Option Change)} (h : d.buffer.Performs answer) :
    (s.attempt answer).copied = none := by
  obtain ⟨change, rfl, hchange⟩ := h
  cases change with
  | none => rfl
  | some c =>
    obtain ⟨_, hr⟩ := hchange c rfl
    simp only [attempt, apply, hr, Option.map_none]

theorem copied_land (s : Session) (d : Document) (landing : Option Landing) :
    (s.land d landing).copied = none := by
  cases landing with
  | none => rfl
  | some landing =>
    simp only [land]
    split <;> rfl

theorem copied_selectObject (s : Session) (d : Document) (found : Option Span) :
    (s.selectObject d found).copied = none := by
  unfold selectObject
  split <;> rfl

theorem copied_finishLead {lead : Lead} (hs : s.Consistent) (hp : s.pending = .lead lead) :
    (s.finishLead d lead k).copied = none := by
  cases lead with
  | find kind => exact copied_land _ _ _
  | mark exact => exact copied_land _ _ _
  | go => exact copied_land _ _ _
  | replace =>
    obtain ⟨i, c, hpos, hi, _⟩ := (isCell_cursor d (hs.mode_of_replace hp)).exists_natCast
    simp only [finishLead, hpos]
    exact copied_attempt (Buffer.replaceChars_performs c _ _ hi)
  | setMark =>
    simp only [finishLead]
    split
    · split <;> rfl
    · rfl
  | object outer => exact copied_selectObject _ _ _

theorem copied_visualCommand (s : Session) (d : Document) (sel : Selection) (c : Char) :
    (s.visualCommand d sel c).copied = none := by
  have hturn (shape : Shape) : (if sel.shape = shape then s.escape d
      else { s.clear with mode := .visual { sel with shape } }.showing d).copied = none := by
    split <;> rfl
  unfold visualCommand
  split
  · exact hturn .charwise
  · exact hturn .linewise
  · rfl
  · rfl

theorem copied_normalCommand {c : Char} (hc : c ∉ ['x', 's', 'S', 'D', 'C', 'Y']) :
    (s.normalCommand d c).copied = none := by
  obtain ⟨i, col, hpos, hi, _⟩ := (d.buffer.isCell_clamp d.cursor).exists_natCast
  unfold normalCommand
  simp only [hpos]
  split
  · rfl
  · rfl
  · rfl
  · rfl
  · exact copied_attempt (Buffer.openBelow_performs hi)
  · rfl
  · exact absurd (by decide) hc
  · exact absurd (by decide) hc
  · exact absurd (by decide) hc
  · exact absurd (by decide) hc
  · exact absurd (by decide) hc
  · exact absurd (by decide) hc
  · exact copied_attempt (Buffer.joinFrom_performs _ hi)
  · exact copied_attempt (Buffer.toggleCase_performs col _ hi)
  · rfl
  · split
    · exact copied_attempt (Buffer.putAfter_performs col _ _ hi)
    · rfl
  · split
    · exact copied_attempt (Buffer.putBefore_performs col _ _ hi)
    · rfl
  · rfl
  · rfl
  · rfl

theorem copied_freshKey {c : Char} (hp : s.pending = .idle) (hne : s.mode ≠ .insert)
    (h : ¬ s.Operates (.char c)) : (s.freshKey d c).copied = none := by
  cases hm : s.mode with
  | insert => exact absurd hm hne
  | normal =>
    have hc : c ∉ ['x', 's', 'S', 'D', 'C', 'Y'] := by
      intro hc
      exact h (.inr ⟨hp, .inl ⟨hm, List.mem_map_of_mem hc⟩⟩)
    simp only [freshKey, hm]
    split
    · rfl
    · split
      · exact copied_land _ _ _
      · cases Operator.ofKey? c with
        | some op => rfl
        | none => exact copied_normalCommand hc
  | visual sel =>
    have hc : c ∉ ['d', 'c', 'y', 'x'] := by
      intro hc
      exact h (.inr ⟨hp, .inr ⟨hm ▸ rfl, List.mem_map_of_mem hc⟩⟩)
    have hx : c ≠ 'x' := by
      rintro rfl
      exact hc (by decide)
    have hop : Operator.ofKey? c = none := by
      cases hop : Operator.ofKey? c with
      | none => rfl
      | some op =>
        rw [Operator.key_of_ofKey? hop] at hc
        exact absurd (by cases op <;> decide) hc
    simp only [freshKey, hm, hop, if_neg hx]
    split
    · rfl
    · split
      · exact copied_land _ _ _
      · exact copied_visualCommand _ _ _ _

theorem copied_command (hs : s.Consistent) (hne : s.mode ≠ .insert) (hk : k ≠ .escape)
    (h : ¬ s.Operates k) : (s.command d k).copied = none := by
  cases hd : s.digit? k with
  | some s' =>
    simp only [command, hd]
  | none =>
    have hno (op : Operator) (hp : s.pending.operator? = some op) : False := by
      apply h
      rw [Operates, hp]
      exact .inl ⟨rfl, hk⟩
    cases hp : s.pending with
    | lead lead =>
      simp only [command, hd, hp]
      exact copied_finishLead hs hp
    | operator op count => exact (hno op (hp ▸ rfl)).elim
    | operatorLead op count lead => exact (hno op (hp ▸ rfl)).elim
    | idle =>
      simp only [command, hd, hp]
      cases k with
      | char c => exact copied_freshKey hp hne h
      | escape => rfl
      | named name => rfl

theorem copied_react (hs : s.Consistent) (h : ¬ s.Operates k) : (s.react d k).copied = none := by
  by_cases hk : k = .escape
  · subst hk
    rfl
  · by_cases hm : s.mode = .insert
    · rw [react_of_insert hm hk]
    · rw [react_of_ne_insert hm hk]
      exact copied_command hs hm hk h

end Walk

/-- A key takes up the change of an operator, or reports nothing and leaves the register alone. -/
theorem Outcome.operates_or_keeps (h : s.Outcome d k r) :
    (∃ s' op span c reg, Operator.run op d.buffer span = .ok (some c) ∧ c.register = some reg ∧
        r = Session.apply s' c) ∨
      r.copied = none ∧ r.session.register = s.register := by
  cases h with
  | typed hm => exact .inr ⟨rfl, rfl⟩
  | digit hm hd =>
    obtain ⟨n, _, rfl, _⟩ := digit?_eq_some hd
    exact .inr ⟨rfl, rfl⟩
  | awaits hp ha hc => exact .inr ⟨rfl, rfl⟩
  | rests hc hm hr => exact .inr ⟨rfl, hr⟩
  | moves hc hr hp hm => exact .inr ⟨rfl, hr⟩
  | leaves hm => exact .inr ⟨rfl, rfl⟩
  | shows hc hr hm hsel hh => exact .inr ⟨rfl, hr⟩
  | undoes hu => exact .inr ⟨rfl, rfl⟩
  | @changes s' c hc hm hr ho =>
    rcases ho.operator_or_performs with ⟨op, span, hs, hrun⟩ | hperforms
    · obtain ⟨⟨reg, hreg⟩, _⟩ := Operator.exists_register_of_run hs hrun.symm
      exact .inl ⟨s', op, span, c, reg, hrun.symm, hreg, rfl⟩
    · have hnone := (Buffer.performs_some.1 hperforms).2
      right
      simp only [Session.apply, hnone, Option.none_or, Option.map_none, hr, and_self]
  | fails hc hm hr ho => exact ho.ne_error.elim

end Session

namespace Editor

variable {limits : Limits} {clipboard clipboard' : Clipboard} {e e' : Editor} {k : Key}
  {r : Register}

/-- The key runs an operator whose change the session takes up, and with it this register. -/
def Writes (limits : Limits) (e : Editor) (k : Key) (r : Register) : Prop :=
  e.session.obstacle limits k = none ∧
    ∃ s op span c, Operator.run op e.document.buffer span = .ok (some c) ∧ c.register = some r ∧
      e.session.react e.document k = Session.apply s c

theorem Writes.copied_react (h : e.Writes limits k r) :
    (e.session.react e.document k).copied = some r.text ∧
      (e.session.react e.document k).session.register = some r := by
  obtain ⟨_, s, op, span, c, _, hr, hreact⟩ := h
  simp only [hreact, Session.apply, hr, Option.map_some, Option.some_or, and_self]

theorem Writes.operates (h : e.Writes limits k r) (hs : e.Steady) : e.session.Operates k := by
  apply Classical.byContradiction
  intro hno
  cases h.copied_react.1.symm.trans (Session.copied_react hs.consistent hno)

theorem Writes.pressWithin (h : e.Writes limits k r) (hs : e.Steady) (clipboard : Clipboard) :
    ∃ e' report, e.pressWithin limits clipboard k = (e', .ok report) ∧
      report.copied = some r.text ∧ e'.session.register = some r ∧
      e'.copied = e.copied ++ if clipboard = .working then [r.text] else [] := by
  obtain ⟨hcopied, hregister⟩ := h.copied_react
  refine ⟨_, _, (pressWithin_of_none h.1).trans (hs.press_eq k), hcopied, hregister, ?_⟩
  simp only [hcopied, Option.toList_some]

/-- A key that does not write the register reports nothing, or is stopped by a limit, and leaves
register and clipboard as they are. -/
theorem Steady.keeps_of_not_writes {answer : Except Fault Report} (hs : e.Steady)
    (hno : ∀ r, ¬ e.Writes limits k r) (he : e.pressWithin limits clipboard k = (e', answer)) :
    ((∃ report, answer = .ok report ∧ report.copied = none) ∨
        ∃ s f, e.session.obstacle limits k = some (s, f) ∧ answer = .error f) ∧
      e'.session.register = e.session.register ∧ e'.copied = e.copied := by
  cases ho : e.session.obstacle limits k with
  | some stopped =>
    obtain ⟨s', f⟩ := stopped
    rw [pressWithin_of_obstacle ho] at he
    cases he
    exact ⟨.inr ⟨s', f, rfl, rfl⟩, (Session.mode_of_obstacle ho).2, rfl⟩
  | none =>
    rw [pressWithin_of_none ho, hs.press_eq k] at he
    cases he
    rcases (hs.outcome k).operates_or_keeps with ⟨s, op, span, c, r, hrun, hr, hreact⟩ | ⟨hc, hr⟩
    · exact absurd ⟨ho, s, op, span, c, hrun, hr, hreact⟩ (hno r)
    · refine ⟨.inl ⟨_, rfl, hc⟩, hr, ?_⟩
      simp only [hc, Option.toList_none, ite_self, List.append_nil]

/-- The registers that keys write one after the other, with a clipboard that works. -/
inductive WritesAll (limits : Limits) : Editor → List Key → List Register → Prop
  | nil {e : Editor} : WritesAll limits e [] []
  | writes {e : Editor} {k : Key} {r : Register} {ks : List Key} {rs : List Register}
    (h : e.Writes limits k r)
    (hrest : WritesAll limits (e.pressWithin limits .working k).1 ks rs) :
    WritesAll limits e (k :: ks) (r :: rs)
  | keeps {e : Editor} {k : Key} {ks : List Key} {rs : List Register}
    (h : ∀ r, ¬ e.Writes limits k r)
    (hrest : WritesAll limits (e.pressWithin limits .working k).1 ks rs) :
    WritesAll limits e (k :: ks) rs

theorem Steady.exists_writesAll (hs : e.Steady) (ks : List Key) :
    ∃ rs, WritesAll limits e ks rs ∧
      (e.pressAll limits .working ks).copied = e.copied ++ rs.map Register.text := by
  induction ks generalizing e with
  | nil => exact ⟨[], .nil, (List.append_nil _).symm⟩
  | cons k ks ih =>
    rcases he : e.pressWithin limits .working k with ⟨e', answer⟩
    have hnext : e' = (e.pressWithin limits .working k).1 := by rw [he]
    have hs' : e'.Steady := hnext ▸ hs.pressWithin
    obtain ⟨rs, hrest, hcopied⟩ := ih hs'
    rw [hnext] at hrest
    rw [pressAll_cons, he]
    by_cases hw : ∃ r, e.Writes limits k r
    · obtain ⟨r, hr⟩ := hw
      obtain ⟨_, _, hpress, _, _, hlast⟩ := hr.pressWithin hs .working
      cases he.symm.trans hpress
      refine ⟨r :: rs, .writes hr hrest, ?_⟩
      rw [hcopied, hlast, if_pos rfl, List.append_assoc]
      rfl
    · have hno : ∀ r, ¬ e.Writes limits k r := not_exists.1 hw
      have hlast := (hs.keeps_of_not_writes hno he).2.2
      refine ⟨rs, .keeps hno hrest, ?_⟩
      rw [hcopied, hlast]

theorem copied_pressWithin (e : Editor) (k : Key) (h : clipboard ≠ .working) :
    (e.pressWithin limits clipboard k).1.copied = e.copied := by
  simp only [pressWithin, press, if_neg h, List.append_nil]
  split
  · rfl
  · split
    · rfl
    · split <;> rfl

theorem copied_pressAll (e : Editor) (ks : List Key) (h : clipboard ≠ .working) :
    (e.pressAll limits clipboard ks).copied = e.copied := by
  induction ks generalizing e with
  | nil => rfl
  | cons k ks ih =>
    rw [pressAll_cons, ih]
    exact e.copied_pressWithin k h

/-- What there is to see of each key in turn: its answer, and session and document after it. -/
def trace (limits : Limits) (clipboard : Clipboard) (e : Editor) :
    List Key → List (Except Fault Report × Session × Document)
  | [] => []
  | k :: ks =>
    let (e', answer) := e.pressWithin limits clipboard k
    (answer, e'.session, e'.document) :: e'.trace limits clipboard ks

/-- The editors differ at most in what they have copied. -/
structure Alike (e f : Editor) : Prop where
  session : e.session = f.session
  document : e.document = f.document

/-- A key sees nothing of the clipboard, nor of what was copied before. -/
theorem Alike.pressWithin {f : Editor} (h : e.Alike f) (limits : Limits)
    (clipboard clipboard' : Clipboard) (k : Key) :
    (e.pressWithin limits clipboard k).1.Alike (f.pressWithin limits clipboard' k).1 ∧
      (e.pressWithin limits clipboard k).2 = (f.pressWithin limits clipboard' k).2 := by
  obtain ⟨session, document, copied⟩ := e
  obtain ⟨_, _, copied'⟩ := f
  obtain ⟨rfl, rfl⟩ := h
  simp only [Editor.pressWithin, press]
  split
  · exact ⟨⟨rfl, rfl⟩, rfl⟩
  · split
    · exact ⟨⟨rfl, rfl⟩, rfl⟩
    · split
      · exact ⟨⟨rfl, rfl⟩, rfl⟩
      · exact ⟨⟨rfl, rfl⟩, rfl⟩

theorem Alike.trace {f : Editor} (h : e.Alike f) (ks : List Key) :
    e.trace limits clipboard ks = f.trace limits clipboard' ks := by
  induction ks generalizing e f with
  | nil => rfl
  | cons k ks ih =>
    obtain ⟨hnext, hanswer⟩ := h.pressWithin limits clipboard clipboard' k
    simp only [Editor.trace, hanswer, hnext.session, hnext.document, ih hnext]

/-- The report of a key and the register agree. A key either runs an operator, whose register it
writes and whose text it reports, or reports nothing and leaves the register as it is; only a limit
makes it fail. Over a run of keys the clipboard collects the texts of the registers written, in
order. A clipboard that is disabled or fails collects nothing, and that is all there is to see of
it. -/
theorem reports_follow_register {e₀ : Editor} (h₀ : e₀.session = {})
    (h : Reaches limits clipboard Keyed e₀ e) :
    (∀ clipboard k e' answer, e.pressWithin limits clipboard k = (e', answer) →
        (∃ r report, e.Writes limits k r ∧ e.session.Operates k ∧ answer = .ok report ∧
            report.copied = some r.text ∧ e'.session.register = some r) ∨
          (∀ r, ¬ e.Writes limits k r) ∧
            ((∃ report, answer = .ok report ∧ report.copied = none) ∨
              ∃ s f, e.session.obstacle limits k = some (s, f) ∧ answer = .error f) ∧
            e'.session.register = e.session.register) ∧
      (∀ ks, ∃ rs, WritesAll limits e ks rs ∧
        (e.pressAll limits .working ks).copied = e.copied ++ rs.map Register.text) ∧
      ∀ clipboard ks, clipboard ≠ .working →
        e.trace limits clipboard ks = e.trace limits .working ks ∧
          (e.pressAll limits clipboard ks).copied = e.copied := by
  have hs := h.steady h₀
  refine ⟨?_, hs.exists_writesAll, ?_⟩
  · intro clipboard k e' answer he
    by_cases hw : ∃ r, e.Writes limits k r
    · obtain ⟨r, hr⟩ := hw
      obtain ⟨_, report, hpress, hcopied, hregister, _⟩ := hr.pressWithin hs clipboard
      cases he.symm.trans hpress
      exact .inl ⟨r, report, hr, hr.operates hs, rfl, hcopied, hregister⟩
    · have hno : ∀ r, ¬ e.Writes limits k r := not_exists.1 hw
      obtain ⟨hreport, hregister, _⟩ := hs.keeps_of_not_writes hno he
      exact .inr ⟨hno, hreport, hregister⟩
  · intro clipboard ks hc
    exact ⟨Alike.trace ⟨rfl, rfl⟩ ks, e.copied_pressAll ks hc⟩

theorem reports_follow_register_delete_put :
    let e : Editor := { document := { buffer := .ofText ['a', ' ', 'b'] } }
    let ks : List Key := [.char 'd', .char 'w', .char 'p']
    (∃ rs, WritesAll .standard e ks rs ∧ rs.map Register.text = [['a', ' ']]) ∧
      e.trace .standard .failing ks = e.trace .standard .working ks := by
  intro e ks
  have hreach : Reaches .standard .working Keyed e e := .refl
  obtain ⟨_, hwrites, hclipboard⟩ := reports_follow_register rfl hreach
  obtain ⟨rs, hrs, hcopied⟩ := hwrites ks
  have htexts : (e.pressAll .standard .working ks).copied = [['a', ' ']] := by
    decide +kernel
  exact ⟨⟨rs, hrs, hcopied.symm.trans htexts⟩, (hclipboard .failing ks (by decide)).1⟩

end Editor

end ModalEdit
