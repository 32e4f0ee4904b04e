import ModalEdit.Proofs.CommandChanges
import ModalEdit.Proofs.OperatorChanges
import ModalEdit.Proofs.Runs

namespace ModalEdit

namespace Buffer

variable {b : Buffer}

/-- The answer is no fault, and a change that it holds edits lines of the buffer only and leaves the
register alone. -/
def Performs (b : Buffer) (answer : Except Fault (Option Change)) : Prop :=
  ∃ r, answer = .ok r ∧ ∀ c ∈ r, c.OnLines b ∧ c.register = none

theorem performs_none (b : Buffer) : b.Performs (.ok none) := by
  refine ⟨none, rfl, ?_⟩
  intro c hc
  cases hc

theorem performs_some {c : Change} :
    b.Performs (.ok (some c)) ↔ c.OnLines b ∧ c.register = none := by
  constructor
  · rintro ⟨_, ⟨⟩, h⟩
    exact h c rfl
  · intro h
    refine ⟨some c, rfl, ?_⟩
    rintro _ ⟨⟩
    exact h

theorem performs_edit {i j : Nat} {c d : Int} {text : List Char} (cursor : Position)
    (insert : Bool) (hi : i < b.size) (hj : j < b.size) :
    b.Performs (.ok (some ⟨cursor, some ⟨⟨i, c⟩, ⟨j, d⟩, text⟩, none, insert⟩)) :=
  performs_some.2 ⟨Change.onLines_of_some rfl ⟨⟨i, hi, rfl⟩, j, hj, rfl⟩, rfl⟩

theorem putAfter_performs {i : Nat} (c n : Int) (r : Register) (hi : i < b.size) :
    b.Performs (some <$> b.putAfter ⟨i, c⟩ r n) := by
  cases r with
  | lines whole =>
    simp only [putAfter, lineAt_natCast hi, bind, Except.bind]
    exact performs_edit _ _ hi hi
  | chars taken =>
    simp only [putAfter, lineAt_natCast hi, bind, Except.bind]
    exact performs_edit _ _ hi hi

theorem putBefore_performs {i : Nat} (c n : Int) (r : Register) (hi : i < b.size) :
    b.Performs (some <$> b.putBefore ⟨i, c⟩ r n) := by
  cases r with
  | lines whole => exact performs_edit _ _ hi hi
  | chars taken =>
    simp only [putBefore, lineAt_natCast hi, bind, Except.bind]
    exact performs_edit _ _ hi hi

theorem openBelow_performs {i : Nat} (hi : i < b.size) :
    b.Performs (some <$> b.openBelow i) := by
  simp only [openBelow, lineAt_natCast hi, bind, Except.bind]
  exact performs_edit _ _ hi hi

theorem openAbove_performs {i : Nat} (hi : i < b.size) :
    b.Performs (.ok (some (openAbove i))) :=
  performs_edit _ _ hi hi

theorem toggleCase_performs {i : Nat} (c n : Int) (hi : i < b.size) :
    b.Performs (b.toggleCase ⟨i, c⟩ n) := by
  simp only [toggleCase, lineAt_natCast hi, bind, Except.bind]
  split
  · exact b.performs_none
  · exact performs_edit _ _ hi hi

theorem replaceChars_performs {i : Nat} (c n : Int) (text : List Char) (hi : i < b.size) :
    b.Performs (b.replaceChars ⟨i, c⟩ text n) := by
  simp only [replaceChars, lineAt_natCast hi, bind, Except.bind]
  split
  · exact b.performs_none
  · exact performs_edit _ _ hi hi

theorem joinFrom_performs {i : Nat} (n : Nat) (hi : i < b.size) : b.Performs (b.joinFrom i n) := by
  have hlt := b.lastLine_lt_size
  obtain ⟨last, hlast, hle⟩ : ∃ last : Nat,
      min ((i : Int) + max (n : Int) 2 - 1) b.lastLine = last ∧ last ≤ b.lastLine :=
    ⟨min (i + max n 2 - 1) b.lastLine, by omega, Nat.min_le_right _ _⟩
  simp only [joinFrom, hlast, lineAt_natCast hi, bind, Except.bind]
  split
  · exact b.performs_none
  · exact performs_edit _ _ hi (Nat.lt_of_le_of_lt hle hlt)

end Buffer

theorem Document.grant_of_onLines {d : Document} {c : Change} (h : c.OnLines d.buffer) :
    d.grant (.change c.edit c.cursor) = (d.granted (.ok (.change c.edit c.cursor)), none) := by
  obtain ⟨b, hb⟩ := h.exists_result
  simp only [granted, grant_change hb]

namespace Session

variable {s : Session} {d : Document} {b : Buffer} {k : Key} {r : Reaction}

theorem Offers.operator_or_performs {answer : Except Fault (Option Change)}
    (h : s.Offers b k answer) :
    (∃ op span, span.Inside b ∧ answer = Operator.run op b span) ∨ b.Performs answer := by
  cases h with
  | operator op hs => exact .inl ⟨op, _, hs, rfl⟩
  | openBelow hpos =>
    obtain ⟨i, c, rfl, hi, _⟩ := hpos.exists_natCast
    exact .inr (Buffer.openBelow_performs hi)
  | openAbove hpos =>
    obtain ⟨i, c, rfl, hi, _⟩ := hpos.exists_natCast
    exact .inr (Buffer.openAbove_performs hi)
  | join n hpos =>
    obtain ⟨i, c, rfl, hi, _⟩ := hpos.exists_natCast
    exact .inr (Buffer.joinFrom_performs n hi)
  | toggle n hpos =>
    obtain ⟨i, c, rfl, hi, _⟩ := hpos.exists_natCast
    exact .inr (Buffer.toggleCase_performs c n hi)
  | @replace _ n hpos hn =>
    obtain ⟨i, c, rfl, hi, _⟩ := hpos.exists_natCast
    exact .inr (Buffer.replaceChars_performs c n k.text hi)
  | @putAfter _ n r hpos hn hreg =>
    obtain ⟨i, c, rfl, hi, _⟩ := hpos.exists_natCast
    exact .inr (Buffer.putAfter_performs c n r hi)
  | @putBefore _ n r hpos hn hreg =>
    obtain ⟨i, c, rfl, hi, _⟩ := hpos.exists_natCast
    exact .inr (Buffer.putBefore_performs c n r hi)

theorem Offers.onLines {c : Change} (h : s.Offers b k (.ok (some c))) : c.OnLines b := by
  rcases h.operator_or_performs with ⟨op, span, hs, hrun⟩ | hperforms
  · exact (Operator.exists_register_of_run hs hrun.symm).2
  · exact (Buffer.performs_some.1 hperforms).1

theorem Offers.ne_error {f : Fault} (h : s.Offers b k (.error f)) : False := by
  rcases h.operator_or_performs with ⟨op, span, hs, hrun⟩ | ⟨_, he, _⟩
  · rcases op.run_of_inside hs with ⟨_, hok⟩ | ⟨c, hok⟩
    · cases hrun.trans hok
    · cases hrun.trans hok
  · cases he

/-- What a reaction asks of the document is granted. -/
theorem Outcome.exists_grant (h : s.Outcome d k r) :
    ∃ request d', r.request = .ok request ∧ d.grant request = (d', none) := by
  cases h with
  | typed hm => exact ⟨_, d, rfl, rfl⟩
  | digit hm hd => exact ⟨_, d, rfl, rfl⟩
  | awaits hp ha hc => exact ⟨_, d, rfl, rfl⟩
  | rests hc hm hr => exact ⟨_, d, rfl, rfl⟩
  | moves hc hr hp hm => exact ⟨_, _, rfl, rfl⟩
  | leaves hm => exact ⟨_, _, rfl, rfl⟩
  | shows hc hr hm hsel hh => exact ⟨_, _, rfl, rfl⟩
  | undoes hu => exact ⟨_, _, rfl, rfl⟩
  | changes hc hm hr ho => exact ⟨_, _, rfl, Document.grant_of_onLines ho.onLines⟩
  | fails hc hm hr ho => exact ho.ne_error.elim

end Session

namespace Editor

variable {clipboard : Clipboard} {e : Editor}

/-- A key of a steady editor never fails, and its report is that of the reaction. -/
theorem Steady.press_eq (h : e.Steady) (k : Key) :
    let r := e.session.react e.document k
    e.press clipboard k =
      (⟨r.session, e.document.granted r.request,
          e.copied ++ if clipboard = .working then r.copied.toList else []⟩,
        .ok ⟨r.consumed, r.session.mode.name, r.copied⟩) := by
  intro r
  obtain ⟨request, d', hreq, hd'⟩ := (h.outcome k).exists_grant
  simp only [Editor.press, r, hreq, hd', Document.granted]

end Editor

end ModalEdit
