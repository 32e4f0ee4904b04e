import ModalEdit.Proofs.Requests

namespace ModalEdit

namespace Buffer

variable {b : Buffer} {e : Edit}

/-- The line numbers of an edit are in range: the first names a line, counted from the last one when
negative, and the last may also lie past the end. -/
def Admits (b : Buffer) (e : Edit) : Prop :=
  -b.size ≤ e.start.line ∧ e.start.line < b.size ∧ -b.size ≤ e.stop.line

instance (b : Buffer) (e : Edit) : Decidable (b.Admits e) :=
  inferInstanceAs (Decidable (_ ∧ _))

theorem pick?_lines_eq_none_iff {i : Int} :
    pick? b.lines i = none ↔ i < -b.size ∨ b.size ≤ i :=
  pick?_eq_none_iff

theorem exists_pick?_lines {i : Int} (hneg : -b.size ≤ i) (hi : i < b.size) :
    ∃ line, pick? b.lines i = some line := by
  apply Option.ne_none_iff_exists'.1
  rw [Ne, pick?_lines_eq_none_iff]
  omega

theorem Admits.exists_replace (h : b.Admits e) : ∃ b', b.replace e = .ok b' := by
  obtain ⟨hneg, hlt, hstop⟩ := h
  obtain ⟨first, hfirst⟩ := exists_pick?_lines hneg hlt
  by_cases hin : e.stop.line < b.size
  · obtain ⟨last, hlast⟩ := exists_pick?_lines hstop hin
    simp only [replace, hfirst, hlast, if_pos hin]
    exact ⟨_, rfl⟩
  · simp only [replace, hfirst, if_neg hin]
    exact ⟨_, rfl⟩

theorem replace_of_not_admits (h : ¬ b.Admits e) : b.replace e = .error .beyond := by
  cases hfirst : pick? b.lines e.start.line with
  | none => simp only [replace, hfirst]
  | some first =>
    -- The first line is there, so it is the last one that is out of range.
    have hstart : ¬ (e.start.line < -b.size ∨ b.size ≤ e.start.line) := by
      intro hout
      cases hfirst.symm.trans (pick?_lines_eq_none_iff.2 hout)
    have hstop : e.stop.line < -b.size := by
      unfold Admits at h
      omega
    have hlast : pick? b.lines e.stop.line = none := pick?_lines_eq_none_iff.2 (.inl hstop)
    have hin : e.stop.line < b.size := by omega
    simp only [replace, hfirst, hlast, if_pos hin]
    rfl

end Buffer

namespace Document

variable {d : Document} {e : Edit}

theorem exists_replace_of_admits (h : d.buffer.Admits e) :
    ∃ b, d.replace e = ({ d.remember with buffer := b }, none) := by
  obtain ⟨b, hb⟩ := h.exists_replace
  exact ⟨b, by rw [replace, hb]⟩

theorem replace_of_not_admits (h : ¬ d.buffer.Admits e) :
    d.replace e = (d.remember, some .beyond) := by
  rw [replace, Buffer.replace_of_not_admits h]

theorem snd_replace_eq_none_iff : (d.replace e).2 = none ↔ d.buffer.Admits e := by
  by_cases h : d.buffer.Admits e
  · obtain ⟨b, hb⟩ := exists_replace_of_admits h
    rw [hb]
    exact iff_of_true rfl h
  · rw [replace_of_not_admits h]
    exact iff_of_false (Option.some_ne_none _) h

/-- Whatever comes of an edit, the state before it is remembered. -/
theorem exists_fst_replace_eq (d : Document) (e : Edit) :
    ∃ b, (d.replace e).1 = { d.remember with buffer := b } := by
  by_cases h : d.buffer.Admits e
  · obtain ⟨b, hb⟩ := exists_replace_of_admits h
    exact ⟨b, congrArg Prod.fst hb⟩
  · exact ⟨d.buffer, congrArg Prod.fst (replace_of_not_admits h)⟩

theorem history_replace (d : Document) (e : Edit) :
    (d.replace e).1.history = (d.buffer, d.cursor) :: d.history := by
  obtain ⟨b, hb⟩ := d.exists_fst_replace_eq e
  rw [hb]
  rfl

theorem undo_replace (d : Document) (e : Edit) : (d.replace e).1.undo = d := by
  obtain ⟨b, hb⟩ := d.exists_fst_replace_eq e
  rw [hb]
  rfl

/-- Carries out edits one after the other, going on after those that fail. -/
def replaceAll (d : Document) (edits : List Edit) : Document :=
  edits.foldl (fun d e => (d.replace e).1) d

theorem replaceAll_cons (d : Document) (e : Edit) (edits : List Edit) :
    d.replaceAll (e :: edits) = (d.replace e).1.replaceAll edits := rfl

theorem replaceAll_append (d : Document) (edits more : List Edit) :
    d.replaceAll (edits ++ more) = (d.replaceAll edits).replaceAll more :=
  List.foldl_append

theorem length_history_replaceAll (d : Document) (edits : List Edit) :
    (d.replaceAll edits).history.length = edits.length + d.history.length := by
  induction edits generalizing d with
  | nil => exact (Nat.zero_add _).symm
  | cons e edits ih =>
    rw [replaceAll_cons, ih, history_replace, List.length_cons, List.length_cons]
    omega

theorem undoTimes_replaceAll (d : Document) (edits : List Edit) :
    (d.replaceAll edits).undoTimes edits.length = d := by
  rw [undoTimes, length_history_replaceAll, Nat.min_eq_left (Nat.le_add_right _ _)]
  induction edits generalizing d with
  | nil => rfl
  | cons e edits ih =>
    -- The last undo is the one that takes the first edit back.
    rw [List.length_cons, Nat.repeat, replaceAll_cons, ih, undo_replace]

theorem undoTimes_replaceAll_of_le (d : Document) {edits : List Edit} {n : Nat}
    (h : n ≤ edits.length) :
    (d.replaceAll edits).undoTimes n = d.replaceAll (edits.take (edits.length - n)) := by
  have hlast : (edits.drop (edits.length - n)).length = n := by
    rw [List.length_drop]
    omega
  have hback := undoTimes_replaceAll (d.replaceAll (edits.take (edits.length - n)))
    (edits.drop (edits.length - n))
  rwa [← replaceAll_append, List.take_append_drop, hlast] at hback

/-- Edits that fail leave one memory of the same state each. -/
theorem replaceAll_of_not_admits {edits : List Edit} (h : ∀ e ∈ edits, ¬ d.buffer.Admits e) :
    d.replaceAll edits =
      { d with history := List.replicate edits.length (d.buffer, d.cursor) ++ d.history } := by
  induction edits generalizing d with
  | nil => rfl
  | cons e edits ih =>
    have he : ¬ d.buffer.Admits e := h e List.mem_cons_self
    have hrest : ∀ e ∈ edits, ¬ d.remember.buffer.Admits e := fun e hm =>
      h e (List.mem_cons_of_mem _ hm)
    rw [replaceAll_cons, replace_of_not_admits he, ih hrest, List.length_cons,
      List.replicate_succ', List.append_assoc]
    rfl

/-- An edit fails just when a line number of it is out of range. It then leaves buffer, cursor and
selection as they are, but the state before it is remembered as before any edit. So after an edit
that took effect and some that failed, as many undos as failed only forget them, and it takes one
more to go back to before the edit. -/
theorem failed_edits_only_remembered (d : Document) :
    (∀ e, (d.replace e).2 = none ↔ d.buffer.Admits e) ∧
      (∀ e f, (d.replace e).2 = some f →
        f = .beyond ∧ (d.replace e).1 = { d with history := (d.buffer, d.cursor) :: d.history }) ∧
      ∀ e d' failing, d.replace e = (d', none) → (∀ e' ∈ failing, (d'.replace e').2 ≠ none) →
        (∀ n ≤ failing.length, (d'.replaceAll failing).undoTimes n =
          { d' with
              history :=
                List.replicate (failing.length - n) (d'.buffer, d'.cursor) ++ d'.history }) ∧
          (d'.replaceAll failing).undoTimes (failing.length + 1) = d := by
  refine ⟨fun e => snd_replace_eq_none_iff, ?_, ?_⟩
  · intro e f hf
    have h : ¬ d.buffer.Admits e := by
      rw [← snd_replace_eq_none_iff, hf]
      exact Option.some_ne_none f
    rw [replace_of_not_admits h] at hf ⊢
    exact ⟨(Option.some.inj hf).symm, rfl⟩
  · intro e d' failing he hfailing
    have hno : ∀ e' ∈ failing, ¬ d'.buffer.Admits e' := fun e' hm hadmits =>
      hfailing e' hm (snd_replace_eq_none_iff.2 hadmits)
    constructor
    · intro n hn
      have htake : ∀ e' ∈ failing.take (failing.length - n), ¬ d'.buffer.Admits e' := fun e' hm =>
        hno e' (List.mem_of_mem_take hm)
      have hlen : (failing.take (failing.length - n)).length = failing.length - n :=
        List.length_take_of_le (Nat.sub_le _ _)
      rw [undoTimes_replaceAll_of_le d' hn, replaceAll_of_not_admits htake, hlen]
    · have hback := undoTimes_replaceAll d (e :: failing)
      rwa [replaceAll_cons, he] at hback

theorem failed_edits_only_remembered_out_of_range :
    let d : Document := { buffer := .ofText ['a', 'b'] }
    let e : Edit := ⟨⟨0, 0⟩, ⟨0, 1⟩, ['x']⟩
    let d' := (d.replace e).1
    let failing : List Edit := [⟨⟨5, 0⟩, ⟨5, 0⟩, ['y']⟩, ⟨⟨0, 0⟩, ⟨-2, 0⟩, []⟩]
    d'.buffer = .ofText ['x', 'b'] ∧ (∀ e ∈ failing, (d'.replace e).2 ≠ none) ∧
      (∀ n ≤ 2, ((d'.replaceAll failing).undoTimes n).buffer = .ofText ['x', 'b']) ∧
      (d'.replaceAll failing).undoTimes 3 = d := by
  intro d e d' failing
  have he : d.replace e = (d', none) := rfl
  have hbuffer : d'.buffer = .ofText ['x', 'b'] := by decide
  have hfailing : ∀ e ∈ failing, (d'.replace e).2 ≠ none := by decide
  obtain ⟨hback, hdone⟩ := (failed_edits_only_remembered d).2.2 e d' failing he hfailing
  refine ⟨hbuffer, hfailing, ?_, hdone⟩
  intro n hn
  rw [hback n hn]
  exact hbuffer

end Document

end ModalEdit
