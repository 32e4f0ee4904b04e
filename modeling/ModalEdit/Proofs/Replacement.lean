import ModalEdit.Change
import ModalEdit.Proofs.Places

namespace ModalEdit

theorem splitLines_append {line first : Line} {text : List Char} {rest : List Line}
    (h : NewlineFree line) (ht : splitLines text = first :: rest) :
    splitLines (line ++ text) = (line ++ first) :: rest := by
  induction line with
  | nil => exact ht
  | cons c line ih =>
    obtain ⟨hc, hl⟩ := newlineFree_cons.1 h
    rw [List.cons_append, splitLines_cons, if_neg hc, ih hl]
    rfl

theorem exists_splitLines (text : List Char) : ∃ first rest, splitLines text = first :: rest :=
  List.exists_cons_of_ne_nil (splitLines_ne_nil text)

theorem NewlineFree.append {text text' : Line} (h : NewlineFree text) (h' : NewlineFree text') :
    NewlineFree (text ++ text') := by
  intro hm
  rcases List.mem_append.1 hm with hm | hm
  · exact h hm
  · exact h' hm

theorem NewlineFree.take {line : Line} (h : NewlineFree line) (n : Nat) :
    NewlineFree (line.take n) := by
  intro hm
  exact h (List.mem_of_mem_take hm)

theorem NewlineFree.drop {line : Line} (h : NewlineFree line) (n : Nat) :
    NewlineFree (line.drop n) := by
  intro hm
  exact h (List.mem_of_mem_drop hm)

theorem first_eq_nil_iff {text text' first : Line} {rest : List Line} (hne : text ≠ [])
    (h : splitLines (text ++ text') = first :: rest) : first = [] ↔ text.head? = some '\n' := by
  cases text with
  | nil => contradiction
  | cons c text =>
    rw [List.cons_append, splitLines_cons] at h
    by_cases hc : c = '\n'
    · rw [if_pos hc] at h
      cases h
      exact ⟨fun _ => congrArg some hc, fun _ => rfl⟩
    · rw [if_neg hc] at h
      obtain ⟨first', rest', h'⟩ := exists_splitLines (text ++ text')
      rw [h'] at h
      cases h
      simp [hc]

namespace Buffer

theorem lines_getElem? {b : Buffer} {i : Nat} (h : i < b.size) :
    b.lines[i]? = some (b.line i) := by
  have h' : i < b.lines.length := h
  rw [line, List.getD_eq_getElem _ _ h', List.getElem?_eq_getElem h']

theorem length_lines_take {b : Buffer} {i : Nat} (h : i < b.size) :
    (b.lines.take i).length = i := by
  rw [List.length_take]
  exact Nat.min_eq_left (Nat.le_of_lt h)

/-- The lines of a buffer whose middle was replaced, at the first line of the middle. -/
theorem line_of_lines_eq {b : Buffer} {before after rest : List Line} {first : Line}
    (h : b.lines = before ++ first :: rest ++ after) :
    before.length < b.size ∧ b.line before.length = first := by
  constructor
  · rw [size, h]
    simp only [List.length_append, List.length_cons]
    omega
  · simp [line, h]

theorem replace_natCast {b : Buffer} {i j : Nat} (c d : Nat) (text : List Char)
    (hij : i ≤ j) (hj : j < b.size) :
    ∃ b' : Buffer, b.replace ⟨⟨i, c⟩, ⟨j, d⟩, text⟩ = .ok b' ∧
      b'.lines = b.lines.take i ++
        splitLines ((b.line i).take c ++ text ++ (b.line j).drop d) ++ b.lines.drop (j + 1) := by
  have hi : i < b.size := Nat.lt_of_le_of_lt hij hj
  have hj' : (j : Int) < b.size := Int.ofNat_lt.2 hj
  refine ⟨⟨_, ?_⟩, ?_, rfl⟩
  · simp [splitLines_ne_nil]
  · have hlen : b.lines.length = b.size := rfl
    have hcut : ((j : Int) + 1) = ((j + 1 : Nat) : Int) := rfl
    simp only [replace, pick?_natCast, lines_getElem? hi, lines_getElem? hj, if_pos hj',
      upTo_natCast, since_natCast, bind, Except.bind, pure, Except.pure, splice, hcut,
      bound_natCast, hlen, Nat.min_eq_left (Nat.le_of_lt hi),
      Nat.min_eq_left (Nat.succ_le_of_lt hj), Nat.max_eq_right (Nat.le_succ_of_le hij)]

theorem Plain.of_replace {b b' : Buffer} {e : Edit} (h : b.Plain) (hr : b.replace e = .ok b') :
    b'.Plain := by
  have hsplice (i j : Int) (text : List Char) :
      ∀ line ∈ splice b.lines i j (splitLines text), NewlineFree line := by
    intro line hm
    simp only [splice, List.mem_append] at hm
    rcases hm with (hm | hm) | hm
    · exact h _ (List.mem_of_mem_take hm)
    · exact newlineFree_of_mem_splitLines hm
    · exact h _ (List.mem_of_mem_drop hm)
  unfold replace at hr
  split at hr
  · split at hr
    · split at hr
      · cases hr
        exact hsplice _ _ _
      · cases hr
    · cases hr
      exact hsplice _ _ _
  · cases hr

/-- An edit keeps what stands before it on its first line, and goes on from there. -/
theorem replace_line {b : Buffer} {i j : Nat} (c d : Nat) (text : List Char) (h : b.Plain)
    (hij : i ≤ j) (hj : j < b.size) :
    ∃ (b' : Buffer) (first : Line) (rest : List Line),
      b.replace ⟨⟨i, c⟩, ⟨j, d⟩, text⟩ = .ok b' ∧
      splitLines (text ++ (b.line j).drop d) = first :: rest ∧
      b'.lines = b.lines.take i ++ ((b.line i).take c ++ first) :: rest ++ b.lines.drop (j + 1) ∧
      i < b'.size ∧ b'.line i = (b.line i).take c ++ first := by
  obtain ⟨b', hr, hlines⟩ := replace_natCast c d text hij hj
  obtain ⟨first, rest, hsplit⟩ := exists_splitLines (text ++ (b.line j).drop d)
  rw [List.append_assoc ((b.line i).take c),
    splitLines_append ((h.newlineFree_line i).take c) hsplit] at hlines
  obtain ⟨hi, hline⟩ := line_of_lines_eq hlines
  rw [length_lines_take (Nat.lt_of_le_of_lt hij hj)] at hi hline
  exact ⟨b', first, rest, hr, hsplit, hlines, hi, hline⟩

theorem replace_inline {b : Buffer} {i j : Nat} (c d : Nat) {text : List Char} (h : b.Plain)
    (hij : i ≤ j) (hj : j < b.size) (ht : NewlineFree text) :
    ∃ b' : Buffer, b.replace ⟨⟨i, c⟩, ⟨j, d⟩, text⟩ = .ok b' ∧
      b'.lines = b.lines.take i ++
        ((b.line i).take c ++ (text ++ (b.line j).drop d)) :: b.lines.drop (j + 1) ∧
      i < b'.size ∧ b'.line i = (b.line i).take c ++ (text ++ (b.line j).drop d) := by
  obtain ⟨b', first, rest, hr, hsplit, hlines, hi, hline⟩ := replace_line c d text h hij hj
  rw [splitLines_of_newlineFree (ht.append ((h.newlineFree_line j).drop d))] at hsplit
  cases hsplit
  refine ⟨b', hr, ?_, hi, hline⟩
  rw [hlines, List.append_assoc]
  rfl

end Buffer

/-- Both ends of the edit are on lines of the buffer. -/
def Edit.OnLines (e : Edit) (b : Buffer) : Prop :=
  (∃ i : Nat, i < b.size ∧ e.start.line = i) ∧ ∃ j : Nat, j < b.size ∧ e.stop.line = j

theorem Edit.OnLines.exists_replace {e : Edit} {b : Buffer} (h : e.OnLines b) :
    ∃ b', b.replace e = .ok b' := by
  obtain ⟨⟨i, hi, hstart⟩, j, hj, hstop⟩ := h
  have hj' : (j : Int) < b.size := Int.ofNat_lt.2 hj
  simp only [Buffer.replace, hstart, hstop, pick?_natCast, Buffer.lines_getElem? hi,
    Buffer.lines_getElem? hj, if_pos hj', bind, Except.bind]
  exact ⟨_, rfl⟩

namespace Change

/-- The buffer that the change leaves. -/
def result (c : Change) (b : Buffer) : Except Fault Buffer :=
  match c.edit with
  | none => .ok b
  | some e => b.replace e

/-- What the change writes, or what it copies where it writes nothing. -/
def carried (c : Change) : List Char :=
  match c.edit with
  | none => (c.register.map Register.text).getD []
  | some e => e.text

/-- The change writes or copies a text that begins with a line break, and goes to a later column
than the first. -/
def Breaks (c : Change) : Prop :=
  0 < c.cursor.col ∧ c.carried.head? = some '\n'

/-- The change can be made and goes to a place of the buffer it leaves, which is a cell unless
typing goes on or a line break is in the way. -/
structure Fits (c : Change) (b : Buffer) : Prop where
  result : ∃ b', c.result b = .ok b' ∧ b'.Contains c.cursor ∧
    (c.insert = false → (b'.IsCell c.cursor ↔ ¬ c.Breaks))
  register : c.register ≠ some (.chars [])

theorem not_breaks_of_newlineFree {c : Change} (h : NewlineFree c.carried) : ¬ c.Breaks := by
  rintro ⟨_, hhead⟩
  exact h (List.mem_of_mem_head? hhead)

theorem not_breaks_of_col {c : Change} (h : c.cursor.col = 0) : ¬ c.Breaks := by
  rintro ⟨hpos, _⟩
  rw [h] at hpos
  exact Int.lt_irrefl 0 hpos

theorem Fits.of_cell {c : Change} {b b' : Buffer} (hr : c.result b = .ok b')
    (hcell : b'.IsCell c.cursor) (hb : ¬ c.Breaks) (hreg : c.register ≠ some (.chars [])) :
    c.Fits b :=
  ⟨⟨b', hr, hcell.contains, fun _ => iff_of_true hcell hb⟩, hreg⟩

/-- The change edits nothing but lines of the buffer. -/
def OnLines (c : Change) (b : Buffer) : Prop :=
  ∀ e ∈ c.edit, e.OnLines b

variable {c : Change} {b : Buffer}

theorem onLines_of_none (h : c.edit = none) : c.OnLines b := by
  intro e he
  cases h.symm.trans he

theorem onLines_of_some {e : Edit} (h : c.edit = some e) (he : e.OnLines b) : c.OnLines b := by
  rintro _ h'
  cases h.symm.trans h'
  exact he

theorem OnLines.exists_result (h : c.OnLines b) : ∃ b', c.result b = .ok b' := by
  cases he : c.edit with
  | none => exact ⟨b, by simp only [result, he]⟩
  | some e =>
    simp only [result, he]
    exact (h e he).exists_replace

end Change

namespace Buffer

theorem Plain.of_result {b b' : Buffer} {c : Change} (h : b.Plain) (hr : c.result b = .ok b') :
    b'.Plain := by
  cases he : c.edit with
  | none =>
    rw [Change.result, he] at hr
    cases hr
    exact h
  | some e =>
    rw [Change.result, he] at hr
    exact h.of_replace hr

/-- The answer is no fault, and the change that it holds, if any, fits the buffer. -/
def Accepts (b : Buffer) (answer : Except Fault (Option Change)) : Prop :=
  ∃ r, answer = .ok r ∧ ∀ c ∈ r, c.Fits b

theorem accepts_none (b : Buffer) : b.Accepts (.ok none) := by
  refine ⟨none, rfl, ?_⟩
  intro c hc
  cases hc

theorem accepts_some {b : Buffer} {c : Change} : b.Accepts (.ok (some c)) ↔ c.Fits b := by
  constructor
  · rintro ⟨_, ⟨⟩, h⟩
    exact h c rfl
  · intro h
    refine ⟨some c, rfl, ?_⟩
    rintro _ ⟨⟩
    exact h

theorem not_accepts_error (b : Buffer) (f : Fault) : ¬ b.Accepts (.error f) := by
  rintro ⟨_, he, _⟩
  cases he

end Buffer

end ModalEdit
