import ModalEdit.Limits.Editing
import ModalEdit.Proofs.CommandChanges
import ModalEdit.Proofs.FlatEdits
import ModalEdit.Proofs.Requests

namespace ModalEdit

theorem joinLines_append_break {before : List Line} (h : before ≠ []) (after : List Line) :
    joinLines before ++ joinLines ([] :: after) = joinLines (before ++ after) := by
  by_cases hafter : after = []
  · rw [hafter, joinLines_singleton, List.append_nil, List.append_nil]
  · rw [joinLines_cons_of_ne_nil [] hafter, List.nil_append, joinLines_append h hafter]

namespace Buffer

variable {b : Buffer} {i j c : Nat} {whole : List Line}

theorem eq_of_lines {b' : Buffer} (h : b'.lines = b.lines) : b' = b := by
  cases b
  cases b'
  cases h
  rfl

theorem replace_insert (h : b.Plain) (hi : i < b.size) (hc : c ≤ (b.line i).length)
    (text : List Char) :
    b.replace (.insert ⟨i, c⟩ text) =
      .ok (ofText (b.text.take (b.offset i c) ++ text ++ b.text.drop (b.offset i c))) := by
  rw [take_offset hi hc, drop_offset hi hc]
  exact replace_eq_ofText h (Nat.le_refl i) hi text

theorem exists_insert_lines {text : List Char} (h : b.Plain) (hi : i < b.size) (hne : whole ≠ [])
    (hfree : ∀ line ∈ whole, NewlineFree line)
    (htext : b.textBefore i c ++ text ++ b.textAfter i c =
      joinLines (b.lines.take j ++ whole ++ b.lines.drop j)) :
    ∃ b', b.replace (.insert ⟨i, c⟩ text) = .ok b' ∧
      b'.lines = b.lines.take j ++ whole ++ b.lines.drop j := by
  have hr := replace_eq_ofText (c := c) (d := c) h (Nat.le_refl i) hi text
  rw [htext] at hr
  refine ⟨_, hr, splitLines_joinLines ?_ ?_⟩
  · simp [hne]
  · intro line hline
    rcases List.mem_append.1 hline with hline | hdrop
    · rcases List.mem_append.1 hline with htake | hwhole
      · exact h line (List.mem_of_mem_take htake)
      · exact hfree line hwhole
    · exact h line (List.mem_of_mem_drop hdrop)

theorem exists_insert_below (h : b.Plain) (hi : i < b.size) (hne : whole ≠ [])
    (hfree : ∀ line ∈ whole, NewlineFree line) :
    ∃ b', b.replace (.insert ⟨i, (b.line i).length⟩ ('\n' :: joinLines whole)) = .ok b' ∧
      b'.lines = b.lines.take (i + 1) ++ whole ++ b.lines.drop (i + 1) := by
  apply exists_insert_lines h hi hne hfree
  have hbefore : b.lines.take (i + 1) ≠ [] := by
    rw [take_eq_concat_line hi]
    exact List.append_ne_nil_of_right_ne_nil _ (List.cons_ne_nil _ _)
  rw [textBefore_lineEnd hi, textAfter, List.drop_length, ← joinLines_append hbefore hne,
    joinLines_append_break (List.append_ne_nil_of_left_ne_nil hbefore _)]

theorem exists_insert_above (h : b.Plain) (hi : i < b.size) (hne : whole ≠ [])
    (hfree : ∀ line ∈ whole, NewlineFree line) :
    ∃ b', b.replace (.insert ⟨i, (0 : Nat)⟩ (joinLines whole ++ ['\n'])) = .ok b' ∧
      b'.lines = b.lines.take i ++ whole ++ b.lines.drop i := by
  apply exists_insert_lines h hi hne hfree
  -- The first line put meets the empty rest of the line it goes before.
  obtain ⟨line, rest, rfl⟩ := List.exists_cons_of_ne_nil hne
  have hbelow : b.lines.drop i ≠ [] := by
    rw [drop_eq_line_cons hi]
    exact List.cons_ne_nil _ _
  have hbreak : joinLines (line :: rest) ++ ['\n'] ++ joinLines (b.lines.drop i) =
      joinLines (line :: (rest ++ b.lines.drop i)) := by
    rw [List.append_assoc, List.singleton_append, ← joinLines_append hne hbelow, List.cons_append]
  rw [textBefore_lineStart, textAfter, List.drop_zero, ← drop_eq_line_cons hi, List.append_assoc,
    hbreak, joinLines_seam, List.nil_append, List.append_assoc, List.cons_append]

theorem putBefore_chars (hi : i < b.size) (hc : c ≤ (b.line i).length) (taken : List Char)
    (count : Int) :
    b.putBefore ⟨i, c⟩ (.chars taken) count =
      .ok ⟨⟨i, c⟩, some (.insert ⟨i, c⟩ (repeated count taken)), none, false⟩ := by
  have hcol : min (c : Int) (b.line i).length = c := by omega
  simp only [putBefore, lineAt_natCast hi, bind, Except.bind, pure, Except.pure, hcol]

theorem putAfter_chars (hi : i < b.size) (c : Nat) (taken : List Char) (count : Int) :
    let place : Position := ⟨i, (min (c + 1) (b.line i).length : Nat)⟩
    b.putAfter ⟨i, c⟩ (.chars taken) count =
      .ok ⟨place, some (.insert place (repeated count taken)), none, false⟩ := by
  have hcol : min ((c : Int) + 1) (b.line i).length = (min (c + 1) (b.line i).length : Nat) := by
    omega
  simp only [putAfter, lineAt_natCast hi, bind, Except.bind, pure, Except.pure, hcol]

theorem putBefore_lines (p : Position) (whole : List Line) (count : Int) :
    b.putBefore p (.lines whole) count =
      .ok ⟨⟨p.line, 0⟩, some (.insert ⟨p.line, 0⟩ (joinLines (repeated count whole) ++ ['\n'])),
        none, false⟩ := rfl

theorem putAfter_lines (hi : i < b.size) (col : Int) (whole : List Line) (count : Int) :
    b.putAfter ⟨i, col⟩ (.lines whole) count =
      .ok ⟨⟨(i : Int) + 1, 0⟩,
        some (.insert ⟨i, (b.line i).length⟩ ('\n' :: joinLines (repeated count whole))), none,
        false⟩ := by
  simp only [putAfter, lineAt_natCast hi, bind, Except.bind, pure, Except.pure]

/-- A limit stops a put or leaves it as it is. -/
theorem putWithin_eq (hi : i < b.size) (limits : Limits) (c : Int) (r : Register) (count : Int) :
    b.putAfterWithin limits ⟨i, c⟩ r count =
        (limits.copies r count).elim (b.putAfter ⟨i, c⟩ r count) .error ∧
      b.putBeforeWithin limits ⟨i, c⟩ r count =
        (limits.copies r count).elim (b.putBefore ⟨i, c⟩ r count) .error := by
  simp only [putAfterWithin, putBeforeWithin, lineAt_natCast hi]
  cases limits.copies r count with
  | none => cases r <;> exact ⟨rfl, rfl⟩
  | some f => cases r <;> exact ⟨rfl, rfl⟩

end Buffer

namespace Document

variable {d : Document} {i c n : Nat}

/-- A change is made: it leaves the buffer and the cursor that are given and no selection, and the
state before it can be gone back to. -/
def Makes (d : Document) (outcome : Except Fault Change) (b : Buffer) (cursor : Position) : Prop :=
  ∃ change, outcome = .ok change ∧
    d.grant (.change change.edit change.cursor) =
      ({ d with
          buffer := b
          cursor
          selection := none
          history := (d.buffer, d.cursor) :: d.history },
        none)

theorem makes_edit {e : Edit} {b : Buffer} {cursor : Position} (h : d.buffer.replace e = .ok b) :
    d.Makes (.ok ⟨cursor, some e, none, false⟩) b cursor :=
  ⟨_, rfl, grant_change h⟩

/-- Lines are put below the cursor's line or above it. -/
theorem makes_put_lines {whole : List Line} (h : d.buffer.Plain) (hi : i < d.buffer.size)
    (hn : 0 < n) (hne : whole ≠ []) (hfree : ∀ line ∈ whole, NewlineFree line) :
    let copies := (List.replicate n whole).flatten
    (∃ b, d.Makes (d.buffer.putAfter ⟨i, c⟩ (.lines whole) n) b ⟨(i : Int) + 1, 0⟩ ∧
        b.lines = d.buffer.lines.take (i + 1) ++ copies ++ d.buffer.lines.drop (i + 1)) ∧
      ∃ b, d.Makes (d.buffer.putBefore ⟨i, c⟩ (.lines whole) n) b ⟨i, 0⟩ ∧
        b.lines = d.buffer.lines.take i ++ copies ++ d.buffer.lines.drop i := by
  intro copies
  have hcopies : repeated n whole = copies := repeated_eq_flatten n whole
  have hcopiesNe : copies ≠ [] := hcopies ▸ repeated_ne_nil hn hne
  have hcopiesFree : ∀ line ∈ copies, NewlineFree line := by
    intro line hline
    obtain ⟨whole', hwhole, hline⟩ := List.mem_flatten.1 hline
    rw [List.eq_of_mem_replicate hwhole] at hline
    exact hfree line hline
  obtain ⟨below, hbelow, hbelowLines⟩ :=
    Buffer.exists_insert_below h hi hcopiesNe hcopiesFree
  obtain ⟨above, habove, haboveLines⟩ :=
    Buffer.exists_insert_above h hi hcopiesNe hcopiesFree
  rw [Buffer.putAfter_lines hi, Buffer.putBefore_lines, hcopies]
  exact ⟨⟨below, makes_edit hbelow, hbelowLines⟩, above, makes_edit habove, haboveLines⟩

theorem makes_put_chars (h : d.buffer.Plain) (hi : i < d.buffer.size)
    (hc : c ≤ (d.buffer.line i).length) (taken : List Char) :
    let copies := (List.replicate n taken).flatten
    let next := min (c + 1) (d.buffer.line i).length
    (∃ b, d.Makes (d.buffer.putAfter ⟨i, c⟩ (.chars taken) n) b ⟨i, next⟩ ∧ b.Plain ∧
        b.text = d.buffer.text.take (d.buffer.offset i next) ++ copies ++
          d.buffer.text.drop (d.buffer.offset i next)) ∧
      ∃ b, d.Makes (d.buffer.putBefore ⟨i, c⟩ (.chars taken) n) b ⟨i, c⟩ ∧ b.Plain ∧
        b.text = d.buffer.text.take (d.buffer.offset i c) ++ copies ++
          d.buffer.text.drop (d.buffer.offset i c) := by
  intro copies next
  have hcopies : repeated n taken = copies := repeated_eq_flatten n taken
  have hnext : next ≤ (d.buffer.line i).length := Nat.min_le_right _ _
  rw [Buffer.putAfter_chars hi, Buffer.putBefore_chars hi hc, hcopies]
  exact ⟨⟨_, makes_edit (Buffer.replace_insert h hi hnext copies), Buffer.plain_ofText _,
      Buffer.text_ofText _⟩,
    _, makes_edit (Buffer.replace_insert h hi hc copies), Buffer.plain_ofText _,
    Buffer.text_ofText _⟩

/-- A put from a place of the buffer inserts as many copies of the register as the count says and
nothing else: lines below the cursor's line or above it, characters behind the cursor or where it
is. A limit on what can be copied leaves the put as it is or stops it. -/
theorem put_inserts_copies (h : d.buffer.Plain) (hi : i < d.buffer.size)
    (hc : c ≤ (d.buffer.line i).length) (hn : 0 < n) :
    (∀ whole : List Line, whole ≠ [] → (∀ line ∈ whole, NewlineFree line) →
      let copies := (List.replicate n whole).flatten
      (∃ b, d.Makes (d.buffer.putAfter ⟨i, c⟩ (.lines whole) n) b ⟨(i : Int) + 1, 0⟩ ∧
          b.lines = d.buffer.lines.take (i + 1) ++ copies ++ d.buffer.lines.drop (i + 1)) ∧
        ∃ b, d.Makes (d.buffer.putBefore ⟨i, c⟩ (.lines whole) n) b ⟨i, 0⟩ ∧
          b.lines = d.buffer.lines.take i ++ copies ++ d.buffer.lines.drop i) ∧
    (∀ taken : List Char,
      let copies := (List.replicate n taken).flatten
      let next := min (c + 1) (d.buffer.line i).length
      (∃ b, d.Makes (d.buffer.putAfter ⟨i, c⟩ (.chars taken) n) b ⟨i, next⟩ ∧ b.Plain ∧
          b.text = d.buffer.text.take (d.buffer.offset i next) ++ copies ++
            d.buffer.text.drop (d.buffer.offset i next)) ∧
        ∃ b, d.Makes (d.buffer.putBefore ⟨i, c⟩ (.chars taken) n) b ⟨i, c⟩ ∧ b.Plain ∧
          b.text = d.buffer.text.take (d.buffer.offset i c) ++ copies ++
            d.buffer.text.drop (d.buffer.offset i c)) ∧
    ∀ (limits : Limits) (r : Register),
      d.buffer.putAfterWithin limits ⟨i, c⟩ r n =
          (limits.copies r n).elim (d.buffer.putAfter ⟨i, c⟩ r n) .error ∧
        d.buffer.putBeforeWithin limits ⟨i, c⟩ r n =
          (limits.copies r n).elim (d.buffer.putBefore ⟨i, c⟩ r n) .error := by
  refine ⟨?_, makes_put_chars h hi hc, ?_⟩
  · intro whole hne hfree
    exact makes_put_lines h hi hn hne hfree
  · intro limits r
    exact Buffer.putWithin_eq hi limits c r n

theorem put_inserts_copies_last_line :
    let d : Document := { buffer := .ofText "ab\ncd".toList }
    (∃ b, d.Makes (d.buffer.putAfter ⟨1, 1⟩ (.lines [[]]) 2) b ⟨2, 0⟩ ∧
        b.lines = ["ab".toList, "cd".toList, [], []]) ∧
      ∃ b, d.Makes (d.buffer.putBefore ⟨1, 1⟩ (.chars "x\n".toList) 2) b ⟨1, 1⟩ ∧
        b.text = "ab\ncx\nx\nd".toList := by
  intro d
  have hplain : d.buffer.Plain := Buffer.plain_ofText _
  obtain ⟨hlines, hchars, _⟩ :=
    put_inserts_copies (n := 2) hplain (i := 1) (c := 1) (by decide) (by decide) (by decide)
  obtain ⟨⟨below, hbelow, hbelowLines⟩, _⟩ :=
    hlines [[]] (by decide) (fun line hline => by
      rw [List.mem_singleton.1 hline]
      exact newlineFree_nil)
  obtain ⟨_, inline, hinline, _, hinlineText⟩ := hchars "x\n".toList
  exact ⟨⟨below, hbelow, hbelowLines⟩, inline, hinline, hinlineText⟩

end Document

end ModalEdit
