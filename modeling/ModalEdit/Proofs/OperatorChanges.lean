import ModalEdit.Operator
import ModalEdit.Proofs.Replacement

namespace ModalEdit

namespace Buffer

theorem lineBounds_le (b : Buffer) (s : Span) : (b.lineBounds s).1 ≤ (b.lineBounds s).2 :=
  Nat.le_max_left _ _

theorem lineBounds_lt (b : Buffer) (s : Span) : (b.lineBounds s).2 < b.size :=
  Nat.max_lt.2 ⟨b.clampLine_lt _, b.clampLine_lt _⟩

theorem lineBounds_natCast {b : Buffer} {i j : Nat} (hij : i ≤ j) (hj : j < b.size)
    (c c' : Int) (shape : Shape) : b.lineBounds ⟨⟨i, c⟩, ⟨j, c'⟩, shape⟩ = (i, j) := by
  simp only [lineBounds, clampLine_natCast (Nat.lt_of_le_of_lt hij hj), clampLine_natCast hj,
    Nat.max_eq_right hij]

theorem drop_eq_line_cons {b : Buffer} {i : Nat} (h : i < b.size) :
    b.lines.drop i = b.line i :: b.lines.drop (i + 1) := by
  have h' : i < b.lines.length := h
  rw [List.drop_eq_getElem_cons h', line, List.getD_eq_getElem _ _ h']

theorem take_eq_concat_line {b : Buffer} {i : Nat} (h : i < b.size) :
    b.lines.take (i + 1) = b.lines.take i ++ [b.line i] := by
  have h' : i < b.lines.length := h
  rw [List.take_succ_eq_append_getElem h', line, List.getD_eq_getElem _ _ h']

section Block

variable {b : Buffer} {top bottom : Nat}

theorem block_eq_cons (h : top ≤ bottom) (htop : top < b.size) :
    b.block top bottom = b.line top :: (b.lines.drop (top + 1)).take (bottom - top) := by
  rw [block, drop_eq_line_cons htop, Nat.sub_add_comm h, List.take_succ_cons]

theorem block_ne_nil (h : top ≤ bottom) (htop : top < b.size) : b.block top bottom ≠ [] := by
  rw [block_eq_cons h htop]
  exact List.cons_ne_nil _ _

theorem block_append_drop (h : top ≤ bottom) :
    b.block top bottom ++ b.lines.drop (bottom + 1) = b.lines.drop top := by
  have hcount : bottom + 1 = top + (bottom + 1 - top) := by omega
  rw [block, hcount, ← List.drop_drop, ← hcount, List.take_append_drop]

theorem take_append_block (h : top ≤ bottom) :
    b.lines.take top ++ b.block top bottom = b.lines.take (bottom + 1) := by
  have hcount : bottom + 1 = top + (bottom + 1 - top) := by omega
  rw [block, hcount, List.take_add, ← hcount]

end Block

/-- The lines that are left when a block of them goes; the last line of all stays, empty. -/
def without (b : Buffer) (top bottom : Nat) : List Line :=
  let left := b.lines.take top ++ b.lines.drop (bottom + 1)
  if left = [] then [[]] else left

theorem without_of_lt {b : Buffer} {top bottom : Nat} (h : bottom + 1 < b.size) :
    b.without top bottom = b.lines.take top ++ b.lines.drop (bottom + 1) := by
  apply if_neg
  intro hnil
  rw [drop_eq_line_cons h] at hnil
  exact List.cons_ne_nil _ _ (List.append_eq_nil_iff.1 hnil).2

theorem without_of_pos {b : Buffer} {top bottom : Nat} (htop : 0 < top) (h : b.size ≤ bottom + 1) :
    b.without top bottom = b.lines.take top := by
  have hdrop : b.lines.drop (bottom + 1) = [] := List.drop_of_length_le h
  have hne : b.lines.take top ≠ [] := by
    rw [Ne, List.take_eq_nil_iff]
    rintro (he | he)
    · exact Nat.ne_of_gt htop he
    · exact b.lines_ne_nil he
  rw [without, hdrop, List.append_nil]
  exact if_neg hne

theorem deleteLines_of_lt {b : Buffer} {s : Span} {top bottom : Nat}
    (hbounds : b.lineBounds s = (top, bottom)) (h : bottom < b.lastLine) :
    b.deleteLines s = ⟨⟨top, clampCol (b.line (bottom + 1)).length s.start.col⟩,
      some ⟨⟨top, (0 : Nat)⟩, ⟨(bottom + 1 : Nat), (0 : Nat)⟩, []⟩,
      some (.lines (b.block top bottom)), false⟩ := by
  simp only [deleteLines, hbounds, if_pos h]
  rfl

theorem deleteLines_of_pos {b : Buffer} {s : Span} {top bottom : Nat}
    (hbounds : b.lineBounds s = (top, bottom)) (h : ¬ bottom < b.lastLine) (htop : 0 < top) :
    b.deleteLines s = ⟨⟨(top - 1 : Nat), clampCol (b.line (top - 1)).length s.start.col⟩,
      some ⟨⟨(top - 1 : Nat), (b.line (top - 1)).length⟩, ⟨bottom, (b.line bottom).length⟩, []⟩,
      some (.lines (b.block top bottom)), false⟩ := by
  simp only [deleteLines, hbounds, if_neg h, if_pos htop]

theorem deleteLines_result {b : Buffer} (h : b.Plain) (s : Span) :
    ∃ b', (b.deleteLines s).result b = .ok b' ∧
      b'.lines = b.without (b.lineBounds s).1 (b.lineBounds s).2 ∧
      b'.IsCell (b.deleteLines s).cursor := by
  have hle := b.lineBounds_le s
  have hlt := b.lineBounds_lt s
  have hlast : b.lastLine = b.size - 1 := rfl
  have hsize : b.lines.length = b.size := rfl
  rcases hbounds : b.lineBounds s with ⟨top, bottom⟩
  simp only [hbounds] at hle hlt ⊢
  by_cases hbelow : bottom < b.lastLine
  · have hlt' : bottom + 1 < b.size := by omega
    obtain ⟨b', hr, hlines, hi, hline⟩ := replace_inline 0 0 h (Nat.le_succ_of_le hle)
      hlt' newlineFree_nil
    rw [deleteLines_of_lt hbounds hbelow]
    refine ⟨b', hr, ?_, isCell_natCast.2 ⟨hi, ?_⟩⟩
    · rw [without_of_lt hlt', hlines, drop_eq_line_cons hlt']
      rfl
    · rw [hline]
      exact clampCol_le _ _
  · by_cases htop : 0 < top
    · have hprev : top - 1 + 1 = top := Nat.sub_add_cancel htop
      obtain ⟨b', hr, hlines, hi, hline⟩ := replace_inline (b.line (top - 1)).length
        (b.line bottom).length h (Nat.le_trans (Nat.sub_le top 1) hle) hlt newlineFree_nil
      rw [List.take_length, List.drop_length, List.append_nil, List.append_nil] at hlines hline
      rw [deleteLines_of_pos hbounds hbelow htop]
      refine ⟨b', hr, ?_, isCell_natCast.2 ⟨hi, ?_⟩⟩
      · have hnil : b.lines.drop (bottom + 1) = [] := List.drop_of_length_le (by omega)
        rw [without_of_pos htop (by omega), hlines, hnil, ← hprev,
          take_eq_concat_line (by omega), hprev]
      · rw [hline]
        exact clampCol_le _ _
    · obtain ⟨b', hr, hlines, hi, hline⟩ := replace_inline (i := 0) 0
        (b.line bottom).length h (Nat.zero_le _) hlt newlineFree_nil
      have hc : b.deleteLines s = ⟨⟨(0 : Nat), (0 : Nat)⟩,
          some ⟨⟨(0 : Nat), (0 : Nat)⟩, ⟨bottom, (b.line bottom).length⟩, []⟩,
          some (.lines (b.block top bottom)), false⟩ := by
        simp only [deleteLines, hbounds, if_neg hbelow, if_neg htop]
        rfl
      have hnil : b.lines.drop (bottom + 1) = [] := List.drop_of_length_le (by omega)
      rw [hc]
      refine ⟨b', hr, ?_, isCell_natCast.2 ⟨hi, Nat.zero_le _⟩⟩
      rw [hlines, List.drop_length, hnil, Nat.eq_zero_of_not_pos htop, without, hnil]
      rfl

theorem splitLines_breaks (n : Nat) :
    splitLines (List.replicate n '\n') = List.replicate (n + 1) [] := by
  induction n with
  | zero => rfl
  | succ n ih =>
    rw [List.replicate_succ, splitLines_newline, ih]
    rfl

theorem changeLines_result {b : Buffer} (s : Span) :
    ∃ b', (b.changeLines s).result b = .ok b' ∧
      b'.lines = b.lines.take (b.lineBounds s).1 ++
        List.replicate ((b.lineBounds s).2 + 1 - (b.lineBounds s).1) [] ++
        b.lines.drop ((b.lineBounds s).2 + 1) ∧
      b'.IsCell (b.changeLines s).cursor := by
  have hle := b.lineBounds_le s
  have hlt := b.lineBounds_lt s
  rcases hbounds : b.lineBounds s with ⟨top, bottom⟩
  simp only [hbounds] at hle hlt ⊢
  obtain ⟨b', hr, hlines⟩ := replace_natCast 0 (b.line bottom).length
    (List.replicate (bottom - top) '\n') hle hlt
  have hc : b.changeLines s = ⟨⟨top, (0 : Nat)⟩,
      some ⟨⟨top, (0 : Nat)⟩, ⟨bottom, (b.line bottom).length⟩,
        List.replicate (bottom - top) '\n'⟩, some (.lines (b.block top bottom)), true⟩ := by
    simp only [changeLines, hbounds]
    rfl
  rw [List.take_zero, List.drop_length, List.nil_append, List.append_nil, splitLines_breaks,
    ← Nat.sub_add_comm hle] at hlines
  rw [hc]
  refine ⟨b', hr, hlines, isCell_natCast.2 ⟨?_, Nat.zero_le _⟩⟩
  rw [size, hlines]
  simp only [List.length_append, List.length_take, List.length_replicate, List.length_drop]
  have hsize : b.lines.length = b.size := rfl
  omega

theorem onLines_deleteLines (b : Buffer) (s : Span) : (b.deleteLines s).OnLines b := by
  have hle := b.lineBounds_le s
  have hlt := b.lineBounds_lt s
  rcases hbounds : b.lineBounds s with ⟨top, bottom⟩
  simp only [hbounds] at hle hlt
  have htop : top < b.size := Nat.lt_of_le_of_lt hle hlt
  intro e he
  simp only [Buffer.deleteLines, hbounds, Option.mem_def, Option.some.injEq] at he
  split at he
  · rename_i hbelow
    subst he
    exact ⟨⟨top, htop, rfl⟩, bottom + 1, by have := b.lastLine_lt_size; omega, rfl⟩
  · split at he
    · subst he
      exact ⟨⟨top - 1, Nat.lt_of_le_of_lt (Nat.sub_le top 1) htop, rfl⟩, bottom, hlt, rfl⟩
    · subst he
      exact ⟨⟨0, b.size_pos, rfl⟩, bottom, hlt, rfl⟩

theorem onLines_changeLines (b : Buffer) (s : Span) : (b.changeLines s).OnLines b := by
  have hlt := b.lineBounds_lt s
  apply Change.onLines_of_some rfl
  exact ⟨⟨_, Nat.lt_of_le_of_lt (b.lineBounds_le s) hlt, rfl⟩, _, hlt, rfl⟩

theorem between_natCast {line : Line} {c : Nat} (c' : Nat) (h : c ≤ line.length) :
    between line c c' = (line.take c').drop c := by
  simp only [between, upTo_natCast, bound_natCast, Nat.min_eq_left h]

theorem exists_textBetween {b : Buffer} {p q : Position} (hp : b.Contains p) (hq : b.Contains q) :
    ∃ text, b.textBetween p q = .ok text := by
  obtain ⟨i, c, rfl, hi, _⟩ := hp.exists_natCast
  obtain ⟨j, c', rfl, hj, _⟩ := hq.exists_natCast
  unfold textBetween
  split
  · simp only [lineAt_natCast hi]
    exact ⟨_, rfl⟩
  · simp only [lineAt_natCast hi, lineAt_natCast hj]
    exact ⟨_, rfl⟩

theorem textBetween_same {b : Buffer} {i c : Nat} (c' : Nat) (hi : i < b.size)
    (hc : c ≤ (b.line i).length) :
    b.textBetween ⟨i, c⟩ ⟨i, c'⟩ = .ok (((b.line i).take c').drop c) := by
  simp only [textBetween, if_true, lineAt_natCast hi, bind, Except.bind, pure, Except.pure,
    between_natCast c' hc]

/-- The lines strictly between two lines. -/
def inner (b : Buffer) (i j : Nat) : List Line :=
  (b.lines.drop (i + 1)).take (j - i - 1)

theorem textBetween_lines {b : Buffer} {i j : Nat} (c c' : Nat) (hij : i < j) (hj : j < b.size) :
    b.textBetween ⟨i, c⟩ ⟨j, c'⟩ =
      .ok (joinLines ((b.line i).drop c :: (b.inner i j ++ [(b.line j).take c']))) := by
  have hne : ¬ ((i : Int) = j) := by omega
  have hfirst : ((i : Int) + 1).toNat = i + 1 := rfl
  have hcount : ((j : Int) - i - 1).toNat = j - i - 1 := by omega
  simp only [textBetween, if_neg hne, lineAt_natCast (Nat.lt_trans hij hj), lineAt_natCast hj, bind,
    Except.bind, pure, Except.pure, since_natCast, upTo_natCast, hfirst, hcount, inner,
    List.cons_append]

/-- The text of a span that is not empty is not empty either, and begins with a line break just
where the span begins past the end of a line. -/
theorem textBetween_head {b : Buffer} {i c j c' : Nat} (h : b.Plain) (hij : i < j ∨ i = j ∧ c < c')
    (hc : c ≤ (b.line i).length) (hj : j < b.size) (hc' : c' ≤ (b.line j).length) :
    ∃ text, b.textBetween ⟨i, c⟩ ⟨j, c'⟩ = .ok text ∧ text ≠ [] ∧
      (text.head? = some '\n' ↔ c = (b.line i).length) := by
  have hplain : (b.line i)[c]? ≠ some '\n' := by
    intro he
    exact h.newlineFree_line i (List.mem_of_getElem? he)
  rcases hij with hij | ⟨rfl, hlt⟩
  · have ht := textBetween_lines c c' hij hj
    rw [joinLines_cons_of_ne_nil _ (List.append_ne_nil_of_right_ne_nil _ (List.cons_ne_nil _ _))]
      at ht
    refine ⟨_, ht, List.append_ne_nil_of_right_ne_nil _ (List.cons_ne_nil _ _), ?_⟩
    rcases Nat.lt_or_eq_of_le hc with hlt | heq
    · have hhead : (b.line i)[c]? = some (b.line i)[c] := List.getElem?_eq_getElem hlt
      rw [List.head?_append, List.head?_drop, hhead, Option.some_or, ← hhead]
      exact iff_of_false hplain (Nat.ne_of_lt hlt)
    · rw [heq, List.drop_length]
      exact iff_of_true rfl rfl
  · have hlt' : c < (b.line i).length := Nat.lt_of_lt_of_le hlt hc'
    have hhead : (((b.line i).take c').drop c).head? = (b.line i)[c]? := by
      rw [List.head?_drop, List.getElem?_take_of_lt hlt]
    refine ⟨_, textBetween_same c' hj hc, ?_, ?_⟩
    · intro hnil
      rw [hnil, List.getElem?_eq_getElem hlt'] at hhead
      cases hhead
    · rw [hhead]
      exact iff_of_false hplain (Nat.ne_of_lt hlt')

theorem head?_joinLines_cons {line : Line} (h : line ≠ []) (rest : List Line) :
    (joinLines (line :: rest)).head? = line.head? := by
  cases line with
  | nil => contradiction
  | cons c line => rw [joinLines_cons_cons]; rfl

/-- A yank of lines that goes past the first column begins with a character of the first line. -/
theorem not_breaks_yankLines {b : Buffer} (h : b.Plain) (s : Span) : ¬ (b.yankLines s).Breaks := by
  have hle := b.lineBounds_le s
  have hlt := b.lineBounds_lt s
  rcases hbounds : b.lineBounds s with ⟨top, bottom⟩
  simp only [hbounds] at hle hlt
  have hblock := block_eq_cons hle (Nat.lt_of_le_of_lt hle hlt)
  have hc : b.yankLines s = ⟨⟨top, clampCol (b.line top).length s.start.col⟩, none,
      some (.lines (b.block top bottom)), false⟩ := by
    simp only [yankLines, hbounds]
  rw [hc, hblock]
  rintro ⟨hpos, hhead⟩
  have hpos' : 0 < clampCol (b.line top).length s.start.col := Int.natCast_pos.1 hpos
  have hle' := clampCol_le (b.line top).length s.start.col
  have hne : b.line top ≠ [] := by
    intro hnil
    rw [hnil] at hpos' hle'
    exact absurd (Nat.lt_of_lt_of_le hpos' hle') (Nat.lt_irrefl 0)
  have hhead' : (b.line top).head? = some '\n' := by
    rw [← head?_joinLines_cons hne]
    exact hhead
  exact h.newlineFree_line top (List.mem_of_mem_head? hhead')

end Buffer

namespace Operator

theorem run_of_isEmpty {s : Span} (o : Operator) (b : Buffer) (h : s.isEmpty = true) :
    o.run b s = .ok none := by
  simp only [run, h, if_true]
  rfl

/-- What an operator does to whole lines. -/
def wholeLines : Operator → Buffer → Span → Change
  | .delete => Buffer.deleteLines
  | .change => Buffer.changeLines
  | .yank => Buffer.yankLines

theorem run_of_linewise {s : Span} (o : Operator) (b : Buffer) (hshape : s.shape = .linewise)
    (hempty : s.isEmpty = false) : o.run b s = .ok (some (o.wholeLines b s)) := by
  simp only [run, hempty, hshape]
  cases o <;> rfl

theorem register_wholeLines (o : Operator) (b : Buffer) (s : Span) :
    (o.wholeLines b s).register =
      some (.lines (b.block (b.lineBounds s).1 (b.lineBounds s).2)) := by
  cases o <;> rfl

theorem onLines_wholeLines (o : Operator) (b : Buffer) (s : Span) :
    (o.wholeLines b s).OnLines b := by
  cases o with
  | delete => exact b.onLines_deleteLines s
  | change => exact b.onLines_changeLines s
  | yank => exact Change.onLines_of_none rfl

theorem run_of_not_isEmpty {span : Span} {b : Buffer} (o : Operator) (h : span.Inside b)
    (hempty : span.isEmpty = false) :
    ∃ c r, o.run b span = .ok (some c) ∧ c.register = some r ∧ c.OnLines b := by
  obtain ⟨start, stop, shape⟩ := span
  cases shape with
  | linewise =>
    exact ⟨_, _, o.run_of_linewise b rfl hempty, o.register_wholeLines b _,
      o.onLines_wholeLines b _⟩
  | charwise =>
    simp only [run, hempty, Bool.false_eq_true, if_false]
    obtain ⟨hstart, hstop⟩ := h rfl
    obtain ⟨text, ht⟩ := Buffer.exists_textBetween hstart hstop
    simp only at hstart hstop
    obtain ⟨i, c, rfl, hi, _⟩ := hstart.exists_natCast
    obtain ⟨j, c', rfl, hj, _⟩ := hstop.exists_natCast
    have hlines : Edit.OnLines ⟨⟨i, c⟩, ⟨j, c'⟩, []⟩ b := ⟨⟨i, hi, rfl⟩, j, hj, rfl⟩
    cases o with
    | delete =>
      simp only [ht, Buffer.lineAt_natCast hi, Buffer.lineAt_natCast hj, bind, Except.bind]
      exact ⟨_, _, rfl, rfl, Change.onLines_of_some rfl hlines⟩
    | change =>
      simp only [ht, bind, Except.bind]
      exact ⟨_, _, rfl, rfl, Change.onLines_of_some rfl hlines⟩
    | yank =>
      simp only [ht, bind, Except.bind]
      exact ⟨_, _, rfl, rfl, Change.onLines_of_none rfl⟩

theorem exists_register_of_run {span : Span} {b : Buffer} {o : Operator} {c : Change}
    (h : span.Inside b) (hrun : o.run b span = .ok (some c)) :
    (∃ r, c.register = some r) ∧ c.OnLines b := by
  cases hempty : span.isEmpty with
  | true => cases hrun.symm.trans (o.run_of_isEmpty b hempty)
  | false =>
    obtain ⟨c', r, hrun', hr, hlines⟩ := o.run_of_not_isEmpty h hempty
    cases hrun.symm.trans hrun'
    exact ⟨⟨r, hr⟩, hlines⟩

theorem run_of_inside {span : Span} {b : Buffer} (o : Operator) (h : span.Inside b) :
    (span.isEmpty = true ∧ o.run b span = .ok none) ∨ ∃ c, o.run b span = .ok (some c) := by
  cases hempty : span.isEmpty with
  | true => exact .inl ⟨rfl, o.run_of_isEmpty b hempty⟩
  | false =>
    obtain ⟨c, _, hrun, _, _⟩ := o.run_of_not_isEmpty h hempty
    exact .inr ⟨c, hrun⟩

theorem fits_of_linewise {b : Buffer} {s : Span} (o : Operator) (h : b.Plain)
    (hshape : s.shape = .linewise) (hempty : s.isEmpty = false) : b.Accepts (o.run b s) := by
  have hle := b.lineBounds_le s
  have hlt := b.lineBounds_lt s
  rw [run_of_linewise o b hshape hempty, Buffer.accepts_some]
  cases o with
  | delete =>
    obtain ⟨b', hr, _, hcell⟩ := Buffer.deleteLines_result h s
    have hcarried : (b.deleteLines s).carried = [] := by
      simp only [Buffer.deleteLines]
      split
      · rfl
      · split <;> rfl
    apply Change.Fits.of_cell hr hcell
    · apply Change.not_breaks_of_newlineFree
      rw [hcarried]
      exact newlineFree_nil
    · intro he
      cases he
  | change =>
    obtain ⟨b', hr, _, hcell⟩ := Buffer.changeLines_result (b := b) s
    refine ⟨⟨b', hr, hcell.contains, ?_⟩, ?_⟩
    · intro he
      cases he
    · intro he
      cases he
  | yank =>
    have hcell : b.IsCell (b.yankLines s).cursor :=
      Buffer.isCell_natCast.2 ⟨Nat.lt_of_le_of_lt hle hlt, clampCol_le _ _⟩
    apply Change.Fits.of_cell rfl hcell (Buffer.not_breaks_yankLines h s)
    intro he
    cases he

theorem run_delete_natCast {b : Buffer} {i c j c' : Nat} {text : List Char}
    (hempty : (⟨⟨i, c⟩, ⟨j, c'⟩, .charwise⟩ : Span).isEmpty = false) (hi : i < b.size)
    (hj : j < b.size) (ht : b.textBetween ⟨i, c⟩ ⟨j, c'⟩ = .ok text) :
    Operator.delete.run b ⟨⟨i, c⟩, ⟨j, c'⟩, .charwise⟩ = .ok (some
      ⟨⟨i, clampCol ((b.line i).take c ++ (b.line j).drop c').length c⟩,
        some ⟨⟨i, c⟩, ⟨j, c'⟩, []⟩, some (.chars text), false⟩) := by
  simp only [run, hempty, ht, Buffer.lineAt_natCast hi, Buffer.lineAt_natCast hj, bind,
    Except.bind, upTo_natCast, since_natCast]
  rfl

theorem fits_of_charwise {b : Buffer} {s : Span} (o : Operator) (h : b.Plain) (hs : s.Inside b)
    (hshape : s.shape = .charwise) (hempty : s.isEmpty = false) : b.Accepts (o.run b s) := by
  obtain ⟨start, stop, shape⟩ := s
  cases hshape
  obtain ⟨hstart, hstop⟩ := hs rfl
  obtain ⟨i, c, rfl, hi, hc⟩ := hstart.exists_natCast
  obtain ⟨j, c', rfl, hj, hc'⟩ := hstop.exists_natCast
  have hlt := Span.lt_of_isEmpty_eq_false hempty
  have hij : i ≤ j := by omega
  obtain ⟨text, ht, hne, hhead⟩ := Buffer.textBetween_head h hlt hc hj hc'
  have hreg : some (Register.chars text) ≠ some (.chars []) := by
    intro he
    exact hne (Register.chars.inj (Option.some.inj he))
  cases o with
  | delete =>
    obtain ⟨b', hr, _, hi', hline⟩ := Buffer.replace_inline c c' h hij hj newlineFree_nil
    have hcell : b'.IsCell
        ⟨i, clampCol ((b.line i).take c ++ (b.line j).drop c').length c⟩ := by
      rw [Buffer.isCell_natCast, hline]
      exact ⟨hi', clampCol_le _ _⟩
    rw [run_delete_natCast hempty hi hj ht, Buffer.accepts_some]
    exact .of_cell hr hcell (Change.not_breaks_of_newlineFree newlineFree_nil) hreg
  | change =>
    have hrun : Operator.change.run b ⟨⟨i, c⟩, ⟨j, c'⟩, .charwise⟩ = .ok (some
        ⟨⟨i, c⟩, some ⟨⟨i, c⟩, ⟨j, c'⟩, []⟩, some (.chars text), true⟩) := by
      simp only [run, hempty, ht, bind, Except.bind]
      rfl
    obtain ⟨b', hr, _, hi', hline⟩ := Buffer.replace_inline c c' h hij hj newlineFree_nil
    rw [hrun, Buffer.accepts_some]
    refine ⟨⟨b', hr, Buffer.contains_natCast.2 ⟨hi', ?_⟩, ?_⟩, hreg⟩
    · rw [hline, List.length_append, List.length_take, Nat.min_eq_left hc]
      exact Nat.le_add_right _ _
    · intro he
      cases he
  | yank =>
    have hrun : Operator.yank.run b ⟨⟨i, c⟩, ⟨j, c'⟩, .charwise⟩ = .ok (some
        ⟨⟨i, c⟩, none, some (.chars text), false⟩) := by
      simp only [run, hempty, ht, bind, Except.bind]
      rfl
    rw [hrun, Buffer.accepts_some]
    refine ⟨⟨b, rfl, Buffer.contains_natCast.2 ⟨hi, hc⟩, ?_⟩, hreg⟩
    intro _
    have hbreaks : (⟨⟨i, c⟩, none, some (.chars text), false⟩ : Change).Breaks ↔
        0 < c ∧ c = (b.line i).length := and_congr Int.natCast_pos hhead
    rw [Buffer.isCell_natCast, hbreaks]
    omega

/-- An operator on a span of the buffer never fails, and what it asks for fits the buffer. -/
theorem run_fits {b : Buffer} {s : Span} (o : Operator) (h : b.Plain) (hs : s.Inside b) :
    b.Accepts (o.run b s) := by
  cases hempty : s.isEmpty with
  | true =>
    rw [run_of_isEmpty o b hempty]
    exact b.accepts_none
  | false =>
    cases hshape : s.shape with
    | linewise => exact fits_of_linewise o h hshape hempty
    | charwise => exact fits_of_charwise o h hs hshape hempty

end Operator

end ModalEdit
