import ModalEdit.Proofs.PutCopies

namespace ModalEdit

namespace Buffer

variable {b b' : Buffer} {i c j d top bottom : Nat} {taken : List Char}

theorem textBefore_congr (htake : b'.lines.take i = b.lines.take i)
    (hline : (b'.line i).take c = (b.line i).take c) : b'.textBefore i c = b.textBefore i c := by
  rw [textBefore, textBefore, htake, hline]

/-- An insertion between the text before a place and the text after it that make up another buffer
leads to that buffer. -/
theorem replace_insert_eq (h : b.Plain) (h' : b'.Plain) (hi : i < b.size) (hi' : i < b'.size)
    (hbefore : b'.textBefore i c = b.textBefore i c)
    (hafter : taken ++ b'.textAfter i c = b.textAfter i c) :
    b'.replace (.insert ⟨i, c⟩ taken) = .ok b := by
  have hr := replace_eq_ofText (c := c) (d := c) h' (Nat.le_refl i) hi' taken
  rw [List.append_assoc, hbefore, hafter, textBefore_append_textAfter hi, h.ofText_text] at hr
  exact hr

theorem append_textAfter (hi : i < b.size) (hj : j < b.size)
    (h : b.textBefore i c ++ taken = b.textBefore j d) :
    taken ++ b.textAfter j d = b.textAfter i c := by
  have hboth : b.textBefore i c ++ (taken ++ b.textAfter j d) =
      b.textBefore i c ++ b.textAfter i c := by
    rw [← List.append_assoc, h, textBefore_append_textAfter hj, textBefore_append_textAfter hi]
  exact List.append_cancel_left hboth

theorem exists_replace_restored (h : b.Plain) (hlt : i < j ∨ i = j ∧ c < d) (hj : j < b.size)
    (hc : c ≤ (b.line i).length) (ht : b.textBetween ⟨i, c⟩ ⟨j, d⟩ = .ok taken) :
    ∃ b', b.replace ⟨⟨i, c⟩, ⟨j, d⟩, []⟩ = .ok b' ∧ i < b'.size ∧
      b'.line i = (b.line i).take c ++ (b.line j).drop d ∧
      b'.replace (.insert ⟨i, c⟩ taken) = .ok b := by
  have hij : i ≤ j := by omega
  have hi : i < b.size := Nat.lt_of_le_of_lt hij hj
  have hle : i < j ∨ i = j ∧ c ≤ d := by omega
  obtain ⟨taken', ht', hbefore⟩ := exists_textBetween_append hle hj hc
  obtain rfl : taken' = taken := Except.ok.inj (ht'.symm.trans ht)
  obtain ⟨b', hr, hlines, hi', hline⟩ := replace_inline c d h hij hj newlineFree_nil
  rw [List.nil_append] at hlines hline
  have hlen : ((b.line i).take c).length = c := by
    rw [List.length_take]
    exact Nat.min_eq_left hc
  refine ⟨b', hr, hi', hline, replace_insert_eq h (h.of_replace hr) hi hi' ?_ ?_⟩
  · apply textBefore_congr
    · rw [hlines, List.take_left' (length_lines_take hi)]
    · rw [hline, List.take_left' hlen]
  · have hafter : b'.textAfter i c = b.textAfter j d := by
      have hdrop : b'.lines.drop (i + 1) = b.lines.drop (j + 1) := by
        rw [hlines, ← List.drop_drop, List.drop_left' (length_lines_take hi)]
        rfl
      rw [textAfter, textAfter, hline, List.drop_left' hlen, hdrop]
    rw [hafter]
    exact append_textAfter hi hj hbefore

theorem Plain.newlineFree_block (h : b.Plain) {line : Line} (hline : line ∈ b.block top bottom) :
    NewlineFree line :=
  h line (List.mem_of_mem_drop (List.mem_of_mem_take hline))

theorem replace_insert_above (h : b.Plain) (h' : b'.Plain) (hle : top ≤ bottom)
    (hbottom : bottom + 1 < b.size)
    (hlines : b'.lines = b.lines.take top ++ b.lines.drop (bottom + 1)) :
    b'.replace (.insert ⟨top, (0 : Nat)⟩ (joinLines (b.block top bottom) ++ ['\n'])) = .ok b := by
  have htop : top < b.size := by omega
  have htop' : top < b'.size := by
    have hsize : b.lines.length = b.size := rfl
    rw [size, hlines]
    simp only [List.length_append, List.length_take, List.length_drop]
    omega
  obtain ⟨b'', hr, hback⟩ := exists_insert_above h' htop' (block_ne_nil hle htop)
    fun _ hline => h.newlineFree_block hline
  have hrestored : b''.lines = b.lines := by
    rw [hback, hlines, List.take_left' (length_lines_take htop),
      List.drop_left' (length_lines_take htop), List.append_assoc, block_append_drop hle,
      List.take_append_drop]
  rw [hr, eq_of_lines hrestored]

theorem replace_insert_below (h : b.Plain) (h' : b'.Plain) (hle : i + 1 ≤ bottom)
    (hbottom : bottom + 1 = b.size) (hlines : b'.lines = b.lines.take (i + 1)) :
    i < b'.size ∧ b'.line i = b.line i ∧
      b'.replace (.insert ⟨i, (b.line i).length⟩ ('\n' :: joinLines (b.block (i + 1) bottom))) =
        .ok b := by
  have hi : i < b.size := by omega
  obtain ⟨hi', hline⟩ : i < b'.size ∧ b'.line i = b.line i := by
    have hmiddle : b'.lines = b.lines.take i ++ b.line i :: [] ++ [] := by
      rw [hlines, take_eq_concat_line hi, List.append_nil]
    have h := line_of_lines_eq hmiddle
    rwa [length_lines_take hi] at h
  obtain ⟨b'', hr, hback⟩ := exists_insert_below h' hi' (block_ne_nil hle (by omega))
    fun _ hline => h.newlineFree_block hline
  have hrestored : b''.lines = b.lines := by
    have hnone : b.lines.drop (bottom + 1) = [] :=
      List.drop_of_length_le (Nat.le_of_eq hbottom.symm)
    have hblock := block_append_drop hle (b := b)
    rw [hnone, List.append_nil] at hblock
    have hrest : (b.lines.take (i + 1)).drop (i + 1) = [] :=
      List.drop_eq_nil_of_le (List.length_take_le _ _)
    rw [hback, hlines, hrest, hblock, List.take_take, Nat.min_self, List.append_nil,
      List.take_append_drop]
  rw [hline] at hr
  rw [hr, eq_of_lines hrestored]
  exact ⟨hi', hline, rfl⟩

end Buffer

namespace Span

/-- A span of characters in the buffer, or of whole lines, but not of all of them. -/
def Removable (s : Span) (b : Buffer) : Prop :=
  match s.shape with
  | .charwise => b.Contains s.start ∧ b.Contains s.stop
  | .linewise =>
    0 ≤ s.start.line ∧ s.stop.line < b.size ∧ ¬ (s.start.line = 0 ∧ s.stop.line = b.lastLine)

/-- Whether what a deletion took goes before the cursor that it left: characters where the cursor is
still at the column they began at, lines where others came after them. -/
def returnsBefore (s : Span) (b : Buffer) (cursor : Position) : Bool :=
  match s.shape with
  | .charwise => cursor.col == s.start.col
  | .linewise => decide (s.stop.line < b.lastLine)

/-- Putting what a deletion takes restores the buffer. -/
def Restored (s : Span) (b : Buffer) : Prop :=
  ∃ c r b', Operator.delete.run b s = .ok (some c) ∧ c.register = some r ∧ c.result b = .ok b' ∧
    ∃ put, (if s.returnsBefore b c.cursor then b'.putBefore c.cursor r 1
        else b'.putAfter c.cursor r 1) = .ok put ∧
      put.result b' = .ok b

variable {b : Buffer} {s : Span}

/-- Characters that were deleted go back to where the cursor stands, or behind it where it had to
step back from the end of the line. -/
theorem restored_of_charwise (h : b.Plain) (hs : s.Removable b) (hshape : s.shape = .charwise)
    (hne : s.isEmpty = false) : s.Restored b := by
  obtain ⟨start, stop, shape⟩ := s
  cases hshape
  obtain ⟨hstart, hstop⟩ : b.Contains start ∧ b.Contains stop := hs
  obtain ⟨i, c, rfl, hi, hc⟩ := hstart.exists_natCast
  obtain ⟨j, c', rfl, hj, hc'⟩ := hstop.exists_natCast
  have hlt := lt_of_isEmpty_eq_false hne
  obtain ⟨taken, ht, _, _⟩ := Buffer.textBetween_head h hlt hc hj hc'
  obtain ⟨b', hr, hi', hline, hback⟩ := Buffer.exists_replace_restored h hlt hj hc ht
  have hlen : c ≤ (b'.line i).length := by
    rw [hline, List.length_append, List.length_take, Nat.min_eq_left hc]
    exact Nat.le_add_right c _
  have hrun := Operator.run_delete_natCast hne hi hj ht
  rw [← hline, clampCol_natCast] at hrun
  refine ⟨_, _, b', hrun, rfl, hr, ?_⟩
  by_cases hcol : min c ((b'.line i).length - 1) = c
  · have hbefore : returnsBefore ⟨⟨i, c⟩, ⟨j, c'⟩, .charwise⟩ b
        ⟨i, (min c ((b'.line i).length - 1) : Nat)⟩ = true := by
      rw [hcol]
      exact beq_self_eq_true (c : Int)
    rw [if_pos hbefore, hcol]
    refine ⟨_, Buffer.putBefore_chars hi' hlen taken 1, ?_⟩
    rw [repeated_one]
    exact hback
  · have hafter : ¬ returnsBefore ⟨⟨i, c⟩, ⟨j, c'⟩, .charwise⟩ b
        ⟨i, (min c ((b'.line i).length - 1) : Nat)⟩ = true := by
      intro he
      exact hcol (Int.ofNat_inj.1 (eq_of_beq he))
    obtain ⟨k, rfl⟩ : ∃ k, c = k + 1 := Nat.exists_eq_add_one.2 (by omega)
    have hback' : min (k + 1) ((b'.line i).length - 1) = k := by omega
    rw [if_neg hafter, hback']
    refine ⟨_, Buffer.putAfter_chars hi' k taken 1, ?_⟩
    rw [repeated_one, Nat.min_eq_left hlen]
    exact hback

/-- Lines that were deleted go back above the line that followed them, or below the line before
them. -/
theorem restored_of_linewise (h : b.Plain) (hs : s.Removable b) (hshape : s.shape = .linewise)
    (hne : s.isEmpty = false) : s.Restored b := by
  obtain ⟨⟨top, col⟩, ⟨bottom, col'⟩, shape⟩ := s
  cases hshape
  obtain ⟨htop, hbottom, hall⟩ :
    0 ≤ top ∧ bottom < b.size ∧ ¬ (top = 0 ∧ bottom = b.lastLine) := hs
  have hle : top ≤ bottom := Int.not_lt.1 (of_decide_eq_false hne)
  obtain ⟨i, rfl⟩ := Int.eq_ofNat_of_zero_le htop
  obtain ⟨j, rfl⟩ := Int.eq_ofNat_of_zero_le (Int.le_trans htop hle)
  have hij : i ≤ j := Int.ofNat_le.1 hle
  have hj : j < b.size := Int.ofNat_lt.1 hbottom
  have hlast : b.lastLine = b.size - 1 := rfl
  have hbounds := Buffer.lineBounds_natCast hij hj col col' .linewise
  have hrun := Operator.delete.run_of_linewise b rfl hne
  obtain ⟨b', hr, hlines, _⟩ := Buffer.deleteLines_result h ⟨⟨i, col⟩, ⟨j, col'⟩, .linewise⟩
  have h' := h.of_result hr
  rw [hbounds] at hlines
  by_cases hbelow : j < b.lastLine
  · have hbefore : ∀ p, returnsBefore ⟨⟨i, col⟩, ⟨j, col'⟩, .linewise⟩ b p = true :=
      fun _ => decide_eq_true (Int.ofNat_lt.2 hbelow)
    have hnext : j + 1 < b.size := by omega
    rw [Buffer.without_of_lt hnext] at hlines
    rw [Operator.wholeLines, Buffer.deleteLines_of_lt hbounds hbelow] at hrun
    rw [Buffer.deleteLines_of_lt hbounds hbelow] at hr
    refine ⟨_, _, b', hrun, rfl, hr, ?_⟩
    rw [if_pos (hbefore _), Buffer.putBefore_lines, repeated_one]
    exact ⟨_, rfl, Buffer.replace_insert_above h h' hij hnext hlines⟩
  · have hafter : ∀ p, ¬ returnsBefore ⟨⟨i, col⟩, ⟨j, col'⟩, .linewise⟩ b p = true := by
      intro p he
      exact hbelow (Int.ofNat_lt.1 (of_decide_eq_true he))
    obtain ⟨k, rfl⟩ : ∃ k, i = k + 1 := Nat.exists_eq_add_one.2 (by omega)
    rw [Buffer.without_of_pos (Nat.succ_pos k) (by omega)] at hlines
    obtain ⟨hk, hline, hback⟩ := Buffer.replace_insert_below h h' hij (by omega) hlines
    rw [Operator.wholeLines, Buffer.deleteLines_of_pos hbounds hbelow (Nat.succ_pos k)] at hrun
    rw [Buffer.deleteLines_of_pos hbounds hbelow (Nat.succ_pos k)] at hr
    refine ⟨_, _, b', hrun, rfl, hr, ?_⟩
    rw [if_neg (hafter _), Nat.add_sub_cancel, Buffer.putAfter_lines hk, hline, repeated_one]
    exact ⟨_, rfl, hback⟩

theorem restored (h : b.Plain) (hs : s.Removable b) (hne : s.isEmpty = false) : s.Restored b := by
  cases hshape : s.shape with
  | charwise => exact restored_of_charwise h hs hshape hne
  | linewise => exact restored_of_linewise h hs hshape hne

end Span

namespace Document

variable {d : Document} {s : Span}

/-- Deleting a span that is not empty and not all the lines fills the register with what it takes.
From the cursor that the deletion leaves, putting the register restores the lines: before the cursor
where that stands where the characters began or where a line followed the lines, after it
otherwise. -/
theorem put_restores_deleted (h : d.buffer.Plain) (hs : s.Removable d.buffer)
    (hne : s.isEmpty = false) :
    ∃ c r d', Operator.delete.run d.buffer s = .ok (some c) ∧ c.register = some r ∧
      d.grant (.change c.edit c.cursor) = (d', none) ∧
      ∃ put d'', (if s.returnsBefore d.buffer d'.cursor then d'.buffer.putBefore d'.cursor r 1
          else d'.buffer.putAfter d'.cursor r 1) = .ok put ∧
        d'.grant (.change put.edit put.cursor) = (d'', none) ∧ d''.buffer = d.buffer := by
  obtain ⟨c, r, b', hrun, hreg, hr, put, hput, hback⟩ := Span.restored h hs hne
  refine ⟨c, r, _, hrun, hreg, grant_change hr, put, _, hput, grant_change hback, rfl⟩

theorem put_restores_deleted_at_ends :
    let d : Document := { buffer := .ofText "abc\nde".toList }
    (∃ c d' put d'', Operator.delete.run d.buffer ⟨⟨0, 1⟩, ⟨1, 2⟩, .charwise⟩ = .ok (some c) ∧
      d.grant (.change c.edit c.cursor) = (d', none) ∧
      d'.buffer.putAfter d'.cursor (.chars "bc\nde".toList) 1 = .ok put ∧
      d'.grant (.change put.edit put.cursor) = (d'', none) ∧ d''.buffer = d.buffer) ∧
    ∃ c d' put d'', Operator.delete.run d.buffer ⟨⟨1, 0⟩, ⟨1, 0⟩, .linewise⟩ = .ok (some c) ∧
      d.grant (.change c.edit c.cursor) = (d', none) ∧
      d'.buffer.putAfter d'.cursor (.lines ["de".toList]) 1 = .ok put ∧
      d'.grant (.change put.edit put.cursor) = (d'', none) ∧ d''.buffer = d.buffer := by
  intro d
  have hplain : d.buffer.Plain := Buffer.plain_ofText _
  constructor
  · obtain ⟨c, r, d', hrun, hr, hd', put, d'', hput, hd'', hback⟩ :=
      put_restores_deleted hplain (s := ⟨⟨0, 1⟩, ⟨1, 2⟩, .charwise⟩)
        ⟨by decide, by decide⟩ (by decide)
    cases hrun
    cases hr
    cases hd'
    exact ⟨_, _, put, d'', rfl, rfl, hput, hd'', hback⟩
  · obtain ⟨c, r, d', hrun, hr, hd', put, d'', hput, hd'', hback⟩ :=
      put_restores_deleted hplain (s := ⟨⟨1, 0⟩, ⟨1, 0⟩, .linewise⟩)
        ⟨by decide, by decide, by decide⟩ (by decide)
    cases hrun
    cases hr
    cases hd'
    exact ⟨_, _, put, d'', rfl, rfl, hput, hd'', hback⟩

end Document

end ModalEdit
