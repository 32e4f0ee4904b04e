import ModalEdit.Command
import ModalEdit.Proofs.CommandChanges
import ModalEdit.Proofs.FlatEdits
import ModalEdit.Proofs.PutCopies

namespace ModalEdit

/-- What a text shows, its characters that are not blank. -/
def visible (text : List Char) : List Char :=
  text.filter fun c => !isBlank c

theorem visible_append (text text' : List Char) :
    visible (text ++ text') = visible text ++ visible text' :=
  List.filter_append _ _

theorem visible_trimStart (line : Line) : visible (trimStart line) = visible line := by
  induction line with
  | nil => rfl
  | cons c line ih =>
    by_cases hc : isBlank c = true
    · have hskip : visible (c :: line) = visible line :=
        List.filter_cons_of_neg (by rw [hc]; decide)
      rw [trimStart, List.dropWhile_cons_of_pos hc, hskip]
      exact ih
    · rw [trimStart, List.dropWhile_cons_of_neg hc]

theorem visible_joinLine (joined next : Line) :
    visible (joinLine joined next) = visible joined ++ visible next := by
  simp only [joinLine, visible_append, visible_trimStart]
  split
  · exact congrArg (· ++ visible next) (List.append_nil _)
  · exact congrArg (· ++ visible next) (List.append_nil _)

theorem visible_foldl_joinLine (head : Line) (following : List Line) :
    visible (following.foldl joinLine head) = visible head ++ visible following.flatten := by
  induction following generalizing head with
  | nil => exact (List.append_nil _).symm
  | cons next following ih =>
    rw [List.foldl_cons, ih, visible_joinLine, List.flatten_cons, visible_append, List.append_assoc]

theorem visible_joinLines (lines : List Line) :
    visible (joinLines lines) = visible lines.flatten := by
  induction lines with
  | nil => rfl
  | cons line rest ih =>
    rw [List.flatten_cons, visible_append, ← ih]
    by_cases hrest : rest = []
    · subst hrest
      exact (List.append_nil _).symm
    · rw [joinLines_cons_of_ne_nil line hrest, visible_append]
      rfl

namespace Buffer

variable {b : Buffer} {i k : Nat}

/-- A line with as many of the lines after it joined to it. -/
def joined (b : Buffer) (i k : Nat) : Line :=
  ((b.lines.drop (i + 1)).take k).foldl joinLine (b.line i)

/-- The buffer in which a line has taken in as many of the lines after it. -/
def merge (b : Buffer) (i k : Nat) : Buffer :=
  ⟨b.lines.take i ++ b.joined i k :: b.lines.drop (i + k + 1),
    List.append_ne_nil_of_right_ne_nil _ (List.cons_ne_nil _ _)⟩

theorem lines_merge (b : Buffer) (i k : Nat) :
    (b.merge i k).lines = b.lines.take i ++ b.joined i k :: b.lines.drop (i + k + 1) := rfl

theorem joined_succ (h : i + k + 1 < b.size) :
    b.joined i (k + 1) = joinLine (b.joined i k) (b.line (i + k + 1)) := by
  have hget : (b.lines.drop (i + 1))[k]? = some (b.line (i + k + 1)) := by
    rw [List.getElem?_drop, Nat.add_right_comm]
    exact lines_getElem? h
  rw [joined, List.take_add_one, hget, List.foldl_append]
  rfl

theorem exists_joined (h : b.Plain) (i k : Nat) :
    ∃ text, NewlineFree text ∧ b.joined i k = b.line i ++ text := by
  apply foldl_joinLine
  intro line hline
  exact h line (List.mem_of_mem_drop (List.mem_of_mem_take hline))

theorem merge_zero (hi : i < b.size) : b.merge i 0 = b := by
  apply eq_of_lines
  have hline : b.joined i 0 = b.line i := rfl
  rw [lines_merge, hline, Nat.add_zero, ← drop_eq_line_cons hi]
  exact List.take_append_drop i b.lines

theorem length_take_lines (h : i + k < b.size) : (b.lines.take i).length = i :=
  length_lines_take (Nat.lt_of_le_of_lt (Nat.le_add_right i k) h)

theorem line_merge (h : i + k < b.size) : (b.merge i k).line i = b.joined i k := by
  have hlines : (b.merge i k).lines =
      b.lines.take i ++ [b.joined i k] ++ b.lines.drop (i + k + 1) := List.append_cons _ _ _
  have hline := (line_of_lines_eq hlines).2
  rwa [length_take_lines h] at hline

theorem drop_merge (h : i + k < b.size) (n : Nat) :
    (b.merge i k).lines.drop (i + 1 + n) = b.lines.drop (i + k + 1 + n) := by
  have hskip : (b.merge i k).lines.drop (i + 1) = b.lines.drop (i + k + 1) := by
    have hlen : (b.lines.take i ++ [b.joined i k]).length = i + 1 := by
      rw [List.length_append, length_take_lines h, List.length_singleton]
    rw [lines_merge, List.append_cons, List.drop_left' hlen]
  rw [← List.drop_drop, hskip, List.drop_drop]

theorem take_merge (h : i + k < b.size) : (b.merge i k).lines.take i = b.lines.take i :=
  List.take_left' (length_take_lines h)

theorem size_merge (h : i + k < b.size) : (b.merge i k).size + k = b.size := by
  have hsize : (b.merge i k).size = i + (b.size - (i + k + 1) + 1) := by
    rw [size, lines_merge, List.length_append, length_take_lines h, List.length_cons,
      List.length_drop]
    rfl
  omega

theorem joined_merge (h : i + k + 1 < b.size) : (b.merge i k).joined i 1 = b.joined i (k + 1) := by
  have hk : i + k < b.size := Nat.lt_of_succ_lt h
  have hdrop : (b.merge i k).lines.drop (i + 1) = b.lines.drop (i + k + 1) := drop_merge hk 0
  rw [joined, hdrop, line_merge hk, joined_succ h, drop_eq_line_cons h]
  rfl

theorem merge_merge (h : i + k + 1 < b.size) : (b.merge i k).merge i 1 = b.merge i (k + 1) := by
  have hk : i + k < b.size := Nat.lt_of_succ_lt h
  apply eq_of_lines
  rw [lines_merge, take_merge hk, joined_merge h, drop_merge hk 1]
  rfl

theorem plain_merge (h : b.Plain) (i k : Nat) : (b.merge i k).Plain := by
  intro line hline
  rcases List.mem_append.1 hline with hline | hline
  · exact h line (List.mem_of_mem_take hline)
  · rcases List.mem_cons.1 hline with rfl | hline
    · obtain ⟨text, htext, hjoined⟩ := exists_joined h i k
      rw [hjoined]
      exact (h.newlineFree_line i).append htext
    · exact h line (List.mem_of_mem_drop hline)

theorem visible_text_merge (h : i + k < b.size) : visible (b.merge i k).text = visible b.text := by
  have hi : i < b.size := Nat.lt_of_le_of_lt (Nat.le_add_right i k) h
  have hrest : (b.lines.drop (i + 1)).take k ++ b.lines.drop (i + k + 1) =
      b.lines.drop (i + 1) := by
    rw [Nat.add_right_comm, ← List.drop_drop (i := k), List.take_append_drop]
  have hlines : b.lines = b.lines.take i ++ b.line i :: b.lines.drop (i + 1) := by
    rw [← drop_eq_line_cons hi, List.take_append_drop]
  calc visible (b.merge i k).text
      = visible (b.lines.take i).flatten ++
          (visible (b.joined i k) ++ visible (b.lines.drop (i + k + 1)).flatten) := by
        simp only [text, merge, visible_joinLines, List.flatten_append, List.flatten_cons,
          visible_append]
    _ = visible (b.lines.take i).flatten ++
          (visible (b.line i) ++ visible (b.lines.drop (i + 1)).flatten) := by
        rw [joined, visible_foldl_joinLine, List.append_assoc, ← visible_append,
          ← List.flatten_append, hrest]
    _ = visible (b.lines.take i ++ b.line i :: b.lines.drop (i + 1)).flatten := by
        simp only [List.flatten_append, List.flatten_cons, visible_append]
    _ = visible b.text := by
        rw [← hlines, text, visible_joinLines]

/-- The edit of a join makes one line of those that are joined. -/
theorem replace_joined (h : b.Plain) (hk : i + k < b.size) :
    b.replace ⟨⟨i, (b.line i).length⟩, ⟨(i + k : Nat), (b.line (i + k)).length⟩,
      (b.joined i k).drop (b.line i).length⟩ = .ok (b.merge i k) := by
  obtain ⟨text, htext, hjoined⟩ := exists_joined h i k
  obtain ⟨b', hr, hlines, _⟩ := replace_inline (b.line i).length (b.line (i + k)).length h
    (Nat.le_add_right i k) hk htext
  rw [hjoined, List.drop_left, hr]
  apply congrArg Except.ok
  apply eq_of_lines
  rw [hlines, List.take_length, List.drop_length, List.append_nil, ← hjoined]
  rfl

/-- How many lines there are to join to a line, if so many may be joined in all. -/
def joinable (b : Buffer) (i n : Nat) : Nat :=
  min (n - 1) (b.lastLine - i)

theorem add_joinable_lt (hi : i < b.size) (n : Nat) : i + b.joinable i n < b.size := by
  have := b.lastLine_lt_size
  unfold joinable
  unfold lastLine at *
  omega

theorem joinFrom_eq {n : Nat} (hi : i < b.size) (hn : 2 ≤ n) :
    b.joinFrom i n =
      match b.joinable i n with
      | 0 => .ok none
      | k + 1 =>
        .ok (some ⟨⟨i, clampCol (b.joined i (k + 1)).length (b.joined i k).length⟩,
          some ⟨⟨i, (b.line i).length⟩,
            ⟨(i + (k + 1) : Nat), (b.line (i + (k + 1))).length⟩,
            (b.joined i (k + 1)).drop (b.line i).length⟩, none, false⟩) := by
  have hlt := add_joinable_lt hi n
  have hlast : min ((i : Int) + max (n : Int) 2 - 1) b.lastLine = (i + b.joinable i n : Nat) := by
    have := b.lastLine_lt_size
    unfold joinable
    unfold lastLine at *
    omega
  cases hk : b.joinable i n with
  | zero =>
    rw [hk, Nat.add_zero] at hlast
    simp only [joinFrom, hlast, if_true]
    rfl
  | succ k =>
    rw [hk] at hlast hlt
    have hne : ¬ ((i + (k + 1) : Nat) : Int) = i := by omega
    have hcount : (((i + (k + 1) : Nat) : Int) - i).toNat = k + 1 := by omega
    have hfirst : ((i : Int) + 1).toNat = i + 1 := rfl
    have hlen : k + 1 ≤ (b.lines.drop (i + 1)).length := by
      rw [List.length_drop]
      change k + 1 ≤ b.size - (i + 1)
      omega
    have hbefore : ((b.lines.drop (i + 1)).take (k + 1)).dropLast =
        (b.lines.drop (i + 1)).take k := by
      rw [List.dropLast_eq_take, List.take_take, List.length_take]
      congr 1
      omega
    simp only [joinFrom, hlast, hne, if_false, lineAt_natCast hi, bind, Except.bind, hcount, hfirst,
      hbefore, Int.toNat_natCast]
    rfl

end Buffer

namespace Document

variable {d : Document} {i k n : Nat}

/-- Joins lines of the document, which stays as it is where there is nothing to join. -/
def join (d : Document) (i n : Nat) : Except Fault Document := do
  match ← d.buffer.joinFrom i n with
  | none => .ok d
  | some change =>
    match d.grant (.change change.edit change.cursor) with
    | (d, none) => .ok d
    | (_, some f) => .error f

/-- Joins one more line, as many times as is asked. -/
def joinPairs (d : Document) (i : Nat) : Nat → Except Fault Document
  | 0 => .ok d
  | m + 1 => do (← d.joinPairs i m).join i 2

/-- The document in which a line has taken in as many of the lines after it, the cursor at the last
seam. -/
def merged (d : Document) (i : Nat) : Nat → Document
  | 0 => d
  | k + 1 =>
    { d with
      buffer := d.buffer.merge i (k + 1)
      cursor := ⟨i, clampCol (d.buffer.joined i (k + 1)).length (d.buffer.joined i k).length⟩
      selection := none
      history := (d.buffer, d.cursor) :: d.history }

theorem buffer_merged (hi : i < d.buffer.size) (k : Nat) :
    (d.merged i k).buffer = d.buffer.merge i k := by
  cases k with
  | zero => exact (Buffer.merge_zero hi).symm
  | succ k => rfl

theorem join_eq (h : d.buffer.Plain) (hi : i < d.buffer.size) (hn : 2 ≤ n) :
    d.join i n = .ok (d.merged i (d.buffer.joinable i n)) := by
  have hlt := Buffer.add_joinable_lt hi n
  unfold join
  rw [Buffer.joinFrom_eq hi hn]
  cases hk : d.buffer.joinable i n with
  | zero => rfl
  | succ k =>
    rw [hk] at hlt
    have hmade : d.Makes (.ok ⟨_, some _, none, false⟩) (d.buffer.merge i (k + 1))
        ⟨i, clampCol (d.buffer.joined i (k + 1)).length (d.buffer.joined i k).length⟩ :=
      makes_edit (Buffer.replace_joined h hlt)
    obtain ⟨change, hchange, hgrant⟩ := hmade
    cases hchange
    simp only [bind, Except.bind, hgrant]
    rfl

/-- One more line joined after some is as all of them joined at once, but for the states that can
be gone back to. -/
theorem merged_merged (hk : i + k + 1 < d.buffer.size) (history : List (Buffer × Position)) :
    ∃ history', merged { d.merged i k with history } i 1 =
      { d.merged i (k + 1) with history := history' } := by
  have hk' : i + k < d.buffer.size := Nat.lt_of_succ_lt hk
  have hbuffer := buffer_merged (Nat.lt_of_le_of_lt (Nat.le_add_right i k) hk') k
  have hview : (d.merged i k).viewport = d.viewport := by
    cases k <;> rfl
  have hseam : (d.buffer.merge i k).joined i 0 = d.buffer.joined i k := Buffer.line_merge hk'
  generalize d.merged i k = before at hbuffer hview ⊢
  refine ⟨(before.buffer, before.cursor) :: history, ?_⟩
  simp only [merged, hbuffer, hview, Nat.zero_add, Buffer.merge_merge hk, Buffer.joined_merge hk,
    hseam]

theorem join_merged (h : d.buffer.Plain) (hk : i + k < d.buffer.size)
    (history : List (Buffer × Position)) :
    ∃ history', join { d.merged i k with history } i 2 =
      .ok { d.merged i (min (k + 1) (d.buffer.lastLine - i)) with history := history' } := by
  have hi : i < d.buffer.size := Nat.lt_of_le_of_lt (Nat.le_add_right i k) hk
  have hbuffer := buffer_merged hi k
  have hplain : (d.merged i k).buffer.Plain := hbuffer ▸ Buffer.plain_merge h i k
  have hline : i < (d.merged i k).buffer.size := by
    have hsize := Buffer.size_merge hk
    rw [hbuffer]
    omega
  have hleft : (d.merged i k).buffer.joinable i 2 = min 1 (d.buffer.lastLine - i - k) := by
    have hsize := Buffer.size_merge hk
    rw [hbuffer, Buffer.joinable, Buffer.lastLine, Buffer.lastLine]
    omega
  have hjoin : join { d.merged i k with history } i 2 = _ := join_eq hplain hline (Nat.le_refl 2)
  rw [hjoin]
  simp only [hleft]
  have hlast := d.buffer.lastLine_lt_size
  rcases Nat.lt_or_ge k (d.buffer.lastLine - i) with hmore | hnone
  · rw [Nat.min_eq_left hmore, Nat.min_eq_left (by omega)]
    obtain ⟨history', hmerged⟩ := merged_merged (d := d) (i := i) (k := k) (by omega) history
    exact ⟨history', congrArg _ hmerged⟩
  · have hend : k = d.buffer.lastLine - i := by
      rw [Buffer.lastLine] at hnone ⊢
      omega
    rw [Nat.min_eq_right (Nat.le_succ_of_le hnone), ← hend, Nat.sub_self, Nat.min_zero]
    exact ⟨history, rfl⟩

theorem joinPairs_eq (h : d.buffer.Plain) (hi : i < d.buffer.size) (m : Nat) :
    ∃ history, d.joinPairs i m =
      .ok { d.merged i (min m (d.buffer.lastLine - i)) with history } := by
  induction m with
  | zero =>
    rw [Nat.zero_min]
    exact ⟨d.history, rfl⟩
  | succ m ih =>
    obtain ⟨history, ih⟩ := ih
    have hlast := d.buffer.lastLine_lt_size
    have hlt : i + min m (d.buffer.lastLine - i) < d.buffer.size := by omega
    obtain ⟨history', hjoin⟩ := join_merged h hlt history
    have hcount : min (min m (d.buffer.lastLine - i) + 1) (d.buffer.lastLine - i) =
        min (m + 1) (d.buffer.lastLine - i) := by
      omega
    rw [hcount] at hjoin
    refine ⟨history', ?_⟩
    rw [joinPairs, ih]
    exact hjoin

/-- Joining so many lines at once is joining one more line as many times less one: buffer, cursor,
selection and view are the same. The lines that are joined make one line, which begins with the
first of them; all other lines stay, and of the text nothing but blanks changes. -/
theorem join_one_by_one (h : d.buffer.Plain) (hi : i < d.buffer.size) (hn : 2 ≤ n) :
    let taken := min (n - 1) (d.buffer.lastLine - i)
    ∃ d' history, d.join i n = .ok d' ∧ d.joinPairs i (n - 1) = .ok { d' with history } ∧
      d'.buffer.lines = d.buffer.lines.take i ++ d'.buffer.line i ::
        d.buffer.lines.drop (i + taken + 1) ∧
      d'.buffer.size + taken = d.buffer.size ∧ d.buffer.line i <+: d'.buffer.line i ∧
      visible d'.buffer.text = visible d.buffer.text := by
  intro taken
  have hlt : i + taken < d.buffer.size := Buffer.add_joinable_lt hi n
  have hjoin : d.join i n = .ok (d.merged i taken) := join_eq h hi hn
  obtain ⟨history, hpairs⟩ := joinPairs_eq h hi (n - 1)
  have hbuffer := buffer_merged hi taken
  have hline : (d.merged i taken).buffer.line i = d.buffer.joined i taken := by
    rw [hbuffer]
    exact Buffer.line_merge hlt
  refine ⟨d.merged i taken, history, hjoin, hpairs, ?_, ?_, ?_, ?_⟩
  · rw [hline, hbuffer]
    rfl
  · rw [hbuffer]
    exact Buffer.size_merge hlt
  · obtain ⟨text, _, hjoined⟩ := Buffer.exists_joined h i taken
    rw [hline, hjoined]
    exact List.prefix_append _ _
  · rw [hbuffer]
    exact Buffer.visible_text_merge hlt

theorem join_one_by_one_indented :
    let d : Document := { buffer := .ofText "f(a,\n\n  b\n  )\nend".toList }
    ∃ d' history, d.join 0 4 = .ok d' ∧ d.joinPairs 0 3 = .ok { d' with history } ∧
      d'.buffer.lines = ["f(a, b)".toList, "end".toList] := by
  intro d
  have hplain : d.buffer.Plain := Buffer.plain_ofText _
  obtain ⟨d', history, hjoin, hpairs, -⟩ :=
    join_one_by_one hplain (i := 0) (n := 4) (by decide) (by decide)
  have hlines : (d.join 0 4).map (·.buffer.lines) = .ok ["f(a, b)".toList, "end".toList] := rfl
  rw [hjoin] at hlines
  exact ⟨d', history, hjoin, hpairs, Except.ok.inj hlines⟩

end Document

end ModalEdit
