import ModalEdit.Document
import ModalEdit.Proofs.FlatText
import ModalEdit.Proofs.OperatorChanges

namespace ModalEdit

theorem joinLines_append {before after : List Line} (hbefore : before ≠ []) (hafter : after ≠ []) :
    joinLines (before ++ after) = joinLines before ++ '\n' :: joinLines after := by
  induction before with
  | nil => contradiction
  | cons line rest ih =>
    cases rest with
    | nil => exact joinLines_cons_of_ne_nil line hafter
    | cons next rest =>
      have hne : next :: rest ≠ [] := List.cons_ne_nil next rest
      rw [List.cons_append, joinLines_cons_of_ne_nil line (List.append_ne_nil_of_left_ne_nil hne _),
        ih hne, joinLines_cons_of_ne_nil line hne, List.append_assoc]
      rfl

/-- Two texts meet within a line. -/
theorem joinLines_seam (before after : List Line) (left right : Line) :
    joinLines (before ++ [left]) ++ joinLines (right :: after) =
      joinLines (before ++ (left ++ right) :: after) := by
  have hline : left ++ joinLines (right :: after) = joinLines ((left ++ right) :: after) := by
    cases after with
    | nil => rfl
    | cons next after =>
      rw [joinLines_cons_of_ne_nil right (List.cons_ne_nil next after),
        joinLines_cons_of_ne_nil (left ++ right) (List.cons_ne_nil next after), List.append_assoc]
  by_cases hbefore : before = []
  · subst hbefore
    exact hline
  · rw [joinLines_append hbefore (List.cons_ne_nil left []),
      joinLines_append hbefore (List.cons_ne_nil (left ++ right) after), joinLines_singleton,
      List.append_assoc, List.cons_append, hline]

theorem joinLines_append_splitLines (before after : List Line) (text : List Char) :
    joinLines (before ++ splitLines text ++ after) = joinLines (before ++ text :: after) := by
  have hsplit := splitLines_ne_nil text
  have hrest : joinLines (splitLines text ++ after) = joinLines (text :: after) := by
    by_cases hafter : after = []
    · rw [hafter, List.append_nil, joinLines_splitLines, joinLines_singleton]
    · rw [joinLines_append hsplit hafter, joinLines_splitLines,
        joinLines_cons_of_ne_nil text hafter]
  by_cases hbefore : before = []
  · rw [hbefore, List.nil_append]
    exact hrest
  · have hne := List.append_ne_nil_of_left_ne_nil hsplit after
    rw [List.append_assoc, joinLines_append hbefore hne, hrest,
      joinLines_append hbefore (List.cons_ne_nil text after)]

theorem length_joinLines_take {lines : List Line} (offset : Nat) {i c : Nat} (hi : i < lines.length)
    (hc : c ≤ (lines.getD i []).length) :
    offset + (joinLines (lines.take i ++ [(lines.getD i []).take c])).length =
      (startsFrom offset lines).getD i 0 + c := by
  induction lines generalizing offset i with
  | nil => exact absurd hi (Nat.not_lt_zero i)
  | cons line rest ih =>
    cases i with
    | zero =>
      rw [List.getD_cons_zero] at hc
      simp only [List.take_zero, List.nil_append, joinLines_singleton, List.getD_cons_zero,
        List.length_take, Nat.min_eq_left hc, startsFrom]
    | succ i =>
      have hrest := ih (offset + line.length + 1) (Nat.lt_of_succ_lt_succ hi) hc
      have hne : rest.take i ++ [(rest.getD i []).take c] ≠ [] :=
        List.append_ne_nil_of_right_ne_nil _ (List.cons_ne_nil _ _)
      simp only [startsFrom, List.getD_cons_succ, List.take_succ_cons, List.cons_append,
        length_joinLines_cons line hne, ← hrest]
      omega

namespace Buffer

variable {b : Buffer} {i c j d : Nat}

/-- The text up to a place. -/
def textBefore (b : Buffer) (i c : Nat) : List Char :=
  joinLines (b.lines.take i ++ [(b.line i).take c])

/-- The text from a place on. -/
def textAfter (b : Buffer) (i c : Nat) : List Char :=
  joinLines ((b.line i).drop c :: b.lines.drop (i + 1))

theorem textBefore_lineStart (b : Buffer) (i : Nat) :
    b.textBefore i 0 = joinLines (b.lines.take i ++ [[]]) := by
  rw [textBefore, List.take_zero]

theorem textBefore_lineEnd (hi : i < b.size) :
    b.textBefore i (b.line i).length = joinLines (b.lines.take (i + 1)) := by
  rw [textBefore, List.take_length, take_eq_concat_line hi]

theorem textBefore_append_textAfter (hi : i < b.size) (c : Nat) :
    b.textBefore i c ++ b.textAfter i c = b.text := by
  rw [textBefore, textAfter, joinLines_seam, List.take_append_drop, ← drop_eq_line_cons hi,
    List.take_append_drop, text]

theorem length_textBefore (hi : i < b.size) (hc : c ≤ (b.line i).length) :
    (b.textBefore i c).length = b.offset i c := by
  have h := length_joinLines_take 0 hi hc
  rwa [Nat.zero_add] at h

theorem take_offset (hi : i < b.size) (hc : c ≤ (b.line i).length) :
    b.text.take (b.offset i c) = b.textBefore i c := by
  rw [← length_textBefore hi hc, ← textBefore_append_textAfter hi c, List.take_left]

theorem drop_offset (hi : i < b.size) (hc : c ≤ (b.line i).length) :
    b.text.drop (b.offset i c) = b.textAfter i c := by
  rw [← length_textBefore hi hc, ← textBefore_append_textAfter hi c, List.drop_left]

theorem offsetIn_natCast (hi : i < b.size) (c : Nat) :
    offsetIn b.starts ⟨i, c⟩ = .ok (b.offset i c : Nat) := by
  have hi' : i < b.starts.length := b.length_starts.symm ▸ hi
  simp only [offsetIn, pick?_natCast, List.getElem?_eq_getElem hi', offset,
    List.getD_eq_getElem _ _ hi', Int.natCast_add]

theorem take_eq_append_inner (hij : i < j) (hj : j < b.size) :
    b.lines.take j = b.lines.take i ++ b.line i :: b.inner i j := by
  have hcount : j = i + 1 + (j - i - 1) := by omega
  rw [inner, hcount, List.take_add, take_eq_concat_line (Nat.lt_trans hij hj), ← hcount,
    List.append_assoc]
  rfl

theorem exists_textBetween_append (h : i < j ∨ i = j ∧ c ≤ d) (hj : j < b.size)
    (hc : c ≤ (b.line i).length) :
    ∃ taken, b.textBetween ⟨i, c⟩ ⟨j, d⟩ = .ok taken ∧
      b.textBefore i c ++ taken = b.textBefore j d := by
  rcases h with hij | ⟨rfl, hcd⟩
  · refine ⟨_, textBetween_lines c d hij hj, ?_⟩
    rw [textBefore, joinLines_seam, List.take_append_drop, textBefore, take_eq_append_inner hij hj,
      List.append_assoc, List.cons_append]
  · have htake : (b.line i).take c ++ ((b.line i).take d).drop c = (b.line i).take d := by
      rw [← Nat.min_eq_left hcd, ← List.take_take, Nat.min_eq_left hcd, List.take_append_drop]
    refine ⟨_, textBetween_same d hj hc, ?_⟩
    rw [textBefore, ← joinLines_singleton (((b.line i).take d).drop c), joinLines_seam, htake,
      textBefore]

theorem slice_eq {taken : List Char} (hi : i < b.size) (hj : j < b.size)
    (hc : c ≤ (b.line i).length) (hd : d ≤ (b.line j).length)
    (h : b.textBefore i c ++ taken = b.textBefore j d) :
    (b.text.take (b.offset j d)).drop (b.offset i c) = taken := by
  rw [take_offset hj hd, ← h, ← length_textBefore hi hc, List.drop_left]

theorem offset_le_offset (h : i < j ∨ i = j ∧ c ≤ d) (hj : j < b.size)
    (hc : c ≤ (b.line i).length) (hd : d ≤ (b.line j).length) : b.offset i c ≤ b.offset j d := by
  obtain ⟨taken, _, hbefore⟩ := exists_textBetween_append h hj hc
  have hi : i < b.size := by omega
  rw [← length_textBefore hi hc, ← length_textBefore hj hd, ← hbefore, List.length_append]
  exact Nat.le_add_right _ _

/-- Places are read in the order of their offsets. -/
theorem StandsAt.le_iff {p q : Position} {k l : Nat} (hp : b.StandsAt p k) (hq : b.StandsAt q l) :
    p ≤ q ↔ k ≤ l := by
  obtain ⟨hp, rfl⟩ := hp
  obtain ⟨hq, rfl⟩ := hq
  obtain ⟨i, c, rfl, hi, hc⟩ := hp.exists_natCast
  obtain ⟨j, d, rfl, hj, hd⟩ := hq.exists_natCast
  simp only [Int.toNat_natCast]
  constructor
  · intro h
    exact offset_le_offset (Position.natCast_le.1 h) hj hc hd
  · intro h
    rcases Position.le_total ⟨i, c⟩ ⟨j, d⟩ with hpq | hqp
    · exact hpq
    · -- The offsets are equal, so the places are the same.
      have heq := Nat.le_antisymm h (offset_le_offset (Position.natCast_le.1 hqp) hi hd hc)
      rw [← positionAt_offset hi hc, ← positionAt_offset hj hd, heq]
      exact Position.le_refl _

theorem StandsAt.lt_iff {p q : Position} {k l : Nat} (hp : b.StandsAt p k) (hq : b.StandsAt q l) :
    p < q ↔ k < l :=
  (not_congr (hq.le_iff hp)).trans Nat.not_le

theorem Plain.ofText_text (h : b.Plain) : ofText b.text = b := by
  obtain ⟨lines, hne⟩ := b
  simp only [ofText, text, mk.injEq]
  exact splitLines_joinLines hne h

/-- An edit writes its text between the text before it and the text after it. -/
theorem replace_eq_ofText (h : b.Plain) (hij : i ≤ j) (hj : j < b.size) (text : List Char) :
    b.replace ⟨⟨i, c⟩, ⟨j, d⟩, text⟩ =
      .ok (ofText (b.textBefore i c ++ text ++ b.textAfter j d)) := by
  obtain ⟨b', hr, hlines⟩ := replace_natCast c d text hij hj
  have htext : b'.text = b.textBefore i c ++ text ++ b.textAfter j d := by
    have hleft : b.textBefore i c ++ text =
        joinLines (b.lines.take i ++ [(b.line i).take c ++ text]) := by
      rw [textBefore, ← joinLines_singleton text, joinLines_seam, joinLines_singleton]
    rw [Buffer.text, hlines, joinLines_append_splitLines, hleft, textAfter, joinLines_seam]
  rw [hr, ← htext, (h.of_replace hr).ofText_text]

section StandsAt

variable {p q : Position} {k l : Nat}

theorem StandsAt.textBetween (hp : b.StandsAt p k) (hq : b.StandsAt q l) (h : p ≤ q) :
    b.textBetween p q = .ok ((b.text.take l).drop k) := by
  obtain ⟨hp, rfl⟩ := hp
  obtain ⟨hq, rfl⟩ := hq
  obtain ⟨i, c, rfl, hi, hc⟩ := hp.exists_natCast
  obtain ⟨j, d, rfl, hj, hd⟩ := hq.exists_natCast
  obtain ⟨taken, ht, hbefore⟩ := exists_textBetween_append (Position.natCast_le.1 h) hj hc
  rw [ht]
  exact congrArg _ (slice_eq hi hj hc hd hbefore).symm

theorem StandsAt.replace (hp : b.StandsAt p k) (hq : b.StandsAt q l) (hb : b.Plain) (h : p ≤ q)
    (text : List Char) :
    b.replace ⟨p, q, text⟩ = .ok (ofText (b.text.take k ++ text ++ b.text.drop l)) := by
  obtain ⟨hp, rfl⟩ := hp
  obtain ⟨hq, rfl⟩ := hq
  obtain ⟨i, c, rfl, hi, hc⟩ := hp.exists_natCast
  obtain ⟨j, d, rfl, hj, hd⟩ := hq.exists_natCast
  have hij : i ≤ j := by
    rcases Position.natCast_le.1 h with hlt | ⟨rfl, _⟩
    · exact Nat.le_of_lt hlt
    · exact Nat.le_refl i
  have hbefore : b.text.take (b.offset i c) = b.textBefore i c := take_offset hi hc
  have hafter : b.text.drop (b.offset j d) = b.textAfter j d := drop_offset hj hd
  rw [replace_eq_ofText hb hij hj, ← hbefore, ← hafter]
  rfl

end StandsAt

theorem textBefore_append_block {top bottom : Nat} (hle : top ≤ bottom) (htop : top < b.size)
    (rest : List Line) :
    b.textBefore top 0 ++ joinLines (b.block top bottom ++ rest) =
      joinLines (b.lines.take (bottom + 1) ++ rest) := by
  rw [← take_append_block hle, block_eq_cons hle htop, textBefore_lineStart, List.cons_append,
    joinLines_seam, List.nil_append, List.append_assoc, List.cons_append]

/-- From the start of a block to the start of the line below it stand its lines and a line break. -/
theorem slice_block_below {top bottom : Nat} (hle : top ≤ bottom) (h : bottom + 1 < b.size) :
    (b.text.take (b.offset (bottom + 1) 0)).drop (b.offset top 0) =
      joinLines (b.block top bottom) ++ ['\n'] := by
  have htop : top < b.size := by omega
  apply slice_eq htop h (Nat.zero_le _) (Nat.zero_le _)
  have hblock := textBefore_append_block hle htop [[]]
  rw [joinLines_append (block_ne_nil hle htop) (List.cons_ne_nil _ _)] at hblock
  rw [textBefore_lineStart b (bottom + 1)]
  exact hblock

theorem slice_block {top bottom : Nat} (hle : top ≤ bottom) (h : bottom < b.size) :
    (b.text.take (b.offset bottom (b.line bottom).length)).drop (b.offset top 0) =
      joinLines (b.block top bottom) := by
  have htop : top < b.size := Nat.lt_of_le_of_lt hle h
  apply slice_eq htop h (Nat.zero_le _) (Nat.le_refl _)
  have hblock := textBefore_append_block hle htop []
  rw [List.append_nil, List.append_nil] at hblock
  rw [hblock, textBefore_lineEnd h]

end Buffer

namespace Document

variable {d : Document} {p q : Position}

/-- The text between two places of a plain buffer is the slice of the flat text between their
offsets. An edit there succeeds, puts its text in place of that slice, and leaves the lines that the
new text splits into. -/
theorem edits_splice_text (h : d.buffer.Plain) (hp : d.buffer.Contains p) (hq : d.buffer.Contains q)
    (hpq : p ≤ q) :
    ∃ first last : Nat, offsetIn d.buffer.starts p = .ok first ∧
      offsetIn d.buffer.starts q = .ok last ∧ first ≤ last ∧ last ≤ d.buffer.text.length ∧
      d.buffer.textBetween p q = .ok ((d.buffer.text.take last).drop first) ∧
      ∀ text, ∃ b, d.replace ⟨p, q, text⟩ = ({ d.remember with buffer := b }, none) ∧
        b.text = d.buffer.text.take first ++ text ++ d.buffer.text.drop last ∧
        b.lines = splitLines b.text := by
  obtain ⟨i, c, rfl, hi, hc⟩ := hp.exists_natCast
  obtain ⟨j, c', rfl, hj, hc'⟩ := hq.exists_natCast
  have hle : i < j ∨ i = j ∧ c ≤ c' := by
    have hle : (i : Int) < j ∨ (i : Int) = j ∧ (c : Int) ≤ c' := hpq
    omega
  have hij : i ≤ j := by omega
  obtain ⟨taken, ht, hbefore⟩ := Buffer.exists_textBetween_append hle hj hc
  have hfirst : (d.buffer.textBefore i c).length = d.buffer.offset i c :=
    Buffer.length_textBefore hi hc
  have hlast : (d.buffer.textBefore j c').length = d.buffer.offset j c' :=
    Buffer.length_textBefore hj hc'
  refine ⟨d.buffer.offset i c, d.buffer.offset j c', Buffer.offsetIn_natCast hi c,
    Buffer.offsetIn_natCast hj c', ?_, Buffer.offset_le hj hc', ?_, ?_⟩
  · rw [← hfirst, ← hlast, ← hbefore, List.length_append]
    exact Nat.le_add_right _ _
  · rw [ht, Buffer.take_offset hj hc', ← hbefore, ← hfirst, List.drop_left]
  · intro text
    refine ⟨_, ?_, Buffer.text_ofText _, ?_⟩
    · rw [Buffer.take_offset hi hc, Buffer.drop_offset hj hc']
      simp only [replace, Buffer.replace_eq_ofText h hij hj]
    · rw [Buffer.text_ofText]
      rfl

theorem edits_splice_text_across_lines :
    let d : Document := { buffer := .ofText "abc\ndef".toList }
    d.buffer.textBetween ⟨0, 2⟩ ⟨1, 1⟩ = .ok "c\nd".toList ∧
      ∃ b, d.replace ⟨⟨0, 2⟩, ⟨1, 1⟩, "x\n\ny".toList⟩ = ({ d.remember with buffer := b }, none) ∧
        b.lines = ["abx".toList, [], "yef".toList] := by
  intro d
  have hplain : d.buffer.Plain := Buffer.plain_ofText _
  obtain ⟨first, last, hfirst, hlast, _, _, hbetween, hreplace⟩ :=
    edits_splice_text hplain (p := ⟨0, 2⟩) (q := ⟨1, 1⟩) (by decide) (by decide) (by decide)
  obtain rfl : first = 2 := by
    have hfirst' : offsetIn d.buffer.starts ⟨0, 2⟩ = .ok (2 : Nat) := rfl
    rw [hfirst'] at hfirst
    cases hfirst
    rfl
  obtain rfl : last = 5 := by
    have hlast' : offsetIn d.buffer.starts ⟨1, 1⟩ = .ok (5 : Nat) := rfl
    rw [hlast'] at hlast
    cases hlast
    rfl
  obtain ⟨b, hb, htext, hlines⟩ := hreplace "x\n\ny".toList
  refine ⟨hbetween, b, hb, ?_⟩
  rw [hlines, htext]
  rfl

end Document

end ModalEdit
