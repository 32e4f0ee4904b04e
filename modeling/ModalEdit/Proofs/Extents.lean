import ModalEdit.Motion.Basic
import ModalEdit.Proofs.Pairs

namespace ModalEdit

theorem settle_induction [DecidableEq α] {f : α → α} {P : α → Prop} {x : α} (h : P x)
    (hf : ∀ y, P y → P (f y)) (n : Nat) : P (settle f n x) := by
  induction n generalizing x with
  | zero => exact h
  | succ n ih =>
    rw [settle_succ]
    exact ih (hf x h)

namespace Grain

theorem headRun_le (g : Grain) (text : Line) : g.headRun text ≤ text.length := by
  cases text with
  | nil => exact Nat.le_refl 0
  | cons c rest => exact runLength_le _ _

theorem strideToNext_le (g : Grain) (ahead : Line) : g.strideToNext ahead ≤ ahead.length := by
  have hrun := g.headRun_le ahead
  have hblank := runLength_le isBlank (ahead.drop (g.headRun ahead))
  rw [List.length_drop] at hblank
  simp only [strideToNext]
  omega

theorem nextWord_le {g : Grain} {line : Line} {col : Nat} (h : col ≤ line.length) :
    g.nextWord line col ≤ line.length := by
  have hstride := g.strideToNext_le (line.drop col)
  rw [List.length_drop] at hstride
  simp only [nextWord]
  omega

theorem wordStart_le (g : Grain) (line : Line) (col : Nat) :
    g.wordStart line col ≤ line.length := by
  simp only [wordStart]
  omega

end Grain

theorem sentenceStartsFrom_lt {col start : Nat} {phase : Phase} {line : Line}
    (h : start ∈ sentenceStartsFrom col phase line) : start < col + line.length := by
  induction line generalizing col phase with
  | nil => exact absurd h List.not_mem_nil
  | cons c rest ih =>
    have hrest (hm : start ∈ sentenceStartsFrom (col + 1) (phase.next c) rest) :
        start < col + (c :: rest).length := by
      have := ih hm
      rw [List.length_cons]
      omega
    simp only [sentenceStartsFrom] at h
    split at h
    · rcases List.mem_cons.1 h with rfl | hm
      · exact Nat.lt_add_of_pos_right (Nat.succ_pos _)
      · exact hrest hm
    · exact hrest h

theorem sentenceStarts_lt {start : Nat} {line : Line} (h : start ∈ sentenceStarts line) :
    start < line.length := by
  have := sentenceStartsFrom_lt h
  rwa [Nat.zero_add] at this

theorem sentenceStarts_headD_le (line : Line) : (sentenceStarts line).headD 0 ≤ line.length := by
  cases h : sentenceStarts line with
  | nil => exact Nat.zero_le _
  | cons start rest =>
    have hm : start ∈ sentenceStarts line := by
      rw [h]
      exact List.mem_cons_self
    exact Nat.le_of_lt (sentenceStarts_lt hm)

theorem sentenceStarts_getLastD_le (line : Line) :
    (sentenceStarts line).getLastD 0 ≤ line.length - 1 := by
  cases h : sentenceStarts line with
  | nil => exact Nat.zero_le _
  | cons start rest =>
    have hm : (start :: rest).getLastD 0 ∈ sentenceStarts line := by
      rw [h, List.getLastD_cons]
      exact List.getLastD_mem_cons
    exact Nat.le_sub_one_of_lt (sentenceStarts_lt hm)

namespace Buffer

/-- A place of the buffer, as a line and a column. -/
def Holds (b : Buffer) (at' : Nat × Nat) : Prop :=
  at'.1 < b.size ∧ at'.2 ≤ (b.line at'.1).length

theorem Holds.contains {b : Buffer} {at' : Nat × Nat} (h : b.Holds at') :
    b.Contains ⟨at'.1, at'.2⟩ :=
  contains_natCast.2 h

theorem Holds.nextSentence {b : Buffer} {at' : Nat × Nat} (h : b.Holds at') :
    b.Holds (b.nextSentence at') := by
  obtain ⟨i, col⟩ := at'
  simp only [Buffer.nextSentence]
  split
  · rename_i start hs
    exact ⟨h.1, Nat.le_of_lt (sentenceStarts_lt (List.mem_of_find?_eq_some hs))⟩
  · split
    · rename_i hi
      refine ⟨?_, sentenceStarts_headD_le _⟩
      simp only [lastLine] at hi
      omega
    · exact ⟨h.1, Nat.le_refl _⟩

theorem Holds.previousSentence {b : Buffer} {at' : Nat × Nat} (h : b.Holds at') :
    b.Holds (b.previousSentence at') := by
  obtain ⟨i, col⟩ := at'
  simp only [Buffer.previousSentence]
  split
  · rename_i start hs
    have hm := List.mem_reverse.1 (List.mem_of_find?_eq_some hs)
    exact ⟨h.1, Nat.le_of_lt (sentenceStarts_lt hm)⟩
  · split
    · have hlast := sentenceStarts_getLastD_le (b.line (i - 1))
      exact ⟨Nat.lt_of_le_of_lt (Nat.sub_le i 1) h.1, Nat.le_trans hlast (Nat.sub_le _ 1)⟩
    · exact ⟨b.size_pos, Nat.zero_le _⟩

theorem boundaryBelow_lt (b : Buffer) (i n : Nat) : b.boundaryBelow i n < b.size := by
  unfold boundaryBelow
  split
  · rename_i k hk
    have hlt := nthIdx?_lt hk
    rw [List.length_drop] at hlt
    simp only [size]
    omega
  · exact b.lastLine_lt_size

theorem boundaryAbove_lt {b : Buffer} {i : Nat} (h : i < b.size) (n : Nat) :
    b.boundaryAbove i n < b.size := by
  unfold boundaryAbove
  split
  · omega
  · exact b.size_pos

end Buffer

theorem Spot.In.inside_cover {s : Spot} {b : Buffer} (h : s.In b) {first last : Nat}
    (hf : first ≤ s.text.length) (hl : last ≤ s.text.length) : (s.cover first last).Inside b := by
  intro _
  exact ⟨h.contains_at hf, h.contains_at hl⟩

namespace SearchKind

theorem eq_of_cover {first last first' last' : Int}
    (h : (if first < last then some (first, last) else none) = some (first', last')) :
    first' = first ∧ last' = last := by
  split at h
  · cases h
    exact ⟨rfl, rfl⟩
  · cases h

theorem cover?_bounds {kind : SearchKind} {line : Line} {col goal n : Nat} {target : List Char}
    {first last : Int} (hcol : col ≤ line.length - 1)
    (hg : kind.landing? line col target n = some goal)
    (hc : kind.cover? col goal = some (first, last)) :
    ∃ f l : Nat, first = f ∧ last = l ∧ f ≤ line.length ∧ l ≤ line.length := by
  cases kind with
  | find =>
    have hgoal := findAhead_gt hg
    obtain ⟨rfl, rfl⟩ := eq_of_cover hc
    exact ⟨col, goal + 1, rfl, rfl, by omega, by omega⟩
  | findBack =>
    have hgoal := findBehind_lt hg
    obtain ⟨rfl, rfl⟩ := eq_of_cover hc
    exact ⟨goal, col + 1, rfl, rfl, by omega, by omega⟩
  | till =>
    obtain ⟨found, hfound, rfl⟩ := Option.map_eq_some_iff.1 hg
    have hgoal := findAhead_gt hfound
    obtain ⟨rfl, rfl⟩ := eq_of_cover hc
    exact ⟨col, found, rfl, by omega, by omega, by omega⟩
  | tillBack =>
    obtain ⟨found, hfound, rfl⟩ := Option.map_eq_some_iff.1 hg
    have hgoal := findBehind_lt hfound
    obtain ⟨rfl, rfl⟩ := eq_of_cover hc
    exact ⟨found + 1, col, rfl, rfl, by omega, by omega⟩

end SearchKind

theorem Buffer.Contains.earlier {b : Buffer} {p q : Position} (hp : b.Contains p)
    (hq : b.Contains q) : b.Contains (p.earlier q) := by
  unfold Position.earlier
  split
  · exact hp
  · exact hq

theorem Buffer.Contains.later {b : Buffer} {p q : Position} (hp : b.Contains p)
    (hq : b.Contains q) : b.Contains (p.later q) := by
  unfold Position.later
  split
  · exact hq
  · exact hp

namespace Motion

theorem inside_landOnLine {b : Buffer} {s : Spot} {number : Int} {col : Option Int}
    {landing : Landing} {span : Span} (h : some (b.landOnLine s number col) = some landing)
    (hspan : landing.span = some span) : span.Inside b := by
  cases h
  simp only [Buffer.landOnLine, Option.some.injEq] at hspan
  subst hspan
  split
  · exact Span.inside_linewise _ _ _
  · exact Span.inside_linewise _ _ _

/-- What an operator takes from a motion lies in the buffer. Vertical motions take whole lines, so
their column may be any. -/
theorem inside_of_run {m : Motion} {b : Buffer} {pos : Position} {count : Option Int}
    {landing : Landing} {span : Span} (hpos : b.IsCell pos ∨ m = .up ∨ m = .down)
    (h : m.run b pos count = some landing) (hspan : landing.span = some span) :
    span.Inside b := by
  have hs : (b.locate pos).In b := b.in_locate pos
  have hcol : (b.locate pos).col ≤ (b.locate pos).text.length := hs.col_le
  unfold run at h
  generalize hspot : b.locate pos = s at hs hcol h
  cases m with
  | left =>
    cases h
    cases hspan
    exact hs.inside_cover (by omega) hcol
  | right =>
    cases h
    cases hspan
    exact hs.inside_cover hcol (Nat.min_le_right _ _)
  | up =>
    simp only at h
    split at h
    · cases h
    · cases h
      cases hspan
      exact Span.inside_linewise _ _ _
  | down =>
    simp only at h
    split at h
    · cases h
    · cases h
      cases hspan
      exact Span.inside_linewise _ _ _
  | nextWord g =>
    cases h
    cases hspan
    have hgoal := settle_induction (P := fun col => col ≤ s.text.length) hcol
      (fun _ => Grain.nextWord_le (g := g)) (times count)
    exact hs.inside_cover hcol hgoal
  | wordStart g =>
    cases h
    cases hspan
    have hgoal := settle_induction (P := fun col => col ≤ s.text.length) hcol
      (fun col _ => g.wordStart_le s.text col) (times count)
    exact hs.inside_cover hgoal hcol
  | wordEnd g =>
    cases h
    cases hspan
    exact hs.inside_cover hcol (Nat.min_le_right _ _)
  | changeWord g =>
    simp only at h
    split at h
    · cases h
      cases hspan
      exact hs.inside_cover hcol hcol
    · cases h
      cases hspan
      exact hs.inside_cover hcol (Nat.min_le_right _ _)
  | lineStart =>
    cases h
    cases hspan
    exact hs.inside_cover (Nat.zero_le _) hcol
  | firstNonBlank =>
    cases h
    cases hspan
    have hfirst := firstNonBlank_le s.text
    exact hs.inside_cover (by omega) (by omega)
  | lineEnd =>
    cases h
    cases hspan
    exact hs.inside_cover hcol (Nat.le_refl _)
  | lastLine => exact inside_landOnLine h hspan
  | firstLine => exact inside_landOnLine h hspan
  | line number col => exact inside_landOnLine h hspan
  | currentLine =>
    cases h
    cases hspan
    exact Span.inside_linewise _ _ _
  | partner =>
    simp only [Option.bind_eq_bind, Option.bind_eq_some_iff] at h
    obtain ⟨goal, hgoal, h⟩ := h
    cases h
    cases hspan
    obtain ⟨hlt, hgoal, hafter⟩ := Buffer.contains_partner hs hgoal
    split
    · exact fun _ => ⟨hgoal, hs.contains_at hlt⟩
    · exact fun _ => ⟨hs.contains_position, hafter⟩
  | paragraphBelow =>
    cases h
    cases hspan
    intro _
    refine ⟨hs.contains_position, Buffer.contains_natCast.2 ⟨b.boundaryBelow_lt _ _, ?_⟩⟩
    split
    · exact Nat.le_refl _
    · exact Nat.zero_le _
  | paragraphAbove =>
    cases h
    cases hspan
    have hlt := Buffer.boundaryAbove_lt hs.line_lt (times count)
    intro _
    exact ⟨Buffer.contains_natCast.2 ⟨hlt, Nat.zero_le _⟩, hs.contains_position⟩
  | sentenceAhead =>
    cases h
    cases hspan
    have hholds : b.Holds (s.line, s.col) := ⟨hs.line_lt, hs.text_eq ▸ hcol⟩
    have hgoal := settle_induction hholds (fun _ => Buffer.Holds.nextSentence) (times count)
    intro _
    exact ⟨hs.contains_position, hgoal.contains⟩
  | sentenceBehind =>
    cases h
    cases hspan
    have hholds : b.Holds (s.line, s.col) := ⟨hs.line_lt, hs.text_eq ▸ hcol⟩
    have hgoal := settle_induction hholds (fun _ => Buffer.Holds.previousSentence) (times count)
    intro _
    exact ⟨hgoal.contains, hs.contains_position⟩
  | search kind target =>
    simp only [Option.bind_eq_bind, Option.bind_eq_some_iff] at h
    obtain ⟨goal, hgoal, h⟩ := h
    cases h
    obtain ⟨⟨first, last⟩, hcover, hspan⟩ := Option.map_eq_some_iff.1 hspan
    cases hspan
    have hcell : s.col ≤ s.text.length - 1 := by
      rcases hpos with hpos | hpos | hpos
      · obtain ⟨i, c, rfl, hi, hc⟩ := hpos.exists_natCast
        rw [Buffer.locate_natCast hi (by omega)] at hspot
        cases hspot
        exact hc
      · cases hpos
      · cases hpos
    obtain ⟨f, l, rfl, rfl, hf, hl⟩ := SearchKind.cover?_bounds hcell hgoal hcover
    exact hs.inside_cover hf hl
  | place target =>
    cases h
    cases hspan
    have hgoal := b.contains_locate target
    intro _
    exact ⟨hs.contains_position.earlier hgoal, hs.contains_position.later hgoal⟩

end Motion

end ModalEdit
