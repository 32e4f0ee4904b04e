import ModalEdit.Proofs.MotionSteps

namespace ModalEdit

namespace Position

theorem le_after {p q : Position} (h : p ≤ q) : p ≤ ⟨q.line, q.col + 1⟩ := by
  simp only [le_iff] at *
  omega

theorem earlier_le_left (p q : Position) : p.earlier q ≤ p := by
  unfold earlier
  split
  · exact p.le_refl
  · rename_i h
    exact (p.le_total q).resolve_left h

theorem le_later_left (p q : Position) : p ≤ p.later q := by
  unfold later
  split
  · assumption
  · exact p.le_refl

end Position

namespace Grain

theorem le_nextWord (g : Grain) (line : Line) (col : Nat) : col ≤ g.nextWord line col :=
  Nat.le_add_right _ _

theorem le_nextWords (g : Grain) (line : Line) (n col : Nat) :
    col ≤ settle (g.nextWord line) n col :=
  settle_induction (P := fun goal => col ≤ goal) (Nat.le_refl col)
    (fun goal h => Nat.le_trans h (g.le_nextWord line goal)) n

theorem wordStart_le_self (g : Grain) (line : Line) (col : Nat) : g.wordStart line col ≤ col :=
  Nat.le_trans (Nat.sub_le _ _) (Nat.min_le_left _ _)

theorem wordStarts_le_self (g : Grain) (line : Line) (n col : Nat) :
    settle (g.wordStart line) n col ≤ col :=
  settle_induction (P := fun goal => goal ≤ col) (Nat.le_refl col)
    (fun goal h => Nat.le_trans (g.wordStart_le_self line goal) h) n

theorem le_wordEnd (g : Grain) (line : Line) (col : Nat) : col ≤ g.wordEnd line col := by
  simp only [wordEnd]
  omega

theorem le_wordEnds (g : Grain) (line : Line) (n col : Nat) : col ≤ g.wordEnds line n col := by
  induction n generalizing col with
  | zero => exact Nat.le_refl col
  | succ n ih =>
    rw [wordEnds_succ]
    exact Nat.le_trans (g.le_wordEnd line col) (ih (g.wordEnd line col))

theorem le_runEnd (g : Grain) (line : Line) (col : Nat) : col ≤ g.runEnd line col :=
  Nat.le_add_right _ _

end Grain

namespace Buffer

variable {b : Buffer} {i : Nat}

theorem le_lastLine (h : i < b.size) : i ≤ b.lastLine :=
  Nat.le_sub_one_of_lt h

/-- A boundary below a line is a later line, except below the last one. -/
theorem lt_boundaryBelow (b : Buffer) (i n : Nat) :
    i < b.boundaryBelow i n ∨ b.boundaryBelow i n = b.lastLine := by
  unfold boundaryBelow
  split
  · omega
  · exact .inr rfl

theorem le_paragraphBelow {col : Nat} (hi : i < b.size) (hc : col ≤ (b.line i).length) (n : Nat) :
    (⟨i, col⟩ : Position) ≤ ⟨b.boundaryBelow i n,
      (if b.boundaryBelow i n = b.lastLine then (b.line (b.boundaryBelow i n)).length
        else 0 : Nat)⟩ := by
  refine Position.natCast_le.2 ?_
  rcases b.lt_boundaryBelow i n with hlt | heq
  · exact .inl hlt
  · rw [if_pos heq, heq]
    rcases Nat.lt_or_eq_of_le (le_lastLine hi) with hlt | rfl
    · exact .inl hlt
    · exact .inr ⟨rfl, hc⟩

theorem boundaryAbove_le (b : Buffer) (i n : Nat) : b.boundaryAbove i n ≤ i := by
  unfold boundaryAbove
  split
  · omega
  · exact Nat.zero_le i

theorem paragraphAbove_le (b : Buffer) (i col n : Nat) :
    (⟨b.boundaryAbove i n, 0⟩ : Position) ≤ ⟨i, col⟩ := by
  refine Position.natCast_le.2 ?_
  rcases Nat.lt_or_eq_of_le (b.boundaryAbove_le i n) with hlt | heq
  · exact .inl hlt
  · exact .inr ⟨heq, Nat.zero_le col⟩

/-- One place of a buffer comes no later than another. -/
def AtOrBefore (x y : Nat × Nat) : Prop :=
  x.1 < y.1 ∨ x.1 = y.1 ∧ x.2 ≤ y.2

theorem atOrBefore_nextSentence {x : Nat × Nat} (h : b.Holds x) :
    AtOrBefore x (b.nextSentence x) := by
  obtain ⟨i, col⟩ := x
  simp only [nextSentence]
  split
  · rename_i start hstart
    have hlt := List.find?_some hstart
    exact .inr ⟨rfl, Nat.le_of_lt (of_decide_eq_true hlt)⟩
  · split
    · exact .inl (Nat.lt_succ_self i)
    · exact .inr ⟨rfl, h.2⟩

theorem previousSentence_atOrBefore (b : Buffer) (x : Nat × Nat) :
    AtOrBefore (b.previousSentence x) x := by
  obtain ⟨i, col⟩ := x
  simp only [previousSentence]
  split
  · rename_i start hstart
    have hlt := List.find?_some hstart
    exact .inr ⟨rfl, Nat.le_of_lt (of_decide_eq_true hlt)⟩
  · split
    · rename_i hi
      exact .inl (Nat.sub_lt hi Nat.one_pos)
    · rename_i hi
      exact .inr ⟨(Nat.eq_zero_of_not_pos hi).symm, Nat.zero_le col⟩

theorem AtOrBefore.trans {x y z : Nat × Nat} (h : AtOrBefore x y) (h' : AtOrBefore y z) :
    AtOrBefore x z := by
  simp only [AtOrBefore] at *
  omega

theorem atOrBefore_nextSentences {x : Nat × Nat} (h : b.Holds x) (n : Nat) :
    AtOrBefore x (settle b.nextSentence n x) := by
  have hrefl : AtOrBefore x x := .inr ⟨rfl, Nat.le_refl _⟩
  refine (settle_induction (P := fun y => b.Holds y ∧ AtOrBefore x y) ⟨h, hrefl⟩ ?_ n).2
  rintro y ⟨hy, hxy⟩
  exact ⟨hy.nextSentence, hxy.trans (atOrBefore_nextSentence hy)⟩

theorem previousSentences_atOrBefore (b : Buffer) (x : Nat × Nat) (n : Nat) :
    AtOrBefore (settle b.previousSentence n x) x := by
  apply settle_induction (P := fun y => AtOrBefore y x)
  · exact .inr ⟨rfl, Nat.le_refl _⟩
  · intro y hy
    exact (b.previousSentence_atOrBefore y).trans hy

end Buffer

/-- A search covers the cursor's column, or ends at it. -/
theorem SearchKind.cover?_around {kind : SearchKind} {line : Line} {col goal n : Nat}
    {target : List Char} {first last : Int} (hg : kind.landing? line col target n = some goal)
    (hc : kind.cover? col goal = some (first, last)) : first ≤ col ∧ (col : Int) ≤ last := by
  cases kind with
  | find =>
    have hgoal := findAhead_gt hg
    obtain ⟨rfl, rfl⟩ := eq_of_cover hc
    omega
  | findBack =>
    have hgoal := findBehind_lt hg
    obtain ⟨rfl, rfl⟩ := eq_of_cover hc
    omega
  | till =>
    obtain ⟨found, hfound, rfl⟩ := Option.map_eq_some_iff.1 hg
    have hgoal := findAhead_gt hfound
    obtain ⟨rfl, rfl⟩ := eq_of_cover hc
    omega
  | tillBack =>
    obtain ⟨found, hfound, rfl⟩ := Option.map_eq_some_iff.1 hg
    have hgoal := findBehind_lt hfound
    obtain ⟨rfl, rfl⟩ := eq_of_cover hc
    omega

/-- The text of the span begins at a place or before it, ends there or after it, and lies in the
buffer; a span of whole lines takes lines of the buffer around that of the place. -/
def Span.Around (s : Span) (b : Buffer) (p : Position) : Prop :=
  match s.shape with
  | .charwise => s.start ≤ p ∧ p ≤ s.stop ∧ b.Contains s.start ∧ b.Contains s.stop
  | .linewise =>
    0 ≤ s.start.line ∧ s.start.line ≤ p.line ∧ p.line ≤ s.stop.line ∧ s.stop.line < b.size

theorem Span.around_lines {b : Buffer} {top i bottom : Nat} (c c' c'' : Int) (htop : top ≤ i)
    (hbottom : i ≤ bottom) (h : bottom < b.size) :
    Span.Around ⟨⟨top, c⟩, ⟨bottom, c'⟩, .linewise⟩ b ⟨i, c''⟩ := by
  exact ⟨Int.natCast_nonneg top, Int.ofNat_le.2 htop, Int.ofNat_le.2 hbottom, Int.ofNat_lt.2 h⟩

namespace Span.Inside

variable {b : Buffer} {start stop p : Position}

theorem around (h : (⟨start, stop, .charwise⟩ : Span).Inside b) (hstart : start ≤ p)
    (hstop : p ≤ stop) : Span.Around ⟨start, stop, .charwise⟩ b p := by
  obtain ⟨hfirst, hlast⟩ := h rfl
  exact ⟨hstart, hstop, hfirst, hlast⟩

theorem around_ahead (h : (⟨p, stop, .charwise⟩ : Span).Inside b) (hstop : p ≤ stop) :
    Span.Around ⟨p, stop, .charwise⟩ b p :=
  h.around p.le_refl hstop

theorem around_behind (h : (⟨start, p, .charwise⟩ : Span).Inside b) (hstart : start ≤ p) :
    Span.Around ⟨start, p, .charwise⟩ b p :=
  h.around hstart p.le_refl

theorem around_cover {s : Spot} {first last : Nat} (h : (s.cover first last).Inside b)
    (hfirst : first ≤ s.col) (hlast : s.col ≤ last) :
    (s.cover first last).Around b s.position :=
  h.around (Position.natCast_le.2 (.inr ⟨rfl, hfirst⟩)) (Position.natCast_le.2 (.inr ⟨rfl, hlast⟩))

end Span.Inside

namespace Motion

variable {m : Motion} {b : Buffer} {pos : Position} {count : Option Int} {landing : Landing}
  {span : Span}

theorem around_landOnLine {s : Spot} {number : Int} {col : Option Int} (hs : s.In b)
    (h : some (b.landOnLine s number col) = some landing) (hspan : landing.span = some span) :
    span.Around b s.position := by
  cases h
  simp only [Buffer.landOnLine, Option.some.injEq] at hspan
  subst hspan
  have htarget := b.clampLine_lt number
  split
  · rename_i hle
    exact Span.around_lines _ _ _ (Nat.le_refl _) hle htarget
  · rename_i hle
    exact Span.around_lines _ _ _ (Nat.le_of_not_le hle) (Nat.le_refl _) hs.line_lt

theorem one_le_counted (h : ∀ n ∈ count, 1 ≤ n) : 1 ≤ (counted count).getD 1 := by
  cases count with
  | none => exact Int.le_refl 1
  | some n =>
    have hn := h n rfl
    simp only [counted, Option.filter]
    split
    · exact hn
    · exact Int.le_refl 1

theorem around_linesFrom {s : Spot} (hs : s.In b) (hcount : ∀ n ∈ count, 1 ≤ n) :
    (b.linesFrom s count).Around b s.position := by
  have hlines := one_le_counted hcount
  have hline := Buffer.le_lastLine hs.line_lt
  have hlast := b.lastLine_lt_size
  simp only [Buffer.linesFrom, Span.Around, Spot.position, Spot.at]
  omega

/-- A bracket and its partner are covered both, whichever comes first. -/
theorem around_partner {s : Spot} {goal : Position} (hs : s.In b) (h : b.partner s = some goal) :
    Span.Around (if goal < s.position then ⟨goal, s.at (s.col + 1), .charwise⟩
      else ⟨s.position, ⟨goal.line, goal.col + 1⟩, .charwise⟩) b s.position := by
  obtain ⟨hcol, hgoal, hafter⟩ := Buffer.contains_partner hs h
  split
  · rename_i hlt
    exact ⟨Position.le_of_lt hlt, Position.natCast_le.2 (.inr ⟨rfl, Nat.le_succ s.col⟩), hgoal,
      hs.contains_at hcol⟩
  · rename_i hle
    have hgoal : s.position ≤ goal := Decidable.not_not.1 hle
    exact ⟨Position.le_refl _, Position.le_after hgoal, hs.contains_position, hafter⟩

/-- Whatever an operator takes from a motion that starts on a cell lies around that cell: characters
of the buffer up to it or from it on, or lines of the buffer with its line at one end. -/
theorem span_around_cell (hpos : b.IsCell pos) (hcount : ∀ n ∈ count, 1 ≤ n)
    (h : m.run b pos count = some landing) (hspan : landing.span = some span) :
    span.Around b pos := by
  -- That the text lies in the buffer is known of every motion; the order is left to show.
  have hinside : span.Inside b := inside_of_run (.inl hpos) h hspan
  obtain ⟨i, c, rfl, hi, hcell⟩ := hpos.exists_natCast
  have hc : c ≤ (b.line i).length := Nat.le_trans hcell (Nat.sub_le _ _)
  have hs : (⟨i, b.line i, c⟩ : Spot).In b := ⟨hi, rfl, hc⟩
  unfold run at h
  simp only [Buffer.locate_natCast hi hc] at h
  cases m with
  | left =>
    cases h
    cases hspan
    exact hinside.around_cover (Nat.sub_le _ _) (Nat.le_refl _)
  | right =>
    cases h
    cases hspan
    exact hinside.around_cover (Nat.le_refl _) (Nat.le_min.2 ⟨Nat.le_add_right _ _, hc⟩)
  | up =>
    simp only at h
    split at h
    · cases h
    · cases h
      cases hspan
      exact Span.around_lines _ _ _ (Nat.sub_le _ _) (Nat.le_refl _) hi
  | down =>
    simp only at h
    split at h
    · cases h
    · cases h
      cases hspan
      have hbelow := Nat.le_min.2 ⟨Nat.le_add_right i (times count), Buffer.le_lastLine hi⟩
      have hlt := Nat.lt_of_le_of_lt (Nat.min_le_right (i + times count) _) b.lastLine_lt_size
      exact Span.around_lines _ _ _ (Nat.le_refl _) hbelow hlt
  | nextWord g =>
    cases h
    cases hspan
    exact hinside.around_cover (Nat.le_refl _) (g.le_nextWords _ _ _)
  | wordStart g =>
    cases h
    cases hspan
    exact hinside.around_cover (g.wordStarts_le_self _ _ _) (Nat.le_refl _)
  | wordEnd g =>
    cases h
    cases hspan
    have hgoal := g.le_wordEnds (b.line i) (times count) c
    exact hinside.around_cover (Nat.le_refl _) (Nat.le_min.2 ⟨Nat.le_succ_of_le hgoal, hc⟩)
  | changeWord g =>
    simp only at h
    split at h
    · cases h
      cases hspan
      exact hinside.around_cover (Nat.le_refl _) (Nat.le_refl _)
    · cases h
      cases hspan
      have hgoal := Nat.le_trans (g.le_runEnd (b.line i) c)
        (g.le_wordEnds (b.line i) (times count - 1) (g.runEnd (b.line i) c))
      exact hinside.around_cover (Nat.le_refl _) (Nat.le_min.2 ⟨Nat.le_succ_of_le hgoal, hc⟩)
  | lineStart =>
    cases h
    cases hspan
    exact hinside.around_cover (Nat.zero_le _) (Nat.le_refl _)
  | firstNonBlank =>
    cases h
    cases hspan
    exact hinside.around_cover (Nat.min_le_left _ _) (Nat.le_max_left _ _)
  | lineEnd =>
    cases h
    cases hspan
    exact hinside.around_cover (Nat.le_refl _) hc
  | lastLine => exact around_landOnLine hs h hspan
  | firstLine => exact around_landOnLine hs h hspan
  | line number col => exact around_landOnLine hs h hspan
  | currentLine =>
    cases h
    cases hspan
    exact around_linesFrom hs hcount
  | partner =>
    simp only [Option.bind_eq_bind, Option.bind_eq_some_iff] at h
    obtain ⟨goal, hgoal, h⟩ := h
    cases h
    cases hspan
    exact around_partner hs hgoal
  | paragraphBelow =>
    cases h
    cases hspan
    exact hinside.around_ahead (Buffer.le_paragraphBelow hi hc _)
  | paragraphAbove =>
    cases h
    cases hspan
    exact hinside.around_behind (b.paragraphAbove_le i c _)
  | sentenceAhead =>
    cases h
    cases hspan
    have hholds : b.Holds (i, c) := ⟨hi, hc⟩
    have hgoal := Buffer.atOrBefore_nextSentences hholds (times count)
    exact hinside.around_ahead (Position.natCast_le.2 hgoal)
  | sentenceBehind =>
    cases h
    cases hspan
    have hgoal := b.previousSentences_atOrBefore (i, c) (times count)
    exact hinside.around_behind (Position.natCast_le.2 hgoal)
  | search kind target =>
    simp only [Option.bind_eq_bind, Option.bind_eq_some_iff] at h
    obtain ⟨goal, hgoal, h⟩ := h
    cases h
    obtain ⟨⟨first, last⟩, hcover, hspan⟩ := Option.map_eq_some_iff.1 hspan
    cases hspan
    obtain ⟨hfirst, hlast⟩ := SearchKind.cover?_around hgoal hcover
    exact hinside.around (.inr ⟨rfl, hfirst⟩) (.inr ⟨rfl, hlast⟩)
  | place target =>
    cases h
    cases hspan
    exact hinside.around (Position.earlier_le_left _ _) (Position.le_later_left _ _)

theorem span_around_cell_upwards :
    let b := Buffer.ofText ['(', 'a', '\n', '\n', 'b', ')', 'c']
    (Span.mk ⟨0, 1⟩ ⟨2, 0⟩ .linewise).Around b ⟨2, 1⟩ ∧
      (Span.mk ⟨0, 0⟩ ⟨2, 2⟩ .charwise).Around b ⟨2, 1⟩ := by
  intro b
  have hcell : b.IsCell ⟨2, 1⟩ := by decide
  have hup : up.run b ⟨2, 1⟩ (some 2) = some ⟨⟨0, 1⟩, some ⟨⟨0, 1⟩, ⟨2, 0⟩, .linewise⟩⟩ := by
    decide
  have hpartner : partner.run b ⟨2, 1⟩ none =
      some ⟨⟨0, 0⟩, some ⟨⟨0, 0⟩, ⟨2, 2⟩, .charwise⟩⟩ := by decide
  constructor
  · exact span_around_cell hcell (by decide) hup rfl
  · exact span_around_cell hcell (by decide) hpartner rfl

end Motion

end ModalEdit
