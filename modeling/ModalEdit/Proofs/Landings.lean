import ModalEdit.Proofs.MotionSteps

namespace ModalEdit

namespace Grain

theorem strideToEnd_le (g : Grain) (ahead : Line) : g.strideToEnd ahead ≤ ahead.length := by
  have hrun := g.headRun_le (ahead.dropWhile isBlank)
  have hlen : (ahead.takeWhile isBlank ++ ahead.dropWhile isBlank).length = ahead.length := by
    rw [List.takeWhile_append_dropWhile]
  rw [List.length_append] at hlen
  simp only [strideToEnd, runLength]
  omega

/-- From a character the end of a word is on the line, or just past it. -/
theorem wordEnd_le {g : Grain} {line : Line} {col : Nat} (h : col < line.length) :
    g.wordEnd line col ≤ line.length := by
  have hstride := g.strideToEnd_le (line.drop (col + 1))
  rw [List.length_drop] at hstride
  simp only [wordEnd]
  omega

theorem wordEnd_le_iff {g : Grain} {line : Line} {col : Nat} :
    g.wordEnd line col ≤ line.length ↔ col < line.length := by
  constructor
  · intro h
    by_contra hno
    have hle := Nat.le_of_not_lt hno
    rw [wordEnd_of_le hle] at h
    omega
  · exact wordEnd_le

theorem wordEnds_le_iff {g : Grain} {line : Line} {n col : Nat} :
    g.wordEnds line (n + 1) col ≤ line.length ↔ g.wordEnds line n col < line.length := by
  rw [wordEnds_eq_iterate, Function.iterate_succ_apply', ← wordEnds_eq_iterate]
  exact wordEnd_le_iff

end Grain

namespace SearchKind

theorem landing?_le {kind : SearchKind} {line : Line} {col goal n : Nat} {target : List Char}
    (h : kind.landing? line col target n = some goal) : goal ≤ line.length := by
  cases kind with
  | find => exact Nat.le_of_lt (findAhead_gt h).2
  | findBack => exact Nat.le_of_lt (findBehind_lt h).2
  | till =>
    obtain ⟨found, hfound, rfl⟩ := Option.map_eq_some_iff.1 h
    have hgoal := findAhead_gt hfound
    omega
  | tillBack =>
    obtain ⟨found, hfound, rfl⟩ := Option.map_eq_some_iff.1 h
    have hgoal := findBehind_lt hfound
    omega

end SearchKind

namespace Buffer

theorem contains_min_col {b : Buffer} {i : Nat} (h : i < b.size) (col : Nat) :
    b.Contains ⟨i, min (col : Int) (b.line i).length⟩ := by
  have hcol : min (col : Int) (b.line i).length = (min col (b.line i).length : Nat) := by omega
  rw [hcol]
  exact contains_natCast.2 ⟨h, Nat.min_le_right _ _⟩

theorem contains_landOnLine (b : Buffer) (s : Spot) (number : Int) (col : Nat) :
    b.Contains (b.landOnLine s number (some col)).position :=
  contains_min_col (b.clampLine_lt number) col

end Buffer

namespace Motion

variable {m : Motion} {b : Buffer} {pos : Position} {count : Option Int} {landing : Landing}

/-- The motion goes to ends of words, and has passed the last character of the line before its last
repetition. -/
def Overruns (m : Motion) (b : Buffer) (pos : Position) (count : Option Int) : Prop :=
  match m with
  | .wordEnd g =>
    (b.locate pos).text.length ≤
      g.wordEnds (b.locate pos).text (times count - 1) (b.locate pos).col
  | _ => False

instance (m : Motion) (b : Buffer) (pos : Position) (count : Option Int) :
    Decidable (m.Overruns b pos count) := by
  unfold Overruns
  split <;> infer_instance

/-- The motion is in reach of a key: no change of a word, and no line or place that is given. -/
def IsKeyed : Motion → Prop
  | .changeWord _ | .line _ _ | .place _ => False
  | _ => True

theorem isKeyed_of_ofKey? {c : Char} (h : ofKey? c = some m) : m.IsKeyed := by
  unfold ofKey? at h
  split at h <;> cases h <;> trivial

theorem isKeyed_of_named? {name target : List Char} (h : named? name target = some m) :
    m.IsKeyed := by
  unfold named? at h
  split at h
  · cases h
    trivial
  · split at h
    · cases h
      trivial
    · split at h
      · split at h
        · cases h
          trivial
        · exact isKeyed_of_ofKey? h
      · cases h

theorem contains_wordEnd_iff {g : Grain} (h : (wordEnd g).run b pos count = some landing) :
    b.Contains landing.position ↔ ¬ (wordEnd g).Overruns b pos count := by
  have hs : (b.locate pos).In b := b.in_locate pos
  unfold run at h
  unfold Overruns
  generalize b.locate pos = s at hs h ⊢
  cases h
  obtain ⟨n, hn⟩ : ∃ n, times count = n + 1 := Nat.exists_eq_add_one.2 (times_pos count)
  have hcontains (goal : Nat) : b.Contains (s.at goal) ↔ goal ≤ s.text.length := by
    rw [Spot.at, Buffer.contains_natCast, hs.text_eq]
    exact and_iff_right hs.line_lt
  simp only [Spot.land, hcontains, hn, Grain.wordEnds_le_iff, Nat.add_sub_cancel, Nat.not_le]

/-- All motions but the one to the end of a word land in the buffer. -/
theorem contains_landing (hpos : b.Contains pos) (hkeyed : m.IsKeyed)
    (hend : ∀ g, m ≠ .wordEnd g) (h : m.run b pos count = some landing) :
    b.Contains landing.position := by
  obtain ⟨i, c, rfl, hi, hc⟩ := hpos.exists_natCast
  have hs : (⟨i, b.line i, c⟩ : Spot).In b := ⟨hi, rfl, hc⟩
  unfold run at h
  simp only [Buffer.locate_natCast hi hc] at h
  cases m with
  | left =>
    cases h
    exact hs.contains_at (Nat.le_trans (Nat.sub_le _ _) hc)
  | right =>
    cases h
    exact hs.contains_at (Nat.min_le_right _ _)
  | up =>
    simp only at h
    split at h
    · cases h
    · cases h
      have hgoal : i - times count < b.size := Nat.lt_of_le_of_lt (Nat.sub_le _ _) hi
      exact Buffer.contains_min_col hgoal c
  | down =>
    simp only at h
    split at h
    · cases h
    · cases h
      have hgoal : min (i + times count) b.lastLine < b.size :=
        Nat.lt_of_le_of_lt (Nat.min_le_right _ _) b.lastLine_lt_size
      exact Buffer.contains_min_col hgoal c
  | nextWord g =>
    cases h
    exact hs.contains_at (settle_induction (P := fun col => col ≤ (b.line i).length) hc
      (fun _ => Grain.nextWord_le (g := g)) (times count))
  | wordStart g =>
    cases h
    exact hs.contains_at (settle_induction (P := fun col => col ≤ (b.line i).length) hc
      (fun col _ => g.wordStart_le (b.line i) col) (times count))
  | wordEnd g => exact absurd rfl (hend g)
  | changeWord g => exact hkeyed.elim
  | lineStart =>
    cases h
    exact hs.contains_at (Nat.zero_le _)
  | firstNonBlank =>
    cases h
    exact hs.contains_at (firstNonBlank_le _)
  | lineEnd =>
    cases h
    exact hs.contains_at (Nat.le_refl _)
  | lastLine =>
    cases h
    exact b.contains_landOnLine _ _ 0
  | firstLine =>
    cases h
    exact b.contains_landOnLine _ _ 0
  | currentLine =>
    cases h
    exact hs.contains_position
  | partner =>
    simp only [Option.bind_eq_bind, Option.bind_eq_some_iff] at h
    obtain ⟨goal, hgoal, h⟩ := h
    cases h
    exact (Buffer.contains_partner hs hgoal).2.1
  | paragraphBelow =>
    cases h
    exact Buffer.contains_natCast.2 ⟨b.boundaryBelow_lt _ _, Nat.zero_le _⟩
  | paragraphAbove =>
    cases h
    exact Buffer.contains_natCast.2 ⟨Buffer.boundaryAbove_lt hi (times count), Nat.zero_le _⟩
  | sentenceAhead =>
    cases h
    have hholds : b.Holds (i, c) := ⟨hi, hc⟩
    exact (settle_induction hholds (fun _ => Buffer.Holds.nextSentence) (times count)).contains
  | sentenceBehind =>
    cases h
    have hholds : b.Holds (i, c) := ⟨hi, hc⟩
    exact (settle_induction hholds (fun _ => Buffer.Holds.previousSentence)
      (times count)).contains
  | search kind target =>
    simp only [Option.bind_eq_bind, Option.bind_eq_some_iff] at h
    obtain ⟨goal, hgoal, h⟩ := h
    cases h
    exact hs.contains_at (SearchKind.landing?_le hgoal)
  | line number col => exact hkeyed.elim
  | place target => exact hkeyed.elim

/-- From a place of the buffer every motion with a key leads to a place of the buffer, whatever the
count and the target of a search, unless it overruns its line; and one that does so leaves the
buffer. -/
theorem lands_inside_unless_overruns {name target : List Char}
    (hname : named? name target = some m) (hpos : b.Contains pos)
    (h : m.run b pos count = some landing) :
    b.Contains landing.position ↔ ¬ m.Overruns b pos count := by
  by_cases hend : ∃ g, m = .wordEnd g
  · obtain ⟨g, rfl⟩ := hend
    exact contains_wordEnd_iff h
  · have hend' : ∀ g, m ≠ .wordEnd g := not_exists.1 hend
    have hno : ¬ m.Overruns b pos count := by
      cases m with
      | wordEnd g => exact absurd rfl (hend' g)
      | _ => exact not_false
    exact iff_of_true (contains_landing hpos (isKeyed_of_named? hname) hend' h) hno

theorem lands_inside_unless_overruns_twice :
    let b := Buffer.ofText ['a']
    (wordEnd .word).run b ⟨0, 0⟩ (some 2) = some ⟨⟨0, 2⟩, some ⟨⟨0, 0⟩, ⟨0, 1⟩, .charwise⟩⟩ ∧
      ¬ b.Contains ⟨0, 2⟩ := by
  intro b
  have hrun : (wordEnd .word).run b ⟨0, 0⟩ (some 2) =
      some ⟨⟨0, 2⟩, some ⟨⟨0, 0⟩, ⟨0, 1⟩, .charwise⟩⟩ := by decide
  have hname : named? ['e'] [] = some (wordEnd .word) := rfl
  have hiff := lands_inside_unless_overruns hname (show b.Contains ⟨0, 0⟩ by decide) hrun
  have hover : (wordEnd .word).Overruns b ⟨0, 0⟩ (some 2) := by decide
  exact ⟨hrun, fun hcontains => hiff.1 hcontains hover⟩

end Motion

end ModalEdit
