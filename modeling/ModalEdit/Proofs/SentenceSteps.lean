import ModalEdit.Proofs.MotionSteps
import ModalEdit.Proofs.Sentences

namespace ModalEdit

/-- What a search finds in an ordered list comes before all else that it could have found. -/
theorem rel_of_find? {R : Nat → Nat → Prop} {p : Nat → Bool} {xs : List Nat} {s t : Nat}
    (h : xs.Pairwise R) (hfound : xs.find? p = some t) (hs : s ∈ xs) (hp : p s = true) :
    s = t ∨ R t s := by
  obtain ⟨_, before, after, rfl, hbefore⟩ := List.find?_eq_some_iff_append.1 hfound
  rcases List.mem_append.1 hs with hin | hin
  · have hno := hbefore s hin
    rw [hp] at hno
    cases hno
  · have hafter := (List.pairwise_cons.1 (List.pairwise_append.1 h).2.1).1
    exact (List.mem_cons.1 hin).imp_right (hafter s)

/-- A sentence begins at the column, or the column is the first of a line without sentences. -/
def IsBoundary (text : Line) (col : Nat) : Prop :=
  col ∈ sentenceStarts text ∨ col = 0 ∧ sentenceStarts text = []

namespace IsBoundary

variable {text : Line} {col : Nat}

theorem mem_of_pos (h : IsBoundary text col) (hpos : 0 < col) : col ∈ sentenceStarts text := by
  rcases h with hm | ⟨rfl, _⟩
  · exact hm
  · exact absurd hpos (Nat.lt_irrefl 0)

theorem mem_of_mem {s : Nat} (h : IsBoundary text col) (hs : s ∈ sentenceStarts text) :
    col ∈ sentenceStarts text := by
  refine h.resolve_right fun hnone => ?_
  rw [hnone.2] at hs
  exact List.not_mem_nil hs

theorem headD_eq_iff (h : IsBoundary text col) :
    (sentenceStarts text).headD 0 = col ↔ ∀ s ∈ sentenceStarts text, col ≤ s := by
  have hsorted := sentenceStarts_increasing text
  unfold IsBoundary at h
  generalize sentenceStarts text = starts at h hsorted ⊢
  cases starts with
  | nil =>
    obtain ⟨rfl, _⟩ := h.resolve_left List.not_mem_nil
    exact iff_of_true rfl fun s hs => absurd hs List.not_mem_nil
  | cons first rest =>
    have hm := h.resolve_right fun hnil => List.cons_ne_nil _ _ hnil.2
    have hfirst : ∀ s ∈ first :: rest, first ≤ s := by
      intro s hs
      rcases List.mem_cons.1 hs with rfl | hs
      · exact Nat.le_refl s
      · exact Nat.le_of_lt ((List.pairwise_cons.1 hsorted).1 s hs)
    constructor
    · rintro rfl
      exact hfirst
    · intro hall
      exact Nat.le_antisymm (hfirst col hm) (hall first List.mem_cons_self)

theorem getLastD_eq_iff (h : IsBoundary text col) :
    (sentenceStarts text).getLastD 0 = col ↔ ∀ s ∈ sentenceStarts text, s ≤ col := by
  have hsorted := sentenceStarts_increasing text
  unfold IsBoundary at h
  generalize sentenceStarts text = starts at h hsorted ⊢
  rcases List.eq_nil_or_concat starts with rfl | ⟨before, last, rfl⟩
  · obtain ⟨rfl, _⟩ := h.resolve_left List.not_mem_nil
    exact iff_of_true rfl fun s hs => absurd hs List.not_mem_nil
  · rw [List.concat_eq_append] at *
    have hm := h.resolve_right fun hnil => List.append_ne_nil_of_right_ne_nil _ (by simp) hnil.2
    have hlast : ∀ s ∈ before ++ [last], s ≤ last := by
      intro s hs
      rcases List.mem_append.1 hs with hs | hs
      · have hlt := (List.pairwise_append.1 hsorted).2.2 s hs last List.mem_cons_self
        exact Nat.le_of_lt hlt
      · exact Nat.le_of_eq (List.mem_singleton.1 hs)
    rw [List.getLastD_concat]
    constructor
    · rintro rfl
      exact hlast
    · intro hall
      exact Nat.le_antisymm (hall last (List.mem_append_right _ List.mem_cons_self)) (hlast col hm)

end IsBoundary

namespace Buffer

/-- A place of the buffer with a boundary between sentences at its column. -/
def IsSentenceBoundary (b : Buffer) (x : Nat × Nat) : Prop :=
  x.1 < b.size ∧ IsBoundary (b.line x.1) x.2

/-- The second place comes after the first, on its line or on the next one, and no sentence begins
between them. -/
inductive Adjoins (b : Buffer) : Nat × Nat → Nat × Nat → Prop
  | onLine {i c d : Nat} (hlt : c < d) (hnext : ∀ s ∈ sentenceStarts (b.line i), c < s → d ≤ s) :
    Adjoins b (i, c) (i, d)
  | nextLine {i c d : Nat} (hlast : ∀ s ∈ sentenceStarts (b.line i), s ≤ c)
    (hfirst : ∀ s ∈ sentenceStarts (b.line (i + 1)), d ≤ s) : Adjoins b (i, c) (i + 1, d)

variable {b : Buffer} {x y : Nat × Nat} {i c : Nat}

theorem IsSentenceBoundary.holds (h : b.IsSentenceBoundary x) : b.Holds x := by
  refine ⟨h.1, ?_⟩
  rcases h.2 with hm | ⟨hzero, _⟩
  · exact Nat.le_of_lt (sentenceStarts_lt hm)
  · rw [hzero]
    exact Nat.zero_le _

/-- Only an empty line has a boundary at its end. -/
theorem IsSentenceBoundary.eq_lineEnd (hx : b.IsSentenceBoundary (i, c))
    (hend : b.IsSentenceBoundary (i, (b.line i).length)) : c = (b.line i).length := by
  rcases hend.2 with hm | ⟨hzero, hnil⟩
  · exact absurd (sentenceStarts_lt hm) (Nat.lt_irrefl _)
  · have hno : c ∉ sentenceStarts (b.line i) := hnil ▸ List.not_mem_nil
    exact (hx.2.resolve_left hno).1.trans hzero.symm

theorem IsSentenceBoundary.eq_lineStart (hx : b.IsSentenceBoundary (i, 0))
    (hy : b.IsSentenceBoundary (i, c)) (hfirst : ∀ s ∈ sentenceStarts (b.line i), c ≤ s) :
    0 = c := by
  rcases Nat.eq_zero_or_pos c with hzero | hpos
  · exact hzero.symm
  · have hm := hx.2.mem_of_mem (hy.2.mem_of_pos hpos)
    exact (Nat.eq_zero_of_le_zero (hfirst 0 hm)).symm

theorem adjoins_of_nextSentence (hx : b.IsSentenceBoundary x) (hy : b.IsSentenceBoundary y)
    (hne : x ≠ y) (h : b.nextSentence x = y) : b.Adjoins x y := by
  obtain ⟨i, c⟩ := x
  simp only [nextSentence] at h
  split at h
  · rename_i start hfound
    cases h
    refine .onLine (by simpa using List.find?_some hfound) fun s hs hlt => ?_
    have hrel := rel_of_find? (sentenceStarts_increasing _) hfound hs (decide_eq_true hlt)
    omega
  · rename_i hnone
    split at h
    · cases h
      refine .nextLine (fun s hs => ?_) (hy.2.headD_eq_iff.1 rfl)
      simpa using List.find?_eq_none.1 hnone s hs
    · cases h
      exact absurd (congrArg _ (hx.eq_lineEnd hy)) hne

theorem Adjoins.nextSentence_eq (h : b.Adjoins x y) (hy : b.IsSentenceBoundary y) :
    b.nextSentence x = y := by
  cases h with
  | @onLine i c d hlt hnext =>
    have hd := hy.2.mem_of_pos (Nat.zero_lt_of_lt hlt)
    have hsome : ((sentenceStarts (b.line i)).find? (c < ·)).isSome :=
      List.find?_isSome.2 ⟨d, hd, decide_eq_true hlt⟩
    obtain ⟨start, hfound⟩ := Option.isSome_iff_exists.1 hsome
    have hrel := rel_of_find? (sentenceStarts_increasing _) hfound hd (decide_eq_true hlt)
    have hafter : c < start := by simpa using List.find?_some hfound
    have hle := hnext start (List.mem_of_find?_eq_some hfound) hafter
    obtain rfl : start = d := by omega
    simp only [nextSentence, hfound]
  | @nextLine i c d hlast hfirst =>
    have hnone : (sentenceStarts (b.line i)).find? (c < ·) = none := by
      refine List.find?_eq_none.2 fun s hs => ?_
      simpa using hlast s hs
    have hi : i < b.lastLine := Nat.lt_sub_of_add_lt hy.1
    simp only [nextSentence, hnone, if_pos hi, hy.2.headD_eq_iff.2 hfirst]

theorem adjoins_of_previousSentence (hx : b.IsSentenceBoundary x) (hy : b.IsSentenceBoundary y)
    (hne : x ≠ y) (h : b.previousSentence y = x) : b.Adjoins x y := by
  obtain ⟨j, d⟩ := y
  simp only [previousSentence] at h
  split at h
  · rename_i start hfound
    cases h
    refine .onLine (by simpa using List.find?_some hfound) fun s hs hlt => ?_
    apply Nat.le_of_not_lt
    intro hlt'
    have hrel := rel_of_find? (List.pairwise_reverse.2 (sentenceStarts_increasing _)) hfound
      (List.mem_reverse.2 hs) (decide_eq_true hlt')
    omega
  · rename_i hnone
    have hfirst : ∀ s ∈ sentenceStarts (b.line j), d ≤ s := by
      intro s hs
      simpa using List.find?_eq_none.1 hnone s (List.mem_reverse.2 hs)
    split at h
    · rename_i hpos
      cases h
      have hj : j - 1 + 1 = j := Nat.sub_add_cancel hpos
      have hadjoins :
          b.Adjoins (j - 1, (sentenceStarts (b.line (j - 1))).getLastD 0) (j - 1 + 1, d) :=
        .nextLine (hx.2.getLastD_eq_iff.1 rfl) (hj.symm ▸ hfirst)
      rwa [hj] at hadjoins
    · rename_i htop
      cases h
      obtain rfl : j = 0 := Nat.eq_zero_of_not_pos htop
      exact absurd (congrArg _ (hx.eq_lineStart hy hfirst)) hne

theorem Adjoins.previousSentence_eq (h : b.Adjoins x y) (hx : b.IsSentenceBoundary x)
    (hy : b.IsSentenceBoundary y) : b.previousSentence y = x := by
  cases h with
  | @onLine i c d hlt hnext =>
    have hd := hy.2.mem_of_pos (Nat.zero_lt_of_lt hlt)
    have hc := hx.2.mem_of_mem hd
    have hsome : ((sentenceStarts (b.line i)).reverse.find? (· < d)).isSome :=
      List.find?_isSome.2 ⟨c, List.mem_reverse.2 hc, decide_eq_true hlt⟩
    obtain ⟨start, hfound⟩ := Option.isSome_iff_exists.1 hsome
    have hrel := rel_of_find? (List.pairwise_reverse.2 (sentenceStarts_increasing _)) hfound
      (List.mem_reverse.2 hc) (decide_eq_true hlt)
    have hbefore : start < d := by simpa using List.find?_some hfound
    have hle := hnext start (List.mem_reverse.1 (List.mem_of_find?_eq_some hfound))
    obtain rfl : start = c := by omega
    simp only [previousSentence, hfound]
  | @nextLine i c d hlast hfirst =>
    have hnone : (sentenceStarts (b.line (i + 1))).reverse.find? (· < d) = none := by
      refine List.find?_eq_none.2 fun s hs => ?_
      simpa using hfirst s (List.mem_reverse.1 hs)
    simp only [previousSentence, hnone, if_pos (Nat.succ_pos i), Nat.add_sub_cancel,
      hx.2.getLastD_eq_iff.2 hlast]

end Buffer

namespace Motion

variable {b : Buffer} {m : Motion} {f : Nat × Nat → Nat × Nat} {x y : Nat × Nat}

/-- One step of the motion leads from the first place to the second. -/
def StepsTo (m : Motion) (b : Buffer) (x y : Nat × Nat) : Prop :=
  ∃ landing, m.run b (.ofNats x) none = some landing ∧ landing.position = .ofNats y

theorem stepsTo_iff (hf : m.step? b = some f) (hx : b.Holds x) : m.StepsTo b x y ↔ f x = y := by
  obtain ⟨landing, hrun, hland⟩ := run_of_step? hf (.ofNats x) none
  have hspot : b.locate (.ofNats x) = ⟨x.1, b.line x.1, x.2⟩ := Buffer.locate_natCast hx.1 hx.2
  rw [times_none, Function.iterate_one, hspot] at hland
  have hplace : Position.ofNats (f x) = .ofNats y ↔ f x = y := by
    simp only [Position.ofNats, Position.mk.injEq, Int.natCast_inj, Prod.ext_iff]
  rw [← hplace, ← hland]
  constructor
  · rintro ⟨landing', hrun', hland'⟩
    obtain rfl := Option.some.inj (hrun.symm.trans hrun')
    exact hland'
  · exact fun h => ⟨landing, hrun, h⟩

/-- Of two boundaries between sentences, the step ahead leads from the first to the second just
where the step back leads from the second to the first. -/
theorem sentence_steps_inverse (hx : b.IsSentenceBoundary x) (hy : b.IsSentenceBoundary y)
    (hne : x ≠ y) : sentenceAhead.StepsTo b x y ↔ sentenceBehind.StepsTo b y x := by
  rw [stepsTo_iff rfl hx.holds, stepsTo_iff rfl hy.holds]
  constructor
  · intro h
    exact (Buffer.adjoins_of_nextSentence hx hy hne h).previousSentence_eq hx hy
  · intro h
    exact (Buffer.adjoins_of_previousSentence hx hy hne h).nextSentence_eq hy

theorem sentence_steps_inverse_blank_lines :
    let b := Buffer.ofText "  Hi. Yo.\n\n   ".toList
    (b.IsSentenceBoundary (0, 6) ∧ b.IsSentenceBoundary (1, 0) ∧ b.IsSentenceBoundary (2, 0)) ∧
      (sentenceAhead.StepsTo b (0, 6) (1, 0) ∧ sentenceBehind.StepsTo b (1, 0) (0, 6)) ∧
      sentenceBehind.StepsTo b (2, 0) (1, 0) ∧ sentenceAhead.StepsTo b (1, 0) (2, 0) := by
  intro b
  have hlast : b.IsSentenceBoundary (0, 6) := ⟨by decide, .inl (by decide)⟩
  have hempty : b.IsSentenceBoundary (1, 0) := ⟨by decide, .inr ⟨rfl, rfl⟩⟩
  have hblank : b.IsSentenceBoundary (2, 0) := ⟨by decide, .inr ⟨rfl, rfl⟩⟩
  have hahead : sentenceAhead.StepsTo b (0, 6) (1, 0) := ⟨_, rfl, rfl⟩
  have hback : sentenceBehind.StepsTo b (2, 0) (1, 0) := ⟨_, rfl, rfl⟩
  exact ⟨⟨hlast, hempty, hblank⟩,
    ⟨hahead, (sentence_steps_inverse hlast hempty (by decide)).1 hahead⟩,
    hback, (sentence_steps_inverse hempty hblank (by decide)).2 hback⟩

end Motion

end ModalEdit
