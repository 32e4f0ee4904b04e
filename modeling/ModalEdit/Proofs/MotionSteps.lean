import Mathlib.Logic.Function.Iterate
import ModalEdit.Proofs.Extents

namespace ModalEdit

theorem settle_eq_iterate {α : Type} [DecidableEq α] (f : α → α) (n : Nat) (x : α) :
    settle f n x = f^[n] x := by
  induction n generalizing x with
  | zero => rfl
  | succ n ih => rw [settle_succ, Function.iterate_succ_apply, ih]

theorem nthIdx?_succ {p : α → Bool} {n : Nat} (hn : 0 < n) (xs : List α) :
    nthIdx? p (n + 1) xs = (nthIdx? p 1 xs).bind fun k =>
      (nthIdx? p n (xs.drop (k + 1))).map (k + 1 + ·) := by
  induction xs with
  | nil => rfl
  | cons x xs ih =>
    simp only [nthIdx?, Nat.ne_of_gt hn, if_false, if_true]
    split
    · simp only [Option.bind_some, List.drop_succ_cons, List.drop_zero, Nat.zero_add, Nat.add_comm]
    · rw [ih, Option.map_bind, Option.bind_map]
      congr 1
      funext k
      simp only [Function.comp_apply, List.drop_succ_cons, Option.map_map]
      congr 1
      funext j
      simp only [Function.comp_apply]
      omega

theorem nthIdx?_nil {p : α → Bool} (n : Nat) : nthIdx? p n [] = none := by
  cases n <;> rfl

namespace Grain

theorem wordEnds_eq_iterate (g : Grain) (line : Line) (n col : Nat) :
    g.wordEnds line n col = (g.wordEnd line)^[n] col := by
  induction n generalizing col with
  | zero => rfl
  | succ n ih => rw [wordEnds_succ, Function.iterate_succ_apply, ih]

end Grain

theorem iterate_sub_one (n c : Nat) : (fun c => c - 1)^[n] c = c - n := by
  induction n with
  | zero => rfl
  | succ n ih => rw [Function.iterate_succ_apply', ih, Nat.sub_sub]

theorem iterate_add_one_min {c most : Nat} (h : c ≤ most) (n : Nat) :
    (fun c => min (c + 1) most)^[n] c = min (c + n) most := by
  induction n with
  | zero => exact (Nat.min_eq_left h).symm
  | succ n ih =>
    rw [Function.iterate_succ_apply', ih]
    omega

theorem iterate_on_line (f : Nat → Nat → Nat) (n i c : Nat) :
    (fun x : Nat × Nat => (x.1, f x.1 x.2))^[n] (i, c) = (i, (f i)^[n] c) := by
  induction n with
  | zero => rfl
  | succ n ih => rw [Function.iterate_succ_apply', ih, Function.iterate_succ_apply']

namespace Buffer

variable {b : Buffer} {i n : Nat}

theorem boundaryBelow_succ (b : Buffer) (i : Nat) (hn : 0 < n) :
    b.boundaryBelow i (n + 1) = b.boundaryBelow (b.boundaryBelow i 1) n := by
  cases hfirst : nthIdx? List.isEmpty 1 (b.lines.drop (i + 1)) with
  | none =>
    have hend : b.lines.drop (b.lastLine + 1) = [] := by
      rw [lastLine, Nat.sub_add_cancel b.size_pos]
      exact List.drop_length
    simp only [boundaryBelow, nthIdx?_succ hn, hfirst, Option.bind_none, hend, nthIdx?_nil]
  | some k =>
    simp only [boundaryBelow, nthIdx?_succ hn, hfirst, Option.bind_some, List.drop_drop,
      Nat.add_assoc]
    cases nthIdx? List.isEmpty n (b.lines.drop (i + (1 + (k + 1)))) with
    | none => rfl
    | some j => simp only [Option.map_some]

theorem boundaryAbove_succ (hi : i < b.size) (hn : 0 < n) :
    b.boundaryAbove i (n + 1) = b.boundaryAbove (b.boundaryAbove i 1) n := by
  cases hfirst : nthIdx? List.isEmpty 1 (b.lines.take i).reverse with
  | none =>
    simp only [boundaryAbove, nthIdx?_succ hn, hfirst, Option.bind_none, List.take_zero,
      List.reverse_nil, nthIdx?_nil]
  | some k =>
    have hlen : (b.lines.take i).length = i := List.length_take_of_le (Nat.le_of_lt hi)
    have hrest : (b.lines.take i).reverse.drop (k + 1) = (b.lines.take (i - 1 - k)).reverse := by
      rw [List.drop_reverse, List.take_take, hlen]
      congr 2
      omega
    simp only [boundaryAbove, nthIdx?_succ hn, hfirst, Option.bind_some, hrest]
    cases nthIdx? List.isEmpty n (b.lines.take (i - 1 - k)).reverse with
    | none => rfl
    | some j =>
      simp only [Option.map_some]
      omega

theorem nextSentence_lt {x : Nat × Nat} (h : x.1 < b.size) : (b.nextSentence x).1 < b.size := by
  simp only [nextSentence]
  split
  · exact h
  · split
    · rename_i hi
      simp only [lastLine] at hi
      omega
    · exact h

theorem previousSentence_lt {x : Nat × Nat} (h : x.1 < b.size) :
    (b.previousSentence x).1 < b.size := by
  simp only [previousSentence]
  split
  · exact h
  · split
    · exact Nat.lt_of_le_of_lt (Nat.sub_le x.1 1) h
    · exact b.size_pos

theorem iterate_boundaryBelow (b : Buffer) (c : Nat) (hn : 0 < n) :
    (fun x : Nat × Nat => (b.boundaryBelow x.1 1, 0))^[n] (i, c) = (b.boundaryBelow i n, 0) := by
  induction n generalizing i c with
  | zero => exact absurd hn (Nat.lt_irrefl 0)
  | succ n ih =>
    rw [Function.iterate_succ_apply]
    rcases Nat.eq_zero_or_pos n with rfl | hpos
    · rfl
    · rw [ih _ hpos, boundaryBelow_succ b i hpos]

theorem iterate_boundaryAbove (hi : i < b.size) (c : Nat) (hn : 0 < n) :
    (fun x : Nat × Nat => (b.boundaryAbove x.1 1, 0))^[n] (i, c) = (b.boundaryAbove i n, 0) := by
  induction n generalizing i c with
  | zero => exact absurd hn (Nat.lt_irrefl 0)
  | succ n ih =>
    rw [Function.iterate_succ_apply]
    rcases Nat.eq_zero_or_pos n with rfl | hpos
    · rfl
    · rw [ih (boundaryAbove_lt hi 1) _ hpos, boundaryAbove_succ hi hpos]

end Buffer

/-- A line and a column as a position. -/
def Position.ofNats (x : Nat × Nat) : Position :=
  ⟨x.1, x.2⟩

namespace Motion

variable {b : Buffer} {m : Motion} {f : Nat × Nat → Nat × Nat}

/-- One step of a motion that a count repeats, from a line and a column. Vertical motions, which aim
at a column, are not among them. -/
def step? (b : Buffer) : Motion → Option (Nat × Nat → Nat × Nat)
  | .left => some fun x => (x.1, x.2 - 1)
  | .right => some fun x => (x.1, min (x.2 + 1) (b.line x.1).length)
  | .nextWord g => some fun x => (x.1, g.nextWord (b.line x.1) x.2)
  | .wordStart g => some fun x => (x.1, g.wordStart (b.line x.1) x.2)
  | .wordEnd g => some fun x => (x.1, g.wordEnd (b.line x.1) x.2)
  | .paragraphBelow => some fun x => (b.boundaryBelow x.1 1, 0)
  | .paragraphAbove => some fun x => (b.boundaryAbove x.1 1, 0)
  | .sentenceAhead => some b.nextSentence
  | .sentenceBehind => some b.previousSentence
  | _ => none

/-- A motion with a count leads as far as that many steps. -/
theorem run_of_step? (h : m.step? b = some f) (pos : Position) (count : Option Int) :
    ∃ landing, m.run b pos count = some landing ∧
      landing.position =
        .ofNats (f^[times count] ((b.locate pos).line, (b.locate pos).col)) := by
  have hcol := b.col_locate_le pos
  have hpos := times_pos count
  unfold run
  cases m with
  | left =>
    cases h
    refine ⟨_, rfl, ?_⟩
    simp only [iterate_on_line fun _ c => c - 1, iterate_sub_one]
    rfl
  | right =>
    cases h
    refine ⟨_, rfl, ?_⟩
    have hgoal : (fun c => min (c + 1) (b.line (b.locate pos).line).length)^[times count]
        (b.locate pos).col = _ := iterate_add_one_min hcol (times count)
    simp only [iterate_on_line fun i c => min (c + 1) (b.line i).length, hgoal]
    rfl
  | nextWord g =>
    cases h
    refine ⟨_, rfl, ?_⟩
    simp only [iterate_on_line fun i c => g.nextWord (b.line i) c, settle_eq_iterate]
    rfl
  | wordStart g =>
    cases h
    refine ⟨_, rfl, ?_⟩
    simp only [iterate_on_line fun i c => g.wordStart (b.line i) c, settle_eq_iterate]
    rfl
  | wordEnd g =>
    cases h
    refine ⟨_, rfl, ?_⟩
    simp only [iterate_on_line fun i c => g.wordEnd (b.line i) c, Grain.wordEnds_eq_iterate]
    rfl
  | paragraphBelow =>
    cases h
    refine ⟨_, rfl, ?_⟩
    simp only [b.iterate_boundaryBelow _ hpos]
    rfl
  | paragraphAbove =>
    cases h
    refine ⟨_, rfl, ?_⟩
    have hline : (b.locate pos).line < b.size := b.clampLine_lt pos.line
    simp only [Buffer.iterate_boundaryAbove hline _ hpos]
    rfl
  | sentenceAhead =>
    cases h
    refine ⟨_, rfl, ?_⟩
    simp only [settle_eq_iterate]
    rfl
  | sentenceBehind =>
    cases h
    refine ⟨_, rfl, ?_⟩
    simp only [settle_eq_iterate]
    rfl
  | _ => cases h

theorem step?_lt {x : Nat × Nat} (h : m.step? b = some f) (hx : x.1 < b.size) :
    (f x).1 < b.size := by
  cases m with
  | left | right | nextWord g | wordStart g | wordEnd g =>
    cases h
    exact hx
  | paragraphBelow =>
    cases h
    exact b.boundaryBelow_lt x.1 1
  | paragraphAbove =>
    cases h
    exact Buffer.boundaryAbove_lt hx 1
  | sentenceAhead =>
    cases h
    exact Buffer.nextSentence_lt hx
  | sentenceBehind =>
    cases h
    exact Buffer.previousSentence_lt hx
  | _ => cases h

end Motion

namespace Buffer

variable {b : Buffer} {room : Nat} {f : Nat × Nat → Nat × Nat} {x : Nat × Nat}

/-- The seat for a cursor nearest to a place of a line: with room for a character after it in normal
mode, for none in the visual modes. -/
def seat (b : Buffer) (room : Nat) (x : Nat × Nat) : Nat × Nat :=
  (x.1, min x.2 ((b.line x.1).length - room))

@[simp] theorem seat_seat (b : Buffer) (room : Nat) (x : Nat × Nat) :
    b.seat room (b.seat room x) = b.seat room x := by
  simp [seat]

theorem seat_eq_self_iff : b.seat room x = x ↔ x.2 ≤ (b.line x.1).length - room := by
  simp only [seat, Prod.ext_iff, true_and]
  omega

theorem seat_ahead (g : Nat → Nat → Nat) (hg : ∀ i c, min c (b.line i).length ≤ g i c) :
    Function.Semiconj (b.seat room) (fun x => (x.1, g x.1 x.2))
      (b.seat room ∘ fun x => (x.1, g x.1 x.2)) := by
  intro ⟨i, c⟩
  simp only [seat, Function.comp_apply, Prod.mk.injEq, true_and]
  rcases Nat.le_total c ((b.line i).length - room) with h | h
  · rw [Nat.min_eq_left h]
  · have hfar := hg i c
    have hlast := hg i ((b.line i).length - room)
    rw [Nat.min_eq_right h]
    omega

theorem seat_back (g : Nat → Nat → Nat) (hg : ∀ i c, g i c ≤ c) (hx : b.seat room x = x) :
    b.seat room (x.1, g x.1 x.2) = (x.1, g x.1 x.2) := by
  rw [seat_eq_self_iff] at hx ⊢
  exact Nat.le_trans (hg x.1 x.2) hx

theorem find?_sentenceStarts (hroom : room ≤ 1) {i c : Nat}
    (h : (b.line i).length - room ≤ c) :
    (sentenceStarts (b.line i)).find? (c < ·) = none := by
  apply List.find?_eq_none.2
  intro start hs
  have hlt := sentenceStarts_lt hs
  simp only [decide_eq_true_eq]
  omega

theorem seat_nextSentence (hroom : room ≤ 1) :
    Function.Semiconj (b.seat room) b.nextSentence (b.seat room ∘ b.nextSentence) := by
  intro ⟨i, c⟩
  rcases Nat.le_total c ((b.line i).length - room) with h | h
  · have hseat : b.seat room (i, c) = (i, c) := seat_eq_self_iff.2 h
    rw [Function.comp_apply, hseat]
  · have hseat : b.seat room (i, c) = (i, (b.line i).length - room) := by
      simp only [seat, Nat.min_eq_right h]
    have hsame : b.nextSentence (i, c) = b.nextSentence (i, (b.line i).length - room) := by
      simp only [nextSentence, find?_sentenceStarts hroom h,
        find?_sentenceStarts hroom (Nat.le_refl _)]
    rw [Function.comp_apply, hseat, hsame]

theorem seat_previousSentence (hroom : room ≤ 1) (hx : b.seat room x = x) :
    b.seat room (b.previousSentence x) = b.previousSentence x := by
  obtain ⟨i, c⟩ := x
  rw [seat_eq_self_iff] at hx ⊢
  simp only [previousSentence]
  split
  · rename_i start hs
    have hlt : start < c := by simpa using List.find?_some hs
    exact Nat.le_trans (Nat.le_of_lt hlt) hx
  · split
    · exact Nat.le_trans (sentenceStarts_getLastD_le _) (Nat.sub_le_sub_left hroom _)
    · exact Nat.zero_le _

end Buffer

namespace Motion

variable {b : Buffer} {m : Motion} {f : Nat × Nat → Nat × Nat} {room : Nat} {x : Nat × Nat}

/-- Steps ahead may start from the seat instead of the place; steps back lead from seat to seat. -/
theorem step?_seat (h : m.step? b = some f) (hroom : room ≤ 1) :
    Function.Semiconj (b.seat room) f (b.seat room ∘ f) ∨
      ∀ x, b.seat room x = x → b.seat room (f x) = f x := by
  cases m with
  | left =>
    cases h
    exact .inr fun x => Buffer.seat_back (fun _ c => c - 1) fun i c => Nat.sub_le c 1
  | right =>
    cases h
    refine .inl (Buffer.seat_ahead (fun i c => min (c + 1) (b.line i).length) fun i c => ?_)
    omega
  | nextWord g =>
    cases h
    refine .inl (Buffer.seat_ahead (fun i => g.nextWord (b.line i)) fun i c => ?_)
    exact Nat.le_trans (Nat.min_le_left _ _) (Nat.le_add_right _ _)
  | wordStart g =>
    cases h
    refine .inr fun x => Buffer.seat_back (fun i => g.wordStart (b.line i)) fun i c => ?_
    exact Nat.le_trans (Nat.sub_le _ _) (Nat.min_le_left _ _)
  | wordEnd g =>
    cases h
    refine .inl (Buffer.seat_ahead (fun i => g.wordEnd (b.line i)) fun i c => ?_)
    rw [Grain.wordEnd, Nat.add_assoc]
    exact Nat.le_trans (Nat.min_le_left _ _) (Nat.le_add_right _ _)
  | paragraphBelow =>
    cases h
    exact .inl fun _ => rfl
  | paragraphAbove =>
    cases h
    exact .inl fun _ => rfl
  | sentenceAhead =>
    cases h
    exact .inl (Buffer.seat_nextSentence hroom)
  | sentenceBehind =>
    cases h
    exact .inr fun x => Buffer.seat_previousSentence hroom
  | _ => cases h

theorem iterate_seat (h : m.step? b = some f) (hroom : room ≤ 1) (hx : b.seat room x = x)
    (n : Nat) : (b.seat room ∘ f)^[n] x = b.seat room (f^[n] x) := by
  rcases step?_seat h hroom with hahead | hback
  · have hn := hahead.iterate_right n x
    rw [hn, hx]
  · have hn : (b.seat room ∘ f)^[n] x = f^[n] x ∧ b.seat room (f^[n] x) = f^[n] x := by
      induction n with
      | zero => exact ⟨rfl, hx⟩
      | succ n ih =>
        have hnext := hback _ ih.2
        rw [Function.iterate_succ_apply', Function.iterate_succ_apply', ih.1]
        exact ⟨hnext, hnext⟩
    rw [hn.1, hn.2]

/-- One more step leads from a seat to the seat of one more step. -/
theorem seat_step_seat (h : m.step? b = some f) (hroom : room ≤ 1) (hx : b.seat room x = x)
    (n : Nat) : b.seat room (f (b.seat room (f^[n] x))) = b.seat room (f^[n + 1] x) := by
  have hn := iterate_seat h hroom hx n
  have hsucc := iterate_seat h hroom hx (n + 1)
  rw [← hsucc, Function.iterate_succ_apply', hn]
  rfl

theorem iterate_step?_lt (h : m.step? b = some f) (hx : x.1 < b.size) (n : Nat) :
    (f^[n] x).1 < b.size := by
  induction n with
  | zero => exact hx
  | succ n ih =>
    rw [Function.iterate_succ_apply']
    exact step?_lt h ih

/-- The line that a vertical motion leads to. -/
def goalLine (b : Buffer) : Motion → Nat → Nat → Nat
  | .down, i, n => min (i + n) b.lastLine
  | .up, i, n => i - n
  | _, i, _ => i

theorem run_vertical {i : Nat} (hm : m = .up ∨ m = .down) (hi : i < b.size) (col : Int)
    (count : Option Int) :
    (m.run b ⟨i, col⟩ count).map Landing.position =
      let goal := m.goalLine b i (times count)
      if goal = i then none else some ⟨goal, min col (b.line goal).length⟩ := by
  have hline : (b.locate ⟨i, col⟩).line = i := Buffer.clampLine_natCast hi
  unfold run
  rcases hm with rfl | rfl
  · simp only [hline, goalLine, apply_ite, Option.map_none, Option.map_some]
    rfl
  · simp only [hline, goalLine, apply_ite, Option.map_none, Option.map_some]
    rfl

theorem span_of_vertical {pos : Position} {count : Option Int} {landing : Landing}
    (hm : m = .up ∨ m = .down) (h : m.run b pos count = some landing) :
    landing.span ≠ none := by
  unfold run at h
  rcases hm with rfl | rfl
  · simp only at h
    split at h
    · cases h
    · cases h
      exact Option.some_ne_none _
  · simp only at h
    split at h
    · cases h
    · cases h
      exact Option.some_ne_none _

theorem goalLine_succ {i : Nat} (hi : i < b.size) (n : Nat) :
    m.goalLine b i (n + 1) = m.goalLine b (m.goalLine b i n) 1 := by
  have hlast : i ≤ b.lastLine := Nat.le_sub_one_of_lt hi
  cases m with
  | down =>
    simp only [goalLine]
    omega
  | up => exact (Nat.sub_sub i n 1).symm
  | _ => rfl

theorem goalLine_lt {i : Nat} (hi : i < b.size) (n : Nat) : m.goalLine b i n < b.size := by
  have hlast := b.lastLine_lt_size
  cases m with
  | down =>
    simp only [goalLine]
    omega
  | up => exact Nat.lt_of_le_of_lt (Nat.sub_le i n) hi
  | _ => exact hi

theorem goalLine_eq_self {i n : Nat} (hi : i < b.size) (h : m.goalLine b i (n + 2) = i) :
    m.goalLine b i (n + 1) = i := by
  have hlast : i ≤ b.lastLine := Nat.le_sub_one_of_lt hi
  cases m with
  | down =>
    simp only [goalLine] at h ⊢
    omega
  | up =>
    simp only [goalLine] at h ⊢
    omega
  | _ => rfl

theorem goalLine_one_eq_self {i n : Nat} (hi : i < b.size) (h : m.goalLine b i (n + 1) = i) :
    m.goalLine b i 1 = i := by
  induction n with
  | zero => exact h
  | succ n ih => exact ih (goalLine_eq_self hi h)

end Motion

end ModalEdit
