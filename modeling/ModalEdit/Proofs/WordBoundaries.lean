import Mathlib.Order.Bounds.Defs
import ModalEdit.Proofs.Extents
import ModalEdit.Proofs.Stretches

namespace ModalEdit

/-- The least element of a set, or another number if the set is empty. -/
def IsLeastOr (S : Set Nat) (other n : Nat) : Prop :=
  IsLeast S n ∨ (∀ i, i ∉ S) ∧ n = other

/-- The greatest element of a set, or another number if the set is empty. -/
def IsGreatestOr (S : Set Nat) (other n : Nat) : Prop :=
  IsGreatest S n ∨ (∀ i, i ∉ S) ∧ n = other

theorem IsLeastOr.shift {S T : Set Nat} {other k n : Nat} (h : IsLeastOr S other n)
    (hlow : ∀ i ∈ T, k ≤ i) (hmem : ∀ i, i + k ∈ T ↔ i ∈ S) :
    IsLeastOr T (other + k) (n + k) := by
  have hsub {i : Nat} (hi : i ∈ T) : i - k ∈ S := by
    rw [← hmem, Nat.sub_add_cancel (hlow i hi)]
    exact hi
  rcases h with ⟨hin, hleast⟩ | ⟨hempty, rfl⟩
  · refine .inl ⟨(hmem n).2 hin, fun i hi => ?_⟩
    have hle := hleast (hsub hi)
    have hk := hlow i hi
    omega
  · exact .inr ⟨fun i hi => hempty _ (hsub hi), rfl⟩

/-- What comes first on one side of a place comes last on the other side of it, when the places are
counted from there. -/
theorem IsLeastOr.mirror {S T : Set Nat} {k s : Nat} (h : IsLeastOr S s k) (hS : ∀ i ∈ S, i < s)
    (hT : ∀ i ∈ T, i < s) (hmem : ∀ i < s, s - 1 - i ∈ S ↔ i ∈ T) :
    IsGreatestOr T 0 (s - min (k + 1) s) := by
  have hmirror {i : Nat} (hi : i ∈ T) : s - 1 - i ∈ S := (hmem i (hT i hi)).2 hi
  rcases h with ⟨hin, hleast⟩ | ⟨hempty, rfl⟩
  · have hlt := hS k hin
    rw [Nat.min_eq_left hlt]
    refine .inl ⟨?_, fun i hi => ?_⟩
    · rw [← hmem _ (by omega), show s - 1 - (s - (k + 1)) = k by omega]
      exact hin
    · have hle := hleast (hmirror hi)
      have hi' := hT i hi
      omega
  · rw [Nat.min_eq_right (Nat.le_succ k), Nat.sub_self]
    exact .inr ⟨fun i hi => hempty _ (hmirror hi), rfl⟩

namespace Grain

/-- A word begins at the column: the character there is not blank, and the one before it, if any, is
of another class. -/
def IsWordStart (g : Grain) (text : Line) (i : Nat) : Prop :=
  text[i]?.any (!isBlank ·) = true ∧
    (i = 0 ∨ text[i - 1]?.map g.classify ≠ text[i]?.map g.classify)

/-- A word ends with the column: the character there is not blank, and the one after it, if any, is
of another class. -/
def IsWordEnd (g : Grain) (text : Line) (i : Nat) : Prop :=
  text[i]?.any (!isBlank ·) = true ∧ text[i + 1]?.map g.classify ≠ text[i]?.map g.classify

instance (g : Grain) (text : Line) (i : Nat) : Decidable (g.IsWordStart text i) :=
  inferInstanceAs (Decidable (_ ∧ _))

instance (g : Grain) (text : Line) (i : Nat) : Decidable (g.IsWordEnd text i) :=
  inferInstanceAs (Decidable (_ ∧ _))

variable {g : Grain} {text rest : Line} {c d : Char} {i s : Nat}

theorem isWordStart_drop (hi : 0 < i) :
    g.IsWordStart (text.drop s) i ↔ g.IsWordStart text (i + s) := by
  have hbefore : s + (i - 1) = i + s - 1 := by omega
  simp only [IsWordStart, List.getElem?_drop, hbefore, Nat.add_comm s i]
  exact and_congr_right fun _ => or_congr (by omega) Iff.rfl

theorem isWordEnd_drop : g.IsWordEnd (text.drop s) i ↔ g.IsWordEnd text (i + s) := by
  have hafter : s + (i + 1) = i + s + 1 := by omega
  simp only [IsWordEnd, List.getElem?_drop, hafter, Nat.add_comm s i]

theorem isWordEnd_reverse_take (hs : s ≤ text.length) (hi : i < s) :
    g.IsWordEnd (text.take s).reverse (s - 1 - i) ↔ g.IsWordStart text i := by
  have hat : (text.take s).reverse[s - 1 - i]? = text[i]? := by
    rw [getElem?_reverse_take hs (by omega), show s - 1 - (s - 1 - i) = i by omega]
  simp only [IsWordEnd, IsWordStart, hat]
  refine and_congr_right fun hin => ?_
  by_cases hzero : i = 0
  · have hend : (text.take s).reverse[s - 1 - i + 1]? = none := by
      rw [List.getElem?_eq_none]
      rw [List.length_reverse, List.length_take_of_le hs]
      omega
    refine iff_of_true (fun h => ?_) (.inl hzero)
    rw [hend] at h
    rw [Option.map_eq_none_iff.1 h.symm] at hin
    cases hin
  · have hafter : (text.take s).reverse[s - 1 - i + 1]? = text[i - 1]? := by
      rw [getElem?_reverse_take hs (by omega), show s - 1 - (s - 1 - i + 1) = i - 1 by omega]
    rw [hafter]
    exact (or_iff_right hzero).symm

theorem isBlank_congr (h : g.classify d = g.classify c) : isBlank d = isBlank c := by
  rw [Bool.eq_iff_iff, ← classify_eq_blank (g := g), h, classify_eq_blank]

theorem headRun_cons (g : Grain) (c : Char) (rest : Line) :
    g.headRun (c :: rest) = runLength (fun d => g.classify d == g.classify c) rest + 1 := by
  rw [headRun, runLength_cons, if_pos (beq_self_eq_true _)]

theorem headRun_cons_cons (h : g.classify d = g.classify c) (rest : Line) :
    g.headRun (c :: d :: rest) = g.headRun (d :: rest) + 1 := by
  rw [headRun_cons, headRun_cons, runLength_cons, h, if_pos (beq_self_eq_true _)]

theorem headRun_cons_of_end (h : ∀ d ∈ rest.head?, g.classify d ≠ g.classify c) :
    g.headRun (c :: rest) = 1 := by
  rw [headRun_cons]
  cases rest with
  | nil => rfl
  | cons d rest =>
    rw [runLength_cons, if_neg fun he => h d rfl (eq_of_beq he)]

theorem strideToEnd_cons_of_blank (h : isBlank c = true) :
    g.strideToEnd (c :: rest) = g.strideToEnd rest + 1 := by
  rw [strideToEnd, strideToEnd, runLength_cons, if_pos h, List.dropWhile_cons_of_pos h]
  omega

theorem strideToEnd_cons_of_not_blank (h : isBlank c = false) :
    g.strideToEnd (c :: rest) = g.headRun (c :: rest) - 1 := by
  have hno : ¬ isBlank c = true := Bool.eq_false_iff.1 h
  rw [strideToEnd, runLength_cons, if_neg hno, List.dropWhile_cons_of_neg hno, Nat.zero_add]

theorem strideToEnd_cons (g : Grain) (c : Char) (rest : Line) :
    g.strideToEnd (c :: rest) =
      if g.IsWordEnd (c :: rest) 0 then 0 else g.strideToEnd rest + 1 := by
  cases hblank : isBlank c with
  | true =>
    have hno : ¬ g.IsWordEnd (c :: rest) 0 := fun h => by
      simp [IsWordEnd, hblank] at h
    rw [strideToEnd_cons_of_blank hblank, if_neg hno]
  | false =>
    rw [strideToEnd_cons_of_not_blank hblank]
    cases rest with
    | nil =>
      have hend : g.IsWordEnd [c] 0 := by simp [IsWordEnd, hblank]
      rw [if_pos hend, headRun_cons]
      rfl
    | cons d rest =>
      by_cases hclass : g.classify d = g.classify c
      · have hno : ¬ g.IsWordEnd (c :: d :: rest) 0 := fun h => h.2 (congrArg some hclass)
        rw [if_neg hno, headRun_cons_cons hclass,
          strideToEnd_cons_of_not_blank ((isBlank_congr hclass).trans hblank), headRun_cons]
        rfl
      · have hend : g.IsWordEnd (c :: d :: rest) 0 :=
          ⟨by simp [hblank], fun h => hclass (Option.some.inj h)⟩
        rw [if_pos hend, headRun_cons_of_end]
        rintro _ ⟨⟩
        exact hclass

theorem strideToNext_cons_of_blank (h : isBlank c = true) :
    g.strideToNext (c :: rest) = runLength isBlank (c :: rest) := by
  have hrun : g.headRun (c :: rest) = runLength isBlank (c :: rest) := by
    have hclass : (fun d => g.classify d == g.classify c) = isBlank := by
      funext d
      rw [classify_eq_blank.2 h, Bool.eq_iff_iff, beq_iff_eq, classify_eq_blank]
    rw [headRun, hclass]
  rw [strideToNext, hrun, runLength_drop_runLength, Nat.add_zero]

/-- The stride to the next word goes on as long as no word begins. -/
theorem strideToNext_cons (g : Grain) (c : Char) (rest : Line) :
    g.strideToNext (c :: rest) =
      if g.IsWordStart (c :: rest) 1 then 1 else g.strideToNext rest + 1 := by
  cases rest with
  | nil =>
    have hno : ¬ g.IsWordStart [c] 1 := fun h => by cases h.1
    rw [if_neg hno, strideToNext, headRun_cons]
    rfl
  | cons d rest =>
    by_cases hclass : g.classify d = g.classify c
    · have hno : ¬ g.IsWordStart (c :: d :: rest) 1 := fun h =>
        h.2.elim Nat.one_ne_zero fun hne => hne (congrArg some hclass.symm)
      rw [if_neg hno, strideToNext, headRun_cons_cons hclass, List.drop_succ_cons, strideToNext]
      omega
    · have hrun : g.headRun (c :: d :: rest) = 1 := by
        refine headRun_cons_of_end ?_
        rintro _ ⟨⟩
        exact hclass
      rw [strideToNext, hrun, List.drop_one, List.tail_cons]
      cases hblank : isBlank d with
      | true =>
        have hno : ¬ g.IsWordStart (c :: d :: rest) 1 := fun h => by
          simp [IsWordStart, hblank] at h
        rw [if_neg hno, strideToNext_cons_of_blank hblank, Nat.add_comm]
      | false =>
        have hstart : g.IsWordStart (c :: d :: rest) 1 :=
          ⟨by simp [hblank], .inr fun h => hclass (Option.some.inj h).symm⟩
        rw [if_pos hstart, runLength_cons, if_neg (Bool.eq_false_iff.1 hblank)]

/-- The stride back to the start of a word goes one further than the end of that word, read
backwards; where there is none, it goes as far as the text. -/
theorem strideToStart_eq (g : Grain) (behind : Line) :
    g.strideToStart behind = min (g.strideToEnd behind + 1) behind.length := by
  induction behind with
  | nil => rfl
  | cons c rest ih =>
    cases hblank : isBlank c with
    | true =>
      rw [strideToStart] at ih
      rw [strideToEnd_cons_of_blank hblank, strideToStart, runLength_cons, if_pos hblank,
        List.dropWhile_cons_of_pos hblank, List.length_cons]
      omega
    | false =>
      have hno : ¬ isBlank c = true := Bool.eq_false_iff.1 hblank
      have hle := g.headRun_le (c :: rest)
      rw [strideToEnd_cons_of_not_blank hblank, strideToStart, runLength_cons, if_neg hno,
        List.dropWhile_cons_of_neg hno]
      rw [headRun_cons] at hle ⊢
      omega

theorem isLeastOr_strideToEnd (g : Grain) (text : Line) :
    IsLeastOr {i | g.IsWordEnd text i} text.length (g.strideToEnd text) := by
  induction text with
  | nil => exact .inr ⟨fun i hi => absurd (lt_length_of_any hi.1) (Nat.not_lt_zero i), rfl⟩
  | cons c rest ih =>
    rw [strideToEnd_cons]
    split
    · rename_i hend
      exact .inl ⟨hend, fun i _ => Nat.zero_le i⟩
    · rename_i hno
      refine ih.shift (fun i hi => ?_) fun i => isWordEnd_drop.symm
      apply Nat.pos_of_ne_zero
      rintro rfl
      exact hno hi

theorem isLeastOr_strideToNext (g : Grain) (text : Line) :
    IsLeastOr {i | 0 < i ∧ g.IsWordStart text i} text.length (g.strideToNext text) := by
  induction text with
  | nil => exact .inr ⟨fun i hi => absurd (lt_length_of_any hi.2.1) (Nat.not_lt_zero i), rfl⟩
  | cons c rest ih =>
    rw [strideToNext_cons]
    split
    · rename_i hstart
      exact .inl ⟨⟨Nat.one_pos, hstart⟩, fun i hi => hi.1⟩
    · rename_i hno
      refine ih.shift (fun i hi => hi.1) fun i => ?_
      cases i with
      | zero => exact iff_of_false (fun h => hno h.2) fun h => absurd h.1 (Nat.lt_irrefl 0)
      | succ i =>
        exact and_congr (iff_of_true (Nat.succ_pos _) (Nat.succ_pos i))
          (isWordStart_drop (Nat.succ_pos i)).symm

theorem isLeastOr_nextWord (g : Grain) (hs : s ≤ text.length) :
    IsLeastOr {i | s < i ∧ g.IsWordStart text i} text.length (g.nextWord text s) := by
  have h := (g.isLeastOr_strideToNext (text.drop s)).shift
    (T := {i | s < i ∧ g.IsWordStart text i}) (k := s) (fun i hi => Nat.le_of_lt hi.1)
    fun i => ?_
  · rwa [List.length_drop, Nat.sub_add_cancel hs, Nat.add_comm] at h
  · constructor
    · rintro ⟨hi, hstart⟩
      have hpos : 0 < i := by omega
      exact ⟨hpos, (isWordStart_drop hpos).2 hstart⟩
    · rintro ⟨hpos, hstart⟩
      exact ⟨by omega, (isWordStart_drop hpos).1 hstart⟩

theorem isLeastOr_wordEnd (g : Grain) (hs : s < text.length) :
    IsLeastOr {i | s < i ∧ g.IsWordEnd text i} text.length (g.wordEnd text s) := by
  have h := (g.isLeastOr_strideToEnd (text.drop (s + 1))).shift
    (T := {i | s < i ∧ g.IsWordEnd text i}) (k := s + 1) (fun i hi => hi.1) fun i => ?_
  · rwa [List.length_drop, Nat.sub_add_cancel hs, Nat.add_comm] at h
  · exact (and_iff_right (by omega)).trans isWordEnd_drop.symm

theorem isGreatestOr_wordStart (g : Grain) (hs : s ≤ text.length) :
    IsGreatestOr {i | i < s ∧ g.IsWordStart text i} 0 (g.wordStart text s) := by
  have hlen : (text.take s).reverse.length = s := by
    rw [List.length_reverse, List.length_take_of_le hs]
  have h := g.isLeastOr_strideToEnd (text.take s).reverse
  rw [hlen] at h
  rw [wordStart, Nat.min_eq_left hs, strideToStart_eq, hlen]
  refine h.mirror (fun i hi => ?_) (fun i hi => hi.1) fun i hi => ?_
  · exact hlen ▸ lt_length_of_any hi.1
  · exact (isWordEnd_reverse_take hs hi).trans (and_iff_right hi).symm

theorem wordStart_nextWord (h : g.IsWordStart text s) :
    g.wordStart text (g.nextWord text s) = s := by
  have hlt := lt_length_of_any h.1
  have hahead : s < g.nextWord text s ∧ ∀ i, s < i → i < g.nextWord text s →
      ¬ g.IsWordStart text i := by
    rcases g.isLeastOr_nextWord (Nat.le_of_lt hlt) with ⟨hin, hleast⟩ | ⟨hnone, hlast⟩
    · exact ⟨hin.1, fun i hi hlt' hstart => absurd (hleast ⟨hi, hstart⟩) (Nat.not_le.2 hlt')⟩
    · exact ⟨hlast ▸ hlt, fun i hi _ hstart => hnone i ⟨hi, hstart⟩⟩
  obtain ⟨hpast, hbetween⟩ := hahead
  rcases g.isGreatestOr_wordStart (nextWord_le (Nat.le_of_lt hlt)) with ⟨hin, hgreatest⟩ | ⟨hnone, _⟩
  · have hle : s ≤ g.wordStart text (g.nextWord text s) := hgreatest ⟨hpast, h⟩
    apply Nat.le_antisymm _ hle
    apply Nat.le_of_not_lt
    intro hlt'
    exact hbetween _ hlt' hin.1 hin.2
  · exact absurd ⟨hpast, h⟩ (hnone s)

/-- The steps ahead, back and to the end of a word lead to the nearest place of their kind, or, where
there is none, to the end or the start of the line. The step back undoes the step ahead from every
start of a word. -/
theorem steps_nearest_boundary (g : Grain) (hs : s ≤ text.length) :
    IsLeastOr {i | s < i ∧ g.IsWordStart text i} text.length (g.nextWord text s) ∧
      IsGreatestOr {i | i < s ∧ g.IsWordStart text i} 0 (g.wordStart text s) ∧
      (s < text.length →
        IsLeastOr {i | s < i ∧ g.IsWordEnd text i} text.length (g.wordEnd text s)) ∧
      (g.IsWordStart text s → g.wordStart text (g.nextWord text s) = s) :=
  ⟨g.isLeastOr_nextWord hs, g.isGreatestOr_wordStart hs, g.isLeastOr_wordEnd, wordStart_nextWord⟩

theorem steps_nearest_boundary_punctuation :
    let text := "ab, c".toList
    IsLeastOr {i | 0 < i ∧ word.IsWordStart text i} 5 2 ∧
      word.wordStart text 2 = 0 ∧
      IsLeastOr {i | 0 < i ∧ bigWord.IsWordStart text i} 5 4 ∧
      IsLeastOr {i | 0 < i ∧ bigWord.IsWordEnd text i} 5 2 := by
  intro text
  obtain ⟨hnext, _, _, hback⟩ := word.steps_nearest_boundary (Nat.zero_le text.length)
  obtain ⟨hbig, _, hend, _⟩ := bigWord.steps_nearest_boundary (Nat.zero_le text.length)
  exact ⟨hnext, hback (by decide), hbig, hend (by decide)⟩

end Grain

end ModalEdit
