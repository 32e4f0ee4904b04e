import Mathlib.Data.Nat.Init
import ModalEdit.Proofs.SpanOrder
import ModalEdit.Proofs.WordBoundaries

namespace ModalEdit

namespace Grain

variable {g : Grain} {text : Line} {c : Char} {col e : Nat}

/-- The columns from one on at which words end, in order. -/
def wordEndsFrom (g : Grain) (text : Line) (col : Nat) : List Nat :=
  (List.range' col (text.length - col)).filter (g.IsWordEnd text ·)

theorem wordEndsFrom_of_lt (h : col < text.length) :
    g.wordEndsFrom text col =
      if g.IsWordEnd text col then col :: g.wordEndsFrom text (col + 1)
      else g.wordEndsFrom text (col + 1) := by
  have hsize : text.length - col = text.length - (col + 1) + 1 := by omega
  rw [wordEndsFrom, hsize, List.range'_succ, List.filter_cons]
  simp only [decide_eq_true_eq]
  rfl

theorem wordEndsFrom_of_isLeast (h : IsLeast {i | col ≤ i ∧ g.IsWordEnd text i} e) :
    g.wordEndsFrom text col = e :: g.wordEndsFrom text (e + 1) := by
  obtain ⟨⟨hle, hend⟩, hleast⟩ := h
  have hlt := lt_length_of_any hend.1
  induction hle using Nat.decreasingInduction with
  | self => rw [wordEndsFrom_of_lt hlt, if_pos hend]
  | of_succ k hk ih =>
    have hno : ¬ g.IsWordEnd text k := fun hk' => by
      have := hleast ⟨Nat.le_refl k, hk'⟩
      omega
    rw [wordEndsFrom_of_lt (Nat.lt_trans hk hlt), if_neg hno]
    exact ih fun i hi => hleast ⟨Nat.le_of_succ_le hi.1, hi.2⟩

theorem wordEndsFrom_of_none (h : ∀ i, i ∉ {i | col ≤ i ∧ g.IsWordEnd text i}) :
    g.wordEndsFrom text col = [] := by
  refine List.filter_eq_nil_iff.2 fun i hi hend => ?_
  exact h i ⟨(List.mem_range'_1.1 hi).1, of_decide_eq_true hend⟩

theorem isLeastOr_runEnd (hc : text[col]? = some c) (hblank : isBlank c = false) :
    IsLeastOr {i | col ≤ i ∧ g.IsWordEnd text i} text.length (g.runEnd text col) := by
  obtain ⟨hlt, rfl⟩ := List.getElem?_eq_some_iff.1 hc
  have hrun : g.runEnd text col = g.strideToEnd (text.drop col) + col := by
    rw [runEnd, List.drop_eq_getElem_cons hlt, strideToEnd_cons_of_not_blank hblank, Nat.add_comm]
  have h := (g.isLeastOr_strideToEnd (text.drop col)).shift
    (T := {i | col ≤ i ∧ g.IsWordEnd text i}) (k := col) (fun i hi => hi.1) fun i => ?_
  · rwa [List.length_drop, Nat.sub_add_cancel (Nat.le_of_lt hlt), ← hrun] at h
  · exact (and_iff_right (Nat.le_add_left col i)).trans isWordEnd_drop.symm

/-- From the end of a word, each step to the end of a word takes the next one, and past the last of
them the step is off the line. -/
theorem min_wordEnds (he : e < text.length) (n : Nat) :
    min (g.wordEnds text n e + 1) text.length =
      ((e :: g.wordEndsFrom text (e + 1))[n]?).elim text.length (· + 1) := by
  induction n generalizing e with
  | zero => exact Nat.min_eq_left he
  | succ n ih =>
    rw [wordEnds_succ, List.getElem?_cons_succ]
    rcases g.isLeastOr_wordEnd he with hnext | ⟨hnone, hlast⟩
    · rw [wordEndsFrom_of_isLeast hnext]
      exact ih (lt_length_of_any hnext.1.2.1)
    · have hle := g.le_wordEnds text n (g.wordEnd text e)
      rw [wordEndsFrom_of_none hnone, Nat.min_eq_right (by omega)]
      rfl

end Grain

namespace Motion

variable {b : Buffer} {g : Grain} {i col n : Nat} {c : Char}

/-- From a character that is not blank, changing words with a count covers the line through the end
of a word with that number, counted from the cursor on, or all that is left if there are fewer. -/
theorem changeWord_covers_ends (hc : (b.line i)[col]? = some c) (hblank : isBlank c = false)
    (hn : 0 < n) :
    let ends := g.wordEndsFrom (b.line i) col
    let stop : Nat := (ends[n - 1]?).elim (b.line i).length (· + 1)
    ∃ landing, (changeWord g).run b ⟨i, col⟩ (some n) = some landing ∧
      landing.span = some ⟨⟨i, col⟩, ⟨i, stop⟩, .charwise⟩ := by
  intro ends stop
  have hi : i < b.size := Buffer.lt_size_of_getElem? hc
  have hcol : col < (b.line i).length := (List.getElem?_eq_some_iff.1 hc).1
  have htimes : times (some (n : Int)) = n := if_pos (Int.natCast_pos.2 hn)
  let goal := g.wordEnds (b.line i) (n - 1) (g.runEnd (b.line i) col)
  have hstop : min (goal + 1) (b.line i).length = stop := by
    rcases Grain.isLeastOr_runEnd (g := g) hc hblank with hend | ⟨hnone, hlast⟩
    · simp only [stop, ends, Grain.wordEndsFrom_of_isLeast hend]
      exact Grain.min_wordEnds (lt_length_of_any hend.1.2.1) (n - 1)
    · have hle : g.runEnd (b.line i) col ≤ goal := g.le_wordEnds (b.line i) (n - 1) _
      simp only [stop, ends, Grain.wordEndsFrom_of_none hnone]
      exact Nat.min_eq_right (by omega)
  have hrun : (changeWord g).run b ⟨i, col⟩ (some n) =
      some ((⟨i, b.line i, col⟩ : Spot).land goal col stop) := by
    rw [← hstop]
    simp only [run, Buffer.locate_natCast hi (Nat.le_of_lt hcol), if_neg (Nat.not_le.2 hcol),
      htimes]
    rfl
  exact ⟨_, hrun, rfl⟩

theorem changeWord_covers_ends_punctuation :
    let b := Buffer.ofText "ab, c ".toList
    (∃ landing, (changeWord .word).run b ⟨0, 0⟩ (some 3) = some landing ∧
        landing.span = some ⟨⟨0, 0⟩, ⟨0, 5⟩, .charwise⟩) ∧
      (∃ landing, (changeWord .word).run b ⟨0, 0⟩ (some 4) = some landing ∧
        landing.span = some ⟨⟨0, 0⟩, ⟨0, 6⟩, .charwise⟩) ∧
      ∃ landing, (changeWord .bigWord).run b ⟨0, 1⟩ (some 1) = some landing ∧
        landing.span = some ⟨⟨0, 1⟩, ⟨0, 3⟩, .charwise⟩ := by
  intro b
  have ha : (b.line 0)[0]? = some 'a' := rfl
  have hb : (b.line 0)[1]? = some 'b' := rfl
  exact ⟨changeWord_covers_ends ha rfl (n := 3) (by decide),
    changeWord_covers_ends ha rfl (n := 4) (by decide),
    changeWord_covers_ends hb rfl (n := 1) (by decide)⟩

end Motion

end ModalEdit
