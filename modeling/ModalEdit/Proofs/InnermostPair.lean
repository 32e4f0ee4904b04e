import ModalEdit.Proofs.Balance
import ModalEdit.Proofs.ObjectExtents

namespace ModalEdit

namespace Bracket

variable {b : Bracket} {text : List Char} {i o c : Nat}

/-- The two marks match, and the offset is on one of them or between them. -/
def Encloses (b : Bracket) (text : List Char) (i o c : Nat) : Prop :=
  b.Matched text o c ∧ o ≤ i ∧ i ≤ c

/-- The opening mark that a pair around an offset is searched from. -/
def opener? (b : Bracket) (text : List Char) (i : Nat) : Option Nat :=
  if text[i]? = some b.opening then some i
  else (b.openingIn (text.take i).reverse).map fun k => i - 1 - k

theorem enclosingPair_eq (text : List Char) (i : Nat) (b : Bracket) :
    enclosingPair text i b = (b.opener? text i).bind fun o =>
      (b.closingIn (text.drop (o + 1))).map fun width => (o, o + 1 + width) := by
  unfold enclosingPair opener?
  simp only [Option.map_eq_bind]
  split
  · rfl
  · rfl

theorem opener?_eq_some (hi : i ≤ text.length) (h : b.opener? text i = some o) :
    text[o]? = some b.opening ∧
      (o = i ∨ text[i]? ≠ some b.opening ∧ o < i ∧ b.depth text (o + 1) = b.depth text i ∧
        ∀ k, o < k → k ≤ i → b.depth text i ≤ b.depth text k) := by
  unfold opener? at h
  split at h
  · rename_i ho
    cases h
    exact ⟨ho, .inl rfl⟩
  · rename_i hno
    obtain ⟨k, hk, rfl⟩ := Option.map_eq_some_iff.1 h
    obtain ⟨hlt, ho, hd, hall⟩ := (openingIn_eq_some_iff hi).1 hk
    have hnext : i - 1 - k + 1 = i - k := by omega
    refine ⟨ho, .inr ⟨hno, by omega, hnext ▸ hd, fun j hj hji => hall j (by omega) hji⟩⟩

theorem opener?_eq_none (hi : i ≤ text.length) (h : b.opener? text i = none) :
    text[i]? ≠ some b.opening ∧ ∀ k ≤ i, b.depth text i ≤ b.depth text k := by
  unfold opener? at h
  split at h
  · cases h
  · rename_i hno
    exact ⟨hno, (openingIn_eq_none_iff hi).1 (Option.map_eq_none_iff.1 h)⟩

/-- No pair around the offset begins after the mark that the search starts from. -/
theorem Encloses.le_opener {o' : Nat} (he : b.Encloses text i o' c) (hi : i ≤ text.length)
    (h : b.opener? text i = some o) : o' ≤ o := by
  obtain ⟨hm, hle, hic⟩ := he
  obtain ⟨_, ho', _, _, hin⟩ := matched_iff.1 hm
  obtain ⟨_, rfl | ⟨hno, _, hd, hall⟩⟩ := opener?_eq_some hi h
  · exact hle
  · apply Nat.le_of_not_lt
    intro hlt
    rcases Nat.lt_or_eq_of_le hle with hlt' | rfl
    · -- The mark at `o'` is open at the offset, but nothing opened after `o` is.
      have hup := depth_succ_opening ho'
      have hlow := hall o' hlt hle
      have hhigh := hin i hlt' hic
      omega
    · exact hno ho'

theorem Encloses.exists_pair (he : b.Encloses text i o c) (hi : i ≤ text.length) :
    ∃ pair, enclosingPair text i b = some pair := by
  obtain ⟨hm, hle, hic⟩ := he
  obtain ⟨hlt, ho, hc, hd, hin⟩ := matched_iff.1 hm
  have hup := depth_succ_opening ho
  rw [enclosingPair_eq]
  cases hfirst : b.opener? text i with
  | none =>
    obtain ⟨hno, hall⟩ := opener?_eq_none hi hfirst
    rcases Nat.lt_or_eq_of_le hle with hlt' | rfl
    · have hlow := hall o hle
      have hhigh := hin i hlt' hic
      omega
    · exact absurd ho hno
  | some first =>
    have hle' := Encloses.le_opener ⟨hm, hle, hic⟩ hi hfirst
    obtain ⟨hf, hnear⟩ := opener?_eq_some hi hfirst
    have hfi : first ≤ i := by
      rcases hnear with rfl | ⟨_, hlt', _⟩
      · exact Nat.le_refl _
      · exact Nat.le_of_lt hlt'
    cases hwidth : b.closingIn (text.drop (first + 1)) with
    | some width =>
      refine ⟨(first, first + 1 + width), ?_⟩
      rw [Option.bind_some, hwidth, Option.map_some]
    | none =>
      -- Past the closing mark of the outer pair the text is less deep than inside the inner one.
      have hdown := depth_succ_closing hc
      have hlow := closingIn_eq_none_iff.1 hwidth (c + 1) (by omega)
      have hup' := depth_succ_opening hf
      rcases Nat.lt_or_eq_of_le hle' with hlt' | rfl
      · have hhigh := hin first hlt' (by omega)
        omega
      · omega

theorem encloses_of_enclosingPair (hi : i ≤ text.length)
    (h : enclosingPair text i b = some (o, c)) :
    b.Encloses text i o c ∧ b.opener? text i = some o := by
  rw [enclosingPair_eq] at h
  obtain ⟨first, hfirst, h⟩ := Option.bind_eq_some_iff.1 h
  obtain ⟨width, hwidth, h⟩ := Option.map_eq_some_iff.1 h
  cases h
  obtain ⟨ho, hnear⟩ := opener?_eq_some hi hfirst
  have hm := (closingIn_eq_some_iff ho).1 hwidth
  refine ⟨⟨hm, ?_⟩, hfirst⟩
  rcases hnear with rfl | ⟨_, hlt, hd, hall⟩
  · omega
  · refine ⟨Nat.le_of_lt hlt, Nat.le_of_not_lt fun hlt' => ?_⟩
    -- The pair would be closed before the offset, where its opening mark is still open.
    obtain ⟨_, _, hc, hd', _⟩ := matched_iff.1 hm
    have hdown := depth_succ_closing hc
    have hlow := hall (o + 1 + width + 1) (by omega) hlt'
    omega

theorem Matched.unique {c' : Nat} (h : b.Matched text o c) (h' : b.Matched text o c') : c = c' := by
  have hpartner {c : Nat} (h : b.Matched text o c) :
      b.closingIn (text.drop (o + 1)) = some (c - (o + 1)) := by
    rw [closingIn_eq_some_iff h.opening, Nat.add_sub_cancel' h.lt]
    exact h
  have heq := Option.some.inj ((hpartner h).symm.trans (hpartner h'))
  have hlt := h.lt
  have hlt' := h'.lt
  omega

theorem enclosingPair_eq_none_iff (hi : i ≤ text.length) :
    enclosingPair text i b = none ↔ ¬ ∃ o c, b.Encloses text i o c := by
  constructor
  · rintro hnone ⟨o, c, he⟩
    obtain ⟨pair, hpair⟩ := he.exists_pair hi
    cases hnone.symm.trans hpair
  · intro hno
    cases hpair : enclosingPair text i b with
    | none => rfl
    | some pair => exact absurd ⟨_, _, (encloses_of_enclosingPair hi hpair).1⟩ hno

/-- The pair that is found is the one around the offset that begins last. -/
theorem enclosingPair_eq_some_iff (hi : i ≤ text.length) :
    enclosingPair text i b = some (o, c) ↔
      b.Encloses text i o c ∧ ∀ o' c', b.Encloses text i o' c' → o' ≤ o := by
  constructor
  · intro h
    obtain ⟨he, hfirst⟩ := encloses_of_enclosingPair hi h
    exact ⟨he, fun o' c' he' => he'.le_opener hi hfirst⟩
  · rintro ⟨he, hlast⟩
    obtain ⟨⟨first, last⟩, hpair⟩ := he.exists_pair hi
    obtain ⟨he', hfirst⟩ := encloses_of_enclosingPair hi hpair
    obtain rfl : o = first := Nat.le_antisymm (he.le_opener hi hfirst) (hlast _ _ he')
    rw [hpair, he.1.unique he'.1]

end Bracket

namespace TextObject

/-- There is a bracket object exactly where a matched pair is around the place of the cursor. It is
that of the pair which begins last, without its marks or with them. -/
theorem find_bracketed_innermost (b : Buffer) (kind : Bracket) (pos : Position) (outer : Bool) :
    let i := b.offset (b.locate pos).line (b.locate pos).col
    ((bracketed kind).find b pos outer = none ↔ ¬ ∃ o c, kind.Encloses b.text i o c) ∧
      ∀ span, (bracketed kind).find b pos outer = some span ↔
        ∃ o c, (kind.Encloses b.text i o c ∧ ∀ o' c', kind.Encloses b.text i o' c' → o' ≤ o) ∧
          span.shape = .charwise ∧
          b.StandsAt span.start (if outer then o else o + 1) ∧
          b.StandsAt span.stop (if outer then c + 1 else c) := by
  intro i
  have hs := b.in_locate pos
  have hi : i ≤ b.text.length := Buffer.offset_le hs.line_lt (hs.text_eq ▸ hs.col_le)
  have hfind : (bracketed kind).find b pos outer = (enclosingPair b.text i kind).map fun pair =>
      ⟨b.positionAt (if outer then pair.1 else pair.1 + 1),
        b.positionAt (if outer then pair.2 + 1 else pair.2), .charwise⟩ := by
    cases outer with
    | false => rfl
    | true => rfl
  rw [hfind]
  constructor
  · rw [Option.map_eq_none_iff]
    exact Bracket.enclosingPair_eq_none_iff hi
  · intro span
    rw [Option.map_eq_some_iff, Prod.exists]
    apply exists₂_congr
    intro o c
    rw [Bracket.enclosingPair_eq_some_iff hi]
    apply and_congr_right
    rintro ⟨⟨hm, _⟩, _⟩
    have hlt := hm.lt
    have hlen := (List.getElem?_eq_some_iff.1 hm.closing).1
    rw [Buffer.standsAt_iff (by split <;> omega), Buffer.standsAt_iff (by split <;> omega)]
    obtain ⟨start, stop, shape⟩ := span
    simp only [Span.mk.injEq]
    constructor
    · rintro ⟨rfl, rfl, rfl⟩
      exact ⟨rfl, rfl, rfl⟩
    · rintro ⟨rfl, rfl, rfl⟩
      exact ⟨rfl, rfl, rfl⟩

/-- An opening mark without a partner takes no part. -/
example : (bracketed .round).find (.ofText ['(', '(', 'a', ')']) ⟨0, 2⟩ true =
    some ⟨⟨0, 1⟩, ⟨0, 4⟩, .charwise⟩ := by decide

end TextObject

end ModalEdit
