import ModalEdit.Proofs.Balance

namespace ModalEdit

namespace Bracket

variable {b : Bracket} {text : List Char} {i j k c : Nat}

theorem openingIn_eq_some_iff_matched (hc : text[c]? = some b.closing) :
    b.openingIn (text.take c).reverse = some k ↔ k < c ∧ b.Matched text (c - 1 - k) c := by
  have hlen : c ≤ text.length := Nat.le_of_lt (List.getElem?_eq_some_iff.1 hc).1
  rw [openingIn_eq_some_iff hlen, matched_iff]
  apply and_congr_right
  intro hk
  have hnext : c - 1 - k + 1 = c - k := by omega
  simp only [hnext, hc, true_and]
  constructor
  · rintro ⟨ho, hd, hall⟩
    refine ⟨by omega, ho, hd.symm, fun j hj hjc => ?_⟩
    rw [hd]
    exact hall j (by omega) hjc
  · rintro ⟨_, ho, hd, hall⟩
    refine ⟨ho, hd.symm, fun j hj hjc => ?_⟩
    rw [hd]
    exact hall j (by omega) hjc

/-- One of the two offsets holds an opening mark and the other the closing mark that matches it. -/
def Paired (b : Bracket) (text : List Char) (i j : Nat) : Prop :=
  b.Matched text i j ∨ b.Matched text j i

theorem Paired.symm (h : b.Paired text i j) : b.Paired text j i :=
  Or.symm h

theorem Paired.holds_mark (h : b.Paired text i j) :
    text[i]? = some b.opening ∨ text[i]? = some b.closing :=
  h.imp Matched.opening Matched.closing

theorem not_closing_of_opening (h : text[i]? = some b.opening) : text[i]? ≠ some b.closing := by
  rw [h]
  exact fun he => b.opening_ne_closing (Option.some.inj he)

theorem paired_iff_of_opening (h : text[i]? = some b.opening) :
    b.Paired text i j ↔ b.Matched text i j :=
  or_iff_left fun hm => not_closing_of_opening h hm.closing

theorem paired_iff_of_closing (h : text[i]? = some b.closing) :
    b.Paired text i j ↔ b.Matched text j i :=
  or_iff_right fun hm => not_closing_of_opening hm.opening h

theorem partnerAt_of_opening (h : text[i]? = some b.opening) :
    partnerAt text i b = some j ↔ b.Matched text i j := by
  rw [partnerAt, if_pos h, Option.map_eq_some_iff]
  simp only [closingIn_eq_some_iff h]
  constructor
  · rintro ⟨k, hm, rfl⟩
    exact hm
  · intro hm
    have hj : i + 1 + (j - (i + 1)) = j := Nat.add_sub_cancel' hm.lt
    exact ⟨j - (i + 1), hj.symm ▸ hm, hj⟩

theorem partnerAt_of_closing (h : text[i]? = some b.closing) :
    partnerAt text i b = some j ↔ b.Matched text j i := by
  have hno : ¬ text[i]? = some b.opening := fun ho => not_closing_of_opening ho h
  rw [partnerAt, if_neg hno, Option.map_eq_some_iff]
  simp only [openingIn_eq_some_iff_matched h]
  constructor
  · rintro ⟨k, ⟨_, hm⟩, rfl⟩
    exact hm
  · intro hm
    have hlt := hm.lt
    have hj : i - 1 - (i - 1 - j) = j := by omega
    exact ⟨i - 1 - j, ⟨by omega, hj.symm ▸ hm⟩, hj⟩

/-- From either mark of a bracket the search leads to its partner, and nowhere else. -/
theorem partnerAt_eq_some_iff (h : text[i]? = some b.opening ∨ text[i]? = some b.closing) :
    partnerAt text i b = some j ↔ b.Paired text i j := by
  rcases h with h | h
  · rw [partnerAt_of_opening h, paired_iff_of_opening h]
  · rw [partnerAt_of_closing h, paired_iff_of_closing h]

theorem partnerFrom_natCast (hb : b.jumps = true)
    (h : text[i]? = some b.opening ∨ text[i]? = some b.closing) :
    partnerFrom text i = .ok (partnerAt text i b) := by
  have hat {mark : Char} (hm : text[i]? = some mark) (hk : ofChar? mark = some b) :
      partnerFrom text i = .ok (partnerAt text i b) := by
    have hi : ¬ (i : Int) < 0 := Int.not_lt.2 (Int.natCast_nonneg i)
    simp only [partnerFrom, pick?_natCast, hm, hk, Option.filter_some, hb, if_true, if_neg hi,
      Int.toNat_natCast]
  rcases h with h | h
  · exact hat h (ofChar?_opening b)
  · exact hat h (ofChar?_closing b)

/-- The search from a bracket does not fail. A mark that it finds makes a pair with the bracket, with
the text between them balanced, and the search from there leads back; where it finds none, no mark
makes a pair with the bracket. -/
theorem partner_involutive (hb : b.jumps = true)
    (h : text[i]? = some b.opening ∨ text[i]? = some b.closing) :
    ∃ found, partnerFrom text i = .ok found ∧
      (∀ j, found = some j → b.Paired text i j ∧ partnerFrom text j = .ok (some i)) ∧
      (found = none → ∀ j, ¬ b.Paired text i j) := by
  refine ⟨_, partnerFrom_natCast hb h, ?_, ?_⟩
  · intro j hj
    have hpair := (partnerAt_eq_some_iff h).1 hj
    have hback := (partnerAt_eq_some_iff hpair.symm.holds_mark).2 hpair.symm
    exact ⟨hpair, (partnerFrom_natCast hb hpair.symm.holds_mark).trans (congrArg _ hback)⟩
  · intro hnone j hpair
    cases hnone.symm.trans ((partnerAt_eq_some_iff h).2 hpair)

theorem partner_involutive_nested :
    let text := ['(', '[', '(', ']', ')', ')', '(']
    (∃ j, partnerFrom text 0 = .ok (some j) ∧ round.Paired text 0 j ∧
        partnerFrom text j = .ok (some 0)) ∧
      ∀ j, ¬ round.Paired text 6 j := by
  intro text
  have hfirst : text[0]? = some round.opening := rfl
  have hlast : text[6]? = some round.opening := rfl
  constructor
  · obtain ⟨found, hfound, hsome, _⟩ := partner_involutive rfl (.inl hfirst)
    cases hfound
    exact ⟨5, rfl, hsome 5 rfl⟩
  · obtain ⟨found, hfound, _, hnone⟩ := partner_involutive rfl (.inl hlast)
    cases hfound
    exact hnone rfl

end Bracket

end ModalEdit
