import ModalEdit.Proofs.InnermostPair
import ModalEdit.Proofs.Partners

namespace ModalEdit

namespace Bracket

variable {b : Bracket} {text : List Char} {i j : Nat}

theorem opener?_of_opening (h : text[i]? = some b.opening) : b.opener? text i = some i :=
  if_pos h

/-- On a closing mark the pair is searched from where the jump leads. -/
theorem opener?_of_closing (h : text[i]? = some b.closing) :
    b.opener? text i = partnerAt text i b := by
  have hno : ¬ text[i]? = some b.opening := fun ho => not_closing_of_opening ho h
  rw [opener?, partnerAt, if_neg hno, if_neg hno]

theorem Matched.exists_partner {o c : Nat} (hm : b.Matched text o c)
    (hopener : b.opener? text i = some o)
    (hmark : text[i]? = some b.opening ∨ text[i]? = some b.closing) :
    ∃ j, partnerAt text i b = some j := by
  rcases hmark with hmark | hmark
  · rw [opener?_of_opening hmark] at hopener
    cases hopener
    exact ⟨c, (partnerAt_of_opening hmark).2 hm⟩
  · exact ⟨o, (opener?_of_closing hmark).symm.trans hopener⟩

theorem lt_length_of_mark (hmark : text[i]? = some b.opening ∨ text[i]? = some b.closing) :
    i < text.length :=
  hmark.elim (fun h => (List.getElem?_eq_some_iff.1 h).1)
    fun h => (List.getElem?_eq_some_iff.1 h).1

theorem Paired.enclosingPair_eq (h : b.Paired text i j) :
    enclosingPair text i b = some (min i j, max i j) := by
  have hlen : i ≤ text.length := Nat.le_of_lt (lt_length_of_mark h.holds_mark)
  have hfound {o c : Nat} (hm : b.Matched text o c) (hi : i = o ∨ i = c) :
      enclosingPair text i b = some (o, c) := by
    have hlt := hm.lt
    refine (enclosingPair_eq_some_iff hlen).2 ⟨⟨hm, by omega, by omega⟩, ?_⟩
    intro o' c' he
    refine he.le_opener hlen ?_
    rcases hi with rfl | rfl
    · exact opener?_of_opening hm.opening
    · rw [opener?_of_closing hm.closing]
      exact (partnerAt_of_closing hm.closing).2 hm
  rcases h with hm | hm
  · rw [Nat.min_eq_left (Nat.le_of_lt hm.lt), Nat.max_eq_right (Nat.le_of_lt hm.lt)]
    exact hfound hm (.inl rfl)
  · rw [Nat.min_eq_right (Nat.le_of_lt hm.lt), Nat.max_eq_left (Nat.le_of_lt hm.lt)]
    exact hfound hm (.inr rfl)

/-- On a bracket the search for a pair and the search for a partner find the same marks. -/
theorem enclosingPair_eq_map_partnerAt
    (hmark : text[i]? = some b.opening ∨ text[i]? = some b.closing) :
    enclosingPair text i b = (partnerAt text i b).map fun j => (min i j, max i j) := by
  cases hpartner : partnerAt text i b with
  | some j => exact ((partnerAt_eq_some_iff hmark).1 hpartner).enclosingPair_eq
  | none =>
    have hlen : i < text.length := lt_length_of_mark hmark
    cases hpair : enclosingPair text i b with
    | none => rfl
    | some pair =>
      obtain ⟨he, hopener⟩ := encloses_of_enclosingPair (Nat.le_of_lt hlen) hpair
      obtain ⟨j, hj⟩ := he.1.exists_partner hopener hmark
      cases hpartner.symm.trans hj

end Bracket

namespace Buffer

variable {b : Buffer} {s : Spot} {kind : Bracket}

theorem partner_of_mark (hkind : kind.jumps = true)
    (hmark : s.text[s.col]? = some kind.opening ∨ s.text[s.col]? = some kind.closing) :
    b.partner s = (partnerAt b.text (b.offset s.line s.col) kind).map b.positionAt := by
  have hat {mark : Char} (hm : s.text[s.col]? = some mark) (hk : Bracket.ofChar? mark = some kind) :
      b.partner s = (partnerAt b.text (b.offset s.line s.col) kind).map b.positionAt := by
    obtain ⟨hlt, rfl⟩ := List.getElem?_eq_some_iff.1 hm
    have hahead : s.ahead = s.text[s.col] :: s.text.drop (s.col + 1) :=
      List.drop_eq_getElem_cons hlt
    have hjumps : (Bracket.ofChar? s.text[s.col]).filter Bracket.jumps = some kind := by
      rw [hk, Option.filter_some, hkind, if_pos rfl]
    simp only [partner, hahead, List.findIdx?_cons, hjumps, Option.isSome_some, if_true,
      Option.bind_eq_bind, Option.bind_some, List.getElem?_cons_zero, Nat.add_zero]
    exact Option.map_eq_bind.symm
  rcases hmark with hm | hm
  · exact hat hm (Bracket.ofChar?_opening kind)
  · exact hat hm (Bracket.ofChar?_closing kind)

end Buffer

namespace TextObject

variable {b : Buffer} {kind : Bracket} {i c : Nat}

/-- On a bracket the object of its kind runs from the earlier to the later of the bracket and its
partner. -/
theorem find_bracketed_of_mark
    (hmark : (b.line i)[c]? = some kind.opening ∨ (b.line i)[c]? = some kind.closing)
    (outer : Bool) :
    (bracketed kind).find b ⟨i, c⟩ outer =
      (partnerAt b.text (b.offset i c) kind).map fun q =>
        let first := min (b.offset i c) q
        let last := max (b.offset i c) q
        if outer then ⟨b.positionAt first, b.positionAt (last + 1), .charwise⟩
        else ⟨b.positionAt (first + 1), b.positionAt last, .charwise⟩ := by
  have hi : i < b.size := hmark.elim Buffer.lt_size_of_getElem? Buffer.lt_size_of_getElem?
  have hc : c < (b.line i).length := Bracket.lt_length_of_mark hmark
  rw [← Buffer.getElem?_offset hi hc] at hmark
  simp only [find, Buffer.locate_natCast hi (Nat.le_of_lt hc), Buffer.enclosing,
    Bracket.enclosingPair_eq_map_partnerAt hmark, Option.map_map]
  rfl

/-- On a round, square or curly bracket there is an object of its kind exactly where the bracket has
a partner. The object runs from the earlier of the two to past the later one, or, without its marks,
from past the earlier one to the later one. -/
theorem find_bracketed_eq_partner (hkind : kind.jumps = true)
    (hmark : (b.line i)[c]? = some kind.opening ∨ (b.line i)[c]? = some kind.closing) :
    let p := b.offset i c
    let partner := b.partner (b.locate ⟨i, c⟩)
    (∀ outer, partner = none ↔ (bracketed kind).find b ⟨i, c⟩ outer = none) ∧
      ∀ goal, partner = some goal → ∃ q around inner,
        b.StandsAt goal q ∧
          (bracketed kind).find b ⟨i, c⟩ true = some around ∧ around.shape = .charwise ∧
          b.StandsAt around.start (min p q) ∧ b.StandsAt around.stop (max p q + 1) ∧
          (bracketed kind).find b ⟨i, c⟩ false = some inner ∧ inner.shape = .charwise ∧
          b.StandsAt inner.start (min p q + 1) ∧ b.StandsAt inner.stop (max p q) := by
  intro p partner
  have hi : i < b.size := hmark.elim Buffer.lt_size_of_getElem? Buffer.lt_size_of_getElem?
  have hc : c < (b.line i).length := Bracket.lt_length_of_mark hmark
  have hfind := find_bracketed_of_mark hmark
  have hpartner : partner = (partnerAt b.text p kind).map b.positionAt := by
    simp only [partner, Buffer.locate_natCast hi (Nat.le_of_lt hc)]
    exact Buffer.partner_of_mark hkind hmark
  constructor
  · intro outer
    rw [hpartner, hfind, Option.map_eq_none_iff, Option.map_eq_none_iff]
  · intro goal hgoal
    rw [hpartner] at hgoal
    obtain ⟨q, hq, rfl⟩ := Option.map_eq_some_iff.1 hgoal
    rw [← Buffer.getElem?_offset hi hc] at hmark
    have hpair := (Bracket.partnerAt_eq_some_iff hmark).1 hq
    have hlen : max p q < b.text.length := Nat.max_lt.2
      ⟨Bracket.lt_length_of_mark hmark, Bracket.lt_length_of_mark hpair.symm.holds_mark⟩
    have hstands {k : Nat} (hk : k ≤ max p q + 1) : b.StandsAt (b.positionAt k) k :=
      Buffer.standsAt_positionAt (Nat.le_trans hk hlen)
    have hfound (outer : Bool) := (hfind outer).trans (congrArg _ hq)
    exact ⟨q, _, _, hstands (by omega), hfound true, rfl, hstands (by omega),
      hstands (Nat.le_refl _), hfound false, rfl, hstands (by omega), hstands (by omega)⟩

theorem find_bracketed_eq_partner_across_lines :
    let b := Buffer.ofText ['a', '(', '\n', '(', ')', ')']
    b.partner (b.locate ⟨1, 2⟩) = some ⟨0, 1⟩ ∧
      ∃ around inner,
        (bracketed .round).find b ⟨1, 2⟩ true = some around ∧
          b.StandsAt around.start 1 ∧ b.StandsAt around.stop 6 ∧
          (bracketed .round).find b ⟨1, 2⟩ false = some inner ∧
          b.StandsAt inner.start 2 ∧ b.StandsAt inner.stop 5 := by
  intro b
  have hmark : (b.line 1)[2]? = some Bracket.round.closing := rfl
  have hgoal : b.partner (b.locate ⟨1, 2⟩) = some ⟨0, 1⟩ := by decide
  obtain ⟨q, around, inner, hq, haround, _, hstart, hstop, hinner, _, hstart', hstop'⟩ :=
    (find_bracketed_eq_partner rfl (.inr hmark)).2 _ hgoal
  obtain rfl : 1 = q := hq.2
  exact ⟨hgoal, around, inner, haround, hstart, hstop, hinner, hstart', hstop'⟩

end TextObject

end ModalEdit
