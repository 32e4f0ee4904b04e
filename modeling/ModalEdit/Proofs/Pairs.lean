import ModalEdit.Bracket
import ModalEdit.Proofs.FlatText

namespace ModalEdit

theorem unmatched_getElem? {open' shut : Char} {depth k : Nat} {text : List Char}
    (h : unmatched open' shut depth text = some k) : text[k]? = some shut := by
  induction text generalizing depth k with
  | nil => simp [unmatched] at h
  | cons c rest ih =>
    simp only [unmatched] at h
    split at h
    · obtain ⟨j, hj, rfl⟩ := Option.map_eq_some_iff.1 h
      exact ih hj
    · split at h
      · rename_i hc
        cases depth with
        | zero =>
          cases h
          exact congrArg some hc
        | succ depth =>
          obtain ⟨j, hj, rfl⟩ := Option.map_eq_some_iff.1 h
          exact ih hj
      · obtain ⟨j, hj, rfl⟩ := Option.map_eq_some_iff.1 h
        exact ih hj

namespace Bracket

theorem closingIn_drop {b : Bracket} {text : List Char} {i k : Nat}
    (h : b.closingIn (text.drop i) = some k) : text[i + k]? = some b.closing := by
  have hk := unmatched_getElem? h
  rwa [List.getElem?_drop] at hk

theorem openingIn_take {b : Bracket} {text : List Char} {i k : Nat} (hi : i ≤ text.length)
    (h : b.openingIn (text.take i).reverse = some k) :
    k < i ∧ text[i - 1 - k]? = some b.opening := by
  have hk := unmatched_getElem? h
  have hlt : k < i := by
    have hlen := (List.getElem?_eq_some_iff.1 hk).1
    rw [List.length_reverse, List.length_take] at hlen
    omega
  refine ⟨hlt, ?_⟩
  rwa [getElem?_reverse_take hi hlt] at hk

theorem opening_ne_newline (b : Bracket) : b.opening ≠ '\n' := by
  cases b <;> decide

theorem closing_ne_newline (b : Bracket) : b.closing ≠ '\n' := by
  cases b <;> decide

end Bracket

theorem partnerAt_getElem? {text : List Char} {i j : Nat} {b : Bracket} (hi : i ≤ text.length)
    (h : partnerAt text i b = some j) :
    text[j]? = some b.opening ∨ text[j]? = some b.closing := by
  unfold partnerAt at h
  split at h
  · obtain ⟨k, hk, rfl⟩ := Option.map_eq_some_iff.1 h
    exact .inr (Bracket.closingIn_drop hk)
  · obtain ⟨k, hk, rfl⟩ := Option.map_eq_some_iff.1 h
    exact .inl (Bracket.openingIn_take hi hk).2

theorem enclosingPair_getElem? {text : List Char} {i first last : Nat} {b : Bracket}
    (hi : i ≤ text.length) (h : enclosingPair text i b = some (first, last)) :
    first < last ∧ text[first]? = some b.opening ∧ text[last]? = some b.closing := by
  have hpair {f : Nat} (hf : text[f]? = some b.opening)
      (hw : (b.closingIn (text.drop (f + 1))).bind (fun width => some (f, f + 1 + width)) =
        some (first, last)) :
      first < last ∧ text[first]? = some b.opening ∧ text[last]? = some b.closing := by
    obtain ⟨width, hwidth, he⟩ := Option.bind_eq_some_iff.1 hw
    cases he
    exact ⟨by omega, hf, Bracket.closingIn_drop hwidth⟩
  unfold enclosingPair at h
  split at h
  · rename_i ho
    exact hpair ho h
  · obtain ⟨f, hf, hw⟩ := Option.bind_eq_some_iff.1 h
    obtain ⟨k, hk, rfl⟩ := Option.map_eq_some_iff.1 hf
    exact hpair (Bracket.openingIn_take hi hk).2 hw

namespace Buffer

theorem enclosing_getElem? {b : Buffer} {s : Spot} {kind : Bracket} {first last : Nat}
    (hs : s.In b) (h : b.enclosing s kind = some (first, last)) :
    first < last ∧ b.text[first]? = some kind.opening ∧ b.text[last]? = some kind.closing :=
  enclosingPair_getElem? (offset_le hs.line_lt (hs.text_eq ▸ hs.col_le)) h

/-- The partner of a bracket is a place of the buffer with a place after it; the bracket itself
stands on the spot's line. -/
theorem contains_partner {b : Buffer} {s : Spot} {goal : Position} (hs : s.In b)
    (h : b.partner s = some goal) :
    s.col < s.text.length ∧ b.Contains goal ∧ b.Contains ⟨goal.line, goal.col + 1⟩ := by
  simp only [partner, Option.bind_eq_bind, Option.bind_eq_some_iff] at h
  obtain ⟨skipped, hskip, kind, _, target, ht, h⟩ := h
  cases h
  obtain ⟨hlt, _⟩ := List.findIdx?_eq_some_iff_getElem.1 hskip
  rw [Spot.ahead, List.length_drop] at hlt
  have hoff : b.offset s.line (s.col + skipped) ≤ b.text.length :=
    offset_le hs.line_lt (by rw [← hs.text_eq]; omega)
  have hmark : ∃ ch, b.text[target]? = some ch ∧ ch ≠ '\n' := by
    rcases partnerAt_getElem? hoff ht with hm | hm
    · exact ⟨_, hm, kind.opening_ne_newline⟩
    · exact ⟨_, hm, kind.closing_ne_newline⟩
  obtain ⟨ch, hch, hne⟩ := hmark
  refine ⟨by omega, contains_positionAt ?_, contains_after_positionAt hch hne⟩
  exact Nat.le_of_lt (List.getElem?_eq_some_iff.1 hch).1

end Buffer

end ModalEdit
