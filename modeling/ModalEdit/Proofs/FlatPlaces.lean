import Mathlib.Order.Hom.Basic
import ModalEdit.Proofs.FlatEdits

namespace ModalEdit

namespace Buffer

/-- The places of a buffer in reading order are the offsets of its text, its end included. -/
def offsetIso (b : Buffer) : {p // b.Contains p} ≃o Fin (b.text.length + 1) where
  toFun p :=
    ⟨b.offset p.1.line.toNat p.1.col.toNat, Nat.lt_succ_of_le p.2.standsAt.le_length⟩
  invFun k := ⟨b.positionAt k, contains_positionAt (Nat.le_of_lt_succ k.2)⟩
  left_inv p := Subtype.ext ((standsAt_iff p.2.standsAt.le_length).1 p.2.standsAt).symm
  right_inv k := Fin.ext (standsAt_positionAt (Nat.le_of_lt_succ k.2)).2
  map_rel_iff' {p q} := (p.2.standsAt.le_iff q.2.standsAt).symm

/-- Looking up the offset of a place and the position of an offset undo each other and keep the
order, and no place and no offset is left out. At an offset stands the character of its place; past
the end of a line, that is the line break before the next line. -/
theorem offsets_name_places (b : Buffer) :
    ∃ f : {p // b.Contains p} ≃o Fin (b.text.length + 1),
      (∀ p : {p // b.Contains p}, offsetIn b.starts p = .ok (f p : Nat)) ∧
        (∀ k : Fin (b.text.length + 1), positionIn b.starts (k : Nat) = f.symm k) ∧
        ∀ (i c : Nat) (h : b.Contains ⟨i, c⟩),
          b.text[(f ⟨⟨i, c⟩, h⟩ : Nat)]? =
            if c < (b.line i).length then (b.line i)[c]?
            else if i + 1 < b.size then some '\n' else none := by
  refine ⟨b.offsetIso, ?_, fun _ => rfl, ?_⟩
  · rintro ⟨p, h⟩
    obtain ⟨i, c, rfl, hi, _⟩ := h.exists_natCast
    exact offsetIn_natCast hi c
  · intro i c h
    obtain ⟨hi, hc⟩ := contains_natCast.1 h
    have hat : b.text[(b.offsetIso ⟨⟨i, c⟩, h⟩ : Nat)]? = charIn b.lines i c :=
      getElem?_offset_eq_charIn hi hc
    rw [hat]
    split
    · rename_i hlt
      exact charIn_of_lt hlt
    · rename_i hge
      have hend : c = (b.line i).length := Nat.le_antisymm hc (Nat.le_of_not_lt hge)
      rw [hend]
      exact charIn_length b.lines i

/-- The line break after the first line stands at the end of that line, and the next offset is the
start of the empty line after it. -/
example : positionIn (ofText "ab\n\ncd".toList).starts 2 = ⟨0, 2⟩ ∧
    positionIn (ofText "ab\n\ncd".toList).starts 3 = ⟨1, 0⟩ := by decide

end Buffer

end ModalEdit
