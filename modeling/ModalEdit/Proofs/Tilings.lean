import ModalEdit.Proofs.Places
import ModalEdit.Proofs.Stretches

namespace ModalEdit

/-- Stretches of a list, one for each index, that cut it into runs of one class. -/
structure Tiles {α κ : Type} (f : α → κ) (xs : List α) (tile : Nat → Stretch) : Prop where
  covers : ∀ i < xs.length, (tile i).Covers i
  within : ∀ i < xs.length, (tile i).last ≤ xs.length
  alike : ∀ i < xs.length, ∀ j, (tile i).Covers j → xs[j]?.map f = xs[i]?.map f
  apart : ∀ i < xs.length, ∀ j < xs.length,
    tile i = tile j ∨ (tile i).last ≤ (tile j).first ∨ (tile j).last ≤ (tile i).first
  differ : ∀ i < xs.length, ∀ j < xs.length, (tile i).last = (tile j).first →
    xs[i]?.map f ≠ xs[j]?.map f

/-- The stretch is the run of the class of one element, as far as it goes on either side. -/
structure Stretch.IsClassRun {α κ : Type} (f : α → κ) (xs : List α) (i : Nat) (s : Stretch) :
    Prop where
  covers : s.Covers i
  alike : ∀ j, s.Covers j → xs[j]?.map f = xs[i]?.map f
  before : ∀ j, j + 1 = s.first → xs[j]?.map f ≠ xs[i]?.map f
  after : xs[s.last]?.map f ≠ xs[i]?.map f

section Runs

variable {α κ : Type} {f : α → κ} {xs : List α} {i j k : Nat} {s t : Stretch}

namespace Stretch

theorem IsClassRun.first_le (hs : s.IsClassRun f xs i) (ht : t.IsClassRun f xs j)
    (hsk : s.Covers k) (htk : t.Covers k) : t.first ≤ s.first := by
  apply Nat.le_of_not_lt
  intro hlt
  have hfirst := htk.1
  have hlast := hsk.2
  have hin : s.Covers (t.first - 1) := ⟨by omega, by omega⟩
  refine ht.before (t.first - 1) (by omega) ?_
  rw [hs.alike _ hin, ← hs.alike k hsk, ht.alike k htk]

theorem IsClassRun.last_le (hs : s.IsClassRun f xs i) (ht : t.IsClassRun f xs j)
    (hsk : s.Covers k) (htk : t.Covers k) : s.last ≤ t.last := by
  apply Nat.le_of_not_lt
  intro hlt
  have hin : s.Covers t.last := ⟨Nat.le_trans hsk.1 (Nat.le_of_lt htk.2), hlt⟩
  refine ht.after ?_
  rw [hs.alike _ hin, ← hs.alike k hsk, ht.alike k htk]

theorem IsClassRun.eq (hs : s.IsClassRun f xs i) (ht : t.IsClassRun f xs j)
    (hsk : s.Covers k) (htk : t.Covers k) : s = t := by
  have hfirst := Nat.le_antisymm (ht.first_le hs htk hsk) (hs.first_le ht hsk htk)
  have hlast := Nat.le_antisymm (hs.last_le ht hsk htk) (ht.last_le hs htk hsk)
  cases s
  cases t
  exact congrArg₂ _ hfirst hlast

theorem IsClassRun.last_le_length (h : s.IsClassRun f xs i) (hi : i < xs.length) :
    s.last ≤ xs.length := by
  apply Nat.le_of_not_lt
  intro hlt
  have hin : s.Covers xs.length := ⟨Nat.le_trans h.covers.1 (Nat.le_of_lt hi), hlt⟩
  have hend := h.alike _ hin
  rw [List.getElem?_eq_none (Nat.le_refl _), List.getElem?_eq_getElem hi] at hend
  cases hend

end Stretch

theorem tiles_of_isClassRun {tile : Nat → Stretch}
    (h : ∀ i < xs.length, (tile i).IsClassRun f xs i) : Tiles f xs tile where
  covers i hi := (h i hi).covers
  within i hi := (h i hi).last_le_length hi
  alike i hi := (h i hi).alike
  apart i hi j hj := by
    have hi' := (h i hi).covers
    have hj' := (h j hj).covers
    by_cases hij : (tile i).last ≤ (tile j).first
    · exact .inr (.inl hij)
    · by_cases hji : (tile j).last ≤ (tile i).first
      · exact .inr (.inr hji)
      · -- The later of the two beginnings belongs to both.
        have hk : (tile i).Covers (max (tile i).first (tile j).first) :=
          ⟨Nat.le_max_left _ _, Nat.max_lt.2
            ⟨Nat.lt_of_le_of_lt hi'.1 hi'.2, Nat.lt_of_not_le hij⟩⟩
        have hk' : (tile j).Covers (max (tile i).first (tile j).first) :=
          ⟨Nat.le_max_right _ _, Nat.max_lt.2
            ⟨Nat.lt_of_not_le hji, Nat.lt_of_le_of_lt hj'.1 hj'.2⟩⟩
        exact .inl ((h i hi).eq (h j hj) hk hk')
  differ i hi j hj heq := by
    have hj' := (h j hj).covers
    have hin : (tile j).Covers (tile i).last :=
      ⟨Nat.le_of_eq heq.symm, heq ▸ Nat.lt_of_le_of_lt hj'.1 hj'.2⟩
    rw [← (h j hj).alike _ hin]
    exact (h i hi).after.symm

/-- The elements of the class of one element, counted on either side of it, are its run. -/
theorem isClassRun_around [BEq κ] [LawfulBEq κ] {x : α} (hx : xs[i]? = some x) :
    let p := fun y => f y == f x
    Stretch.IsClassRun f xs i
      ⟨i - runLength p (xs.take i).reverse, i + runLength p (xs.drop i)⟩ := by
  intro p
  have hlen : i ≤ xs.length := Nat.le_of_lt (List.getElem?_eq_some_iff.1 hx).1
  have hany (j : Nat) : xs[j]?.any p = true ↔ xs[j]?.map f = xs[i]?.map f := by
    rw [hx]
    cases xs[j]? with
    | none => simp
    | some y => simp [p]
  have hnot {j : Nat} (h : xs[j]?.any p = false) : xs[j]?.map f ≠ xs[i]?.map f := by
    rw [Ne, ← hany, h]
    exact Bool.false_ne_true
  have hstart : 0 < runLength p (xs.drop i) := runLength_pos (by
    rw [List.getElem?_drop]
    exact (hany i).2 rfl)
  exact {
    covers := ⟨Nat.sub_le _ _, Nat.lt_add_of_pos_right hstart⟩
    alike := fun j hj => (hany j).1 (any_of_run_around hlen hj.1 hj.2)
    before := fun j hj => hnot (any_before_run hlen hj)
    after := hnot (any_after_run p xs i) }

end Runs

/-- The inner form of a word is the run of one class around the column. -/
theorem isClassRun_wordStretch (g : Grain) {text : Line} {col : Nat} (hcol : col < text.length) :
    ∃ tile, wordStretch g text col false = some tile ∧ tile.IsClassRun g.classify text col := by
  have hc : text[col]? = some text[col] := List.getElem?_eq_getElem hcol
  refine ⟨_, ?_, isClassRun_around hc⟩
  simp only [wordStretch, hc, Option.bind_eq_bind, Option.bind_some, Bool.not_false, if_true]
  rfl

theorem Buffer.isClassRun_paragraphAround (b : Buffer) {i : Nat} (hi : i < b.size) :
    Stretch.IsClassRun isBlankLine b.lines i
      ⟨(b.paragraphAround i false).1, (b.paragraphAround i false).2 + 1⟩ := by
  have hline : b.lines[i]? = some (b.line i) := by
    rw [line, List.getD_eq_getElem _ _ hi]
    exact List.getElem?_eq_getElem hi
  have hrun := isClassRun_around (f := isBlankLine) hline
  have hdrop : b.lines.drop i = b.line i :: b.lines.drop (i + 1) := by
    rw [line, List.getD_eq_getElem _ _ hi]
    exact List.drop_eq_getElem_cons hi
  simp only [hdrop, runLength_cons, beq_self_eq_true, if_true, ← Nat.add_assoc] at hrun
  exact hrun

namespace TextObject

/-- The inner objects at the columns of a line are its maximal runs of one class, and the inner
paragraphs at the lines of a buffer are its maximal runs of blank lines and of other lines. -/
theorem inner_objects_tile (b : Buffer) :
    (∀ g i, ∃ tile, Tiles (Grain.classify g) (b.line i) tile ∧
      ∀ col < (b.line i).length,
        (word g).find b ⟨i, col⟩ false = some ((tile col).toSpan i)) ∧
      ∃ tile, Tiles isBlankLine b.lines tile ∧
        ∀ i < b.size, ∀ col, paragraph.find b ⟨i, col⟩ false =
          some ⟨⟨(tile i).first, 0⟩, ⟨(tile i).last - 1, 0⟩, .linewise⟩ := by
  constructor
  · intro g i
    refine ⟨fun col => (wordStretch g (b.line i) col false).getD ⟨col, col⟩, ?_, ?_⟩
    · refine tiles_of_isClassRun fun col hcol => ?_
      obtain ⟨tile, htile, hrun⟩ := isClassRun_wordStretch g hcol
      rwa [htile, Option.getD_some]
    · intro col hcol
      obtain ⟨tile, htile, _⟩ := isClassRun_wordStretch g hcol
      have hi : i < b.size := Buffer.lt_size_of_getElem? (List.getElem?_eq_getElem hcol)
      simp only [find, Buffer.locate_natCast hi (Nat.le_of_lt hcol), htile, Option.map_some,
        Option.getD_some]
  · refine ⟨fun i => ⟨(b.paragraphAround i false).1, (b.paragraphAround i false).2 + 1⟩, ?_, ?_⟩
    · exact tiles_of_isClassRun fun i hi => b.isClassRun_paragraphAround hi
    · intro i hi col
      simp only [find, Buffer.line_locate, Buffer.clampLine_natCast hi, Int.natCast_add,
        Int.natCast_one, Int.add_sub_cancel]

end TextObject

end ModalEdit
