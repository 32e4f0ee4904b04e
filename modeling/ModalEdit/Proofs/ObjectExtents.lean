import ModalEdit.Proofs.Extents
import ModalEdit.TextObject

namespace ModalEdit

namespace Stretch

/-- The stretch ends on the line. -/
def Within (s : Stretch) (line : Line) : Prop :=
  s.first ≤ line.length ∧ s.last ≤ line.length

theorem within_around (p : Char → Bool) {line : Line} {col : Nat} (h : col ≤ line.length) :
    (around p line col).Within line := by
  have hahead := runLength_le p (line.drop col)
  rw [List.length_drop] at hahead
  constructor
  · exact Nat.le_trans (Nat.sub_le _ _) h
  · simp only [around]
    omega

theorem Within.grow {s : Stretch} {line : Line} (h : s.Within line) (p q : Char → Bool) :
    (s.grow line p q).Within line := by
  obtain ⟨hf, hl⟩ := h
  have hafter := runLength_le p (line.drop s.last)
  rw [List.length_drop] at hafter
  simp only [Stretch.grow]
  split
  · exact ⟨hf, by simp only; omega⟩
  · exact ⟨Nat.le_trans (Nat.sub_le _ _) hf, hl⟩

theorem Within.inside {s : Stretch} {b : Buffer} {spot : Spot} (h : s.Within spot.text)
    (hs : spot.In b) :
    b.Contains (s.toSpan spot.line).start ∧ b.Contains (s.toSpan spot.line).stop :=
  ⟨hs.contains_at h.1, hs.contains_at h.2⟩

end Stretch

theorem within_wordStretch {g : Grain} {text : Line} {col : Nat} {outer : Bool} {s : Stretch}
    (h : wordStretch g text col outer = some s) : s.Within text := by
  simp only [wordStretch, Option.bind_eq_bind, Option.bind_eq_some_iff] at h
  obtain ⟨c, hc, h⟩ := h
  have hcol : col ≤ text.length := Nat.le_of_lt (List.getElem?_eq_some_iff.1 hc).1
  have hinner := Stretch.within_around (fun d => g.classify d == g.classify c) hcol
  split at h
  · cases h
    exact hinner
  · split at h
    · cases h
      exact hinner.grow _ _
    · cases h
      exact hinner.grow _ _

theorem occurrence?_lt {word text : List Char} {i : Nat} (hw : word ≠ [])
    (h : occurrence? word text = some i) : i < text.length := by
  induction text generalizing i with
  | nil => simp [occurrence?, hw] at h
  | cons c rest ih =>
    simp only [occurrence?] at h
    split at h
    · cases h
      exact Nat.succ_pos _
    · obtain ⟨j, hj, rfl⟩ := Option.map_eq_some_iff.1 h
      exact Nat.succ_lt_succ (ih hj)

theorem within_quotationStretch {quote : List Char} {line : Line} {col : Nat} {outer : Bool}
    {s : Stretch} (hq : quote ≠ []) (h : quotationStretch quote line col outer = some s) :
    s.Within line := by
  simp only [quotationStretch, Option.bind_eq_bind, Option.bind_eq_some_iff] at h
  obtain ⟨first, hfirst, h⟩ := h
  have hfirst := occurrence?_lt hq hfirst
  split at h
  · cases h
  · obtain ⟨width, hwidth, h⟩ := Option.bind_eq_some_iff.1 h
    have hwidth := occurrence?_lt hq hwidth
    rw [List.length_drop] at hwidth
    split at h
    · cases h
    · cases h
      split
      · exact ⟨Nat.le_of_lt hfirst, by simp only; omega⟩
      · exact ⟨hfirst, by simp only; omega⟩

theorem sentenceEnd_le (line : Line) (col : Nat) : sentenceEnd line col ≤ line.length :=
  Nat.min_le_left _ _

theorem within_sentenceStretch {text : Line} {col : Nat} {outer : Bool} {s : Stretch}
    (h : sentenceStretch text col outer = some s) : s.Within text := by
  simp only [sentenceStretch, Option.bind_eq_bind, Option.bind_eq_some_iff] at h
  obtain ⟨c, hc, h⟩ := h
  have hcol : col ≤ text.length := Nat.le_of_lt (List.getElem?_eq_some_iff.1 hc).1
  split at h
  · have hinner := Stretch.within_around isBlank hcol
    split at h
    · cases h
      exact ⟨hinner.1, sentenceEnd_le _ _⟩
    · cases h
      exact hinner
  · have hfirst : ((sentenceStarts text).reverse.find? (· ≤ col)).getD (firstNonBlank text) ≤
        text.length := by
      cases hs : (sentenceStarts text).reverse.find? (· ≤ col) with
      | none => exact firstNonBlank_le text
      | some start =>
        have hm := List.mem_reverse.1 (List.mem_of_find?_eq_some hs)
        exact Nat.le_of_lt (sentenceStarts_lt hm)
    cases h
    split
    · exact Stretch.Within.grow ⟨hfirst, sentenceEnd_le _ _⟩ _ _
    · exact ⟨hfirst, sentenceEnd_le _ _⟩

namespace Buffer

theorem paragraphAround_lt {b : Buffer} {i : Nat} (h : i < b.size) (outer : Bool) :
    (b.paragraphAround i outer).1 < b.size ∧ (b.paragraphAround i outer).2 < b.size := by
  have hsize : b.lines.length = b.size := rfl
  have hbelow (p : Line → Bool) {j : Nat} (hj : j < b.size) :
      j + runLength p (b.lines.drop (j + 1)) < b.size := by
    have := runLength_le p (b.lines.drop (j + 1))
    rw [List.length_drop] at this
    omega
  have habove (n : Nat) {j : Nat} (hj : j < b.size) : j - n < b.size :=
    Nat.lt_of_le_of_lt (Nat.sub_le j n) hj
  unfold paragraphAround
  simp only
  split
  · exact ⟨habove _ h, hbelow _ h⟩
  · split
    · exact ⟨habove _ h, hbelow _ (hbelow _ h)⟩
    · split
      · exact ⟨habove _ h, hbelow _ h⟩
      · exact ⟨habove _ (habove _ h), hbelow _ h⟩

end Buffer

namespace TextObject

theorem contains_find {o : TextObject} {b : Buffer} {pos : Position} {outer : Bool} {span : Span}
    (ho : o ≠ .quotation []) (h : o.find b pos outer = some span) :
    b.Contains span.start ∧ b.Contains span.stop := by
  have hs := b.in_locate pos
  unfold find at h
  generalize b.locate pos = s at hs h
  cases o with
  | word g =>
    obtain ⟨stretch, hstretch, rfl⟩ := Option.map_eq_some_iff.1 h
    exact (within_wordStretch hstretch).inside hs
  | quotation quote =>
    obtain ⟨stretch, hstretch, rfl⟩ := Option.map_eq_some_iff.1 h
    have hq : quote ≠ [] := fun e => ho (congrArg _ e)
    exact (within_quotationStretch hq hstretch).inside hs
  | bracketed kind =>
    obtain ⟨⟨first, last⟩, hpair, rfl⟩ := Option.map_eq_some_iff.1 h
    obtain ⟨_, hfirst, hlast⟩ := Buffer.enclosing_getElem? hs hpair
    have hf := (List.getElem?_eq_some_iff.1 hfirst).1
    have hl := (List.getElem?_eq_some_iff.1 hlast).1
    simp only
    split
    · exact ⟨Buffer.contains_positionAt (Nat.le_of_lt hf), Buffer.contains_positionAt hl⟩
    · exact ⟨Buffer.contains_positionAt hf, Buffer.contains_positionAt (Nat.le_of_lt hl)⟩
  | paragraph =>
    cases h
    obtain ⟨htop, hbottom⟩ := Buffer.paragraphAround_lt hs.line_lt outer
    exact ⟨Buffer.contains_natCast.2 ⟨htop, Nat.zero_le _⟩,
      Buffer.contains_natCast.2 ⟨hbottom, Nat.zero_le _⟩⟩
  | sentence =>
    obtain ⟨stretch, hstretch, rfl⟩ := Option.map_eq_some_iff.1 h
    exact (within_sentenceStretch hstretch).inside hs

theorem ne_empty_quotation_of_ofKey? {c : Char} {o : TextObject} (h : ofKey? c = some o) :
    o ≠ .quotation [] := by
  rintro rfl
  unfold ofKey? at h
  split at h <;> cases h

end TextObject

end ModalEdit
