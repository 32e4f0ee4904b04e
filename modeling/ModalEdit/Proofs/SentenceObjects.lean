import ModalEdit.Proofs.Sentences
import ModalEdit.Proofs.Stretches

namespace ModalEdit

/-- The sentence that begins at a column. -/
def sentenceFrom (text : Line) (start : Nat) : Stretch :=
  ⟨start, sentenceEnd text start⟩

section Objects

variable {text : Line} {col s : Nat} {c : Char}

theorem sentenceStretch_of_blank (hc : text[col]? = some c) (hblank : isBlank c = true)
    (outer : Bool) :
    sentenceStretch text col outer =
      let blanks := Stretch.around isBlank text col
      some (if outer && blanks.last < text.length then
        ⟨blanks.first, sentenceEnd text blanks.last⟩ else blanks) := by
  simp only [sentenceStretch, hc, Option.bind_eq_bind, Option.bind_some, hblank, if_true]
  split
  · rfl
  · rfl

theorem sentenceStretch_of_covers (hc : text[col]? = some c) (hblank : isBlank c = false)
    (hs : s ∈ sentenceStarts text) (h : (sentenceFrom text s).Covers col) (outer : Bool) :
    sentenceStretch text col outer =
      some (if outer then (sentenceFrom text s).withBlanks text else sentenceFrom text s) := by
  simp only [sentenceStretch, hc, Option.bind_eq_bind, Option.bind_some, hblank,
    Bool.false_eq_true, if_false, find?_reverse_sentenceStarts hs h.1 h.2, Option.getD_some]
  rfl

/-- A run of blanks does not begin with the first character of a sentence. -/
theorem around_ne_sentenceFrom (hcol : col ≤ text.length) (hs : s ∈ sentenceStarts text) :
    Stretch.around isBlank text col ≠ sentenceFrom text s := by
  intro heq
  have hrun : (sentenceFrom text s).IsRun isBlank text := heq ▸ Stretch.isRun_around hcol
  obtain ⟨d, hd, hno⟩ := getElem?_of_mem_sentenceStarts hs
  have hyes := hrun.holds s (Nat.le_refl s) (lt_sentenceEnd hs)
  rw [hd] at hyes
  cases hno.symm.trans hyes

end Objects

theorem Stretch.toSpan_inj {s t : Stretch} {i : Nat} (h : s.toSpan i = t.toSpan i) : s = t := by
  obtain ⟨first, last⟩ := s
  obtain ⟨first', last'⟩ := t
  simp only [toSpan, Span.mk.injEq, Position.mk.injEq, Int.natCast_inj, true_and, and_true] at h
  rw [h.1, h.2]

namespace TextObject

variable {b : Buffer} {i col : Nat}

theorem find_sentence (hi : i < b.size) (hcol : col ≤ (b.line i).length) (outer : Bool) :
    sentence.find b ⟨i, col⟩ outer =
      (sentenceStretch (b.line i) col outer).map (·.toSpan i) := by
  simp only [find, Buffer.locate_natCast hi hcol]

/-- The sentences of a line come one after the other. From a column of one of them the inner object
is that sentence just where the column holds no blank. A column outside of all of them holds a
blank, and from any blank the inner object is the run of blanks around it. -/
theorem inner_sentence_unless_blank (hi : i < b.size) (hcol : col < (b.line i).length) :
    let text := b.line i
    let found := sentence.find b ⟨i, col⟩ false
    let blank := isBlank text[col]
    (sentenceStarts text).Pairwise (· < ·) ∧
      (∀ s ∈ sentenceStarts text, (sentenceFrom text s).Covers col →
        (found = some ((sentenceFrom text s).toSpan i) ↔ blank = false)) ∧
      ((∀ s ∈ sentenceStarts text, ¬ (sentenceFrom text s).Covers col) → blank = true) ∧
      (blank = true → ∃ run : Stretch,
        found = some (run.toSpan i) ∧ run.IsRun isBlank text ∧ run.Covers col) := by
  intro text found blank
  have hc : text[col]? = some text[col] := List.getElem?_eq_getElem hcol
  have hfound : found = (sentenceStretch text col false).map (·.toSpan i) :=
    find_sentence hi (Nat.le_of_lt hcol) false
  have hblanks : blank = true → found = some ((Stretch.around isBlank text col).toSpan i) := by
    intro hblank
    rw [hfound, sentenceStretch_of_blank hc hblank]
    rfl
  refine ⟨sentenceStarts_increasing text, ?_, ?_, ?_⟩
  · intro s hs hin
    constructor
    · intro hsentence
      cases hblank : blank with
      | false => rfl
      | true =>
        have heq := Option.some.inj ((hblanks hblank).symm.trans hsentence)
        exact absurd (Stretch.toSpan_inj heq) (around_ne_sentenceFrom (Nat.le_of_lt hcol) hs)
    · intro hblank
      rw [hfound, sentenceStretch_of_covers hc hblank hs hin]
      rfl
  · intro hnone
    cases hblank : blank with
    | true => rfl
    | false =>
      obtain ⟨s, hs, hin⟩ := exists_sentence hc hblank
      exact absurd hin (hnone s hs)
  · intro hblank
    refine ⟨_, hblanks hblank, Stretch.isRun_around (Nat.le_of_lt hcol), ?_⟩
    apply Stretch.covers_around
    rw [hc]
    exact hblank

theorem inner_sentence_unless_blank_between_words :
    let b := Buffer.ofText "One two. Go.".toList
    sentence.find b ⟨0, 5⟩ false = some (Stretch.toSpan ⟨0, 8⟩ 0) ∧
      sentence.find b ⟨0, 3⟩ false ≠ some (Stretch.toSpan ⟨0, 8⟩ 0) ∧
      ∀ col ∈ [3, 8], sentence.find b ⟨0, (col : Nat)⟩ false =
        some (Stretch.toSpan ⟨col, col + 1⟩ 0) := by
  intro b
  have hstart : 0 ∈ sentenceStarts (b.line 0) := by decide
  have hline : 0 < b.size := by decide
  have hlen : 3 < (b.line 0).length ∧ 5 < (b.line 0).length := by decide
  have hword := inner_sentence_unless_blank hline hlen.2
  have hwithin := inner_sentence_unless_blank hline hlen.1
  refine ⟨(hword.2.1 0 hstart (by decide)).2 rfl, ?_, by decide⟩
  intro he
  cases (hwithin.2.1 0 hstart (by decide)).1 he

end TextObject

end ModalEdit
