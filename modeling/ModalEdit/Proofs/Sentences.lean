import ModalEdit.Proofs.Extents

namespace ModalEdit

namespace Phase

variable {phase : Phase} {c : Char}

theorem enter_ne_gap (c : Char) : enter c ≠ .gap := by
  unfold enter
  split
  · exact Phase.noConfusion
  · exact Phase.noConfusion

theorem next_ne_gap (h : isBlank c = false) : phase.next c ≠ .gap := by
  cases phase with
  | gap =>
    rw [next, h]
    exact enter_ne_gap c
  | within => exact enter_ne_gap c
  | ended =>
    rw [next, h]
    simp only [Bool.false_eq_true, if_false]
    split
    · exact Phase.noConfusion
    · exact Phase.noConfusion

theorem ne_gap_of_next (hstart : ¬ (phase = .gap ∧ isBlank c = false))
    (hnext : phase.next c ≠ .gap) : phase ≠ .gap := by
  rintro rfl
  apply hnext
  have hblank : isBlank c = true := by
    simpa only [true_and, Bool.not_eq_false] using hstart
  rw [next, hblank]
  rfl

end Phase

section Reading

variable {phase : Phase} {text rest : Line} {c : Char} {col start stop : Nat}

theorem sentenceLength_cons_of_gap (h : phase.next c = .gap) :
    sentenceLength phase (c :: rest) = 0 := by
  rw [sentenceLength, h]

theorem sentenceLength_cons_of_ne_gap (h : phase.next c ≠ .gap) :
    sentenceLength phase (c :: rest) = sentenceLength (phase.next c) rest + 1 := by
  rw [sentenceLength]
  split
  · contradiction
  · rfl

theorem sentenceStartsFrom_of_start (h : isBlank c = false) :
    sentenceStartsFrom col .gap (c :: rest) =
      col :: sentenceStartsFrom (col + 1) (.enter c) rest := by
  have hnext : Phase.gap.next c = .enter c := by
    rw [Phase.next, h]
    rfl
  rw [sentenceStartsFrom, if_pos ⟨rfl, h⟩, hnext]

theorem sentenceStartsFrom_of_not_start (h : ¬ (phase = .gap ∧ isBlank c = false)) :
    sentenceStartsFrom col phase (c :: rest) = sentenceStartsFrom (col + 1) (phase.next c) rest := by
  rw [sentenceStartsFrom, if_neg h]

theorem sentenceEnd_eq (h : start ≤ text.length) :
    sentenceEnd text start = start + sentenceLength .within (text.drop start) := by
  have hle := sentenceLength_le .within (text.drop start)
  rw [List.length_drop] at hle
  rw [sentenceEnd]
  omega

theorem sentenceEnd_of_drop (h : text.drop start = c :: rest) :
    sentenceEnd text start = start + 1 + sentenceLength (.enter c) rest := by
  have hle : start ≤ text.length := by
    apply Nat.le_of_not_lt
    intro hlt
    rw [List.drop_of_length_le (Nat.le_of_lt hlt)] at h
    cases h
  have hlen : sentenceLength .within (c :: rest) = sentenceLength (.enter c) rest + 1 :=
    sentenceLength_cons_of_ne_gap (Phase.enter_ne_gap c)
  rw [sentenceEnd_eq hle, h, hlen]
  omega

theorem drop_succ_of_drop (h : text.drop col = c :: rest) : text.drop (col + 1) = rest := by
  rw [← List.drop_drop, h]
  rfl

theorem getElem?_of_drop (h : text.drop col = c :: rest) : text[col]? = some c := by
  rw [← Nat.add_zero col, ← List.getElem?_drop, h]
  rfl

theorem le_of_mem_sentenceStartsFrom (h : start ∈ sentenceStartsFrom col phase text) :
    col ≤ start := by
  induction text generalizing col phase with
  | nil => exact absurd h List.not_mem_nil
  | cons c rest ih =>
    rw [sentenceStartsFrom] at h
    split at h
    · rcases List.mem_cons.1 h with rfl | h
      · exact Nat.le_refl start
      · exact Nat.le_of_succ_le (ih h)
    · exact Nat.le_of_succ_le (ih h)

theorem sentenceLength_le_of_mem (hphase : phase ≠ .gap)
    (h : start ∈ sentenceStartsFrom col phase text) : col + sentenceLength phase text ≤ start := by
  induction text generalizing col phase with
  | nil => exact absurd h List.not_mem_nil
  | cons c rest ih =>
    rw [sentenceStartsFrom_of_not_start fun hstart => hphase hstart.1] at h
    by_cases hnext : phase.next c = .gap
    · rw [sentenceLength_cons_of_gap hnext]
      exact Nat.le_of_succ_le (le_of_mem_sentenceStartsFrom h)
    · have hrest := ih hnext h
      rw [sentenceLength_cons_of_ne_gap hnext]
      omega

/-- Reading on in a line, each sentence ends before the next one begins. -/
theorem pairwise_sentenceStartsFrom (h : text.drop col = rest) :
    (sentenceStartsFrom col phase rest).Pairwise fun s t => sentenceEnd text s ≤ t := by
  induction rest generalizing col phase with
  | nil => exact .nil
  | cons c rest ih =>
    have hrest := drop_succ_of_drop h
    by_cases hstart : phase = .gap ∧ isBlank c = false
    · obtain ⟨rfl, hc⟩ := hstart
      rw [sentenceStartsFrom_of_start hc]
      refine List.pairwise_cons.2 ⟨?_, ih hrest⟩
      intro t ht
      rw [sentenceEnd_of_drop h]
      exact sentenceLength_le_of_mem (Phase.enter_ne_gap c) ht
    · rw [sentenceStartsFrom_of_not_start hstart]
      exact ih hrest

theorem getElem?_of_mem_sentenceStartsFrom (h : text.drop col = rest)
    (hs : start ∈ sentenceStartsFrom col phase rest) :
    ∃ c, text[start]? = some c ∧ isBlank c = false := by
  induction rest generalizing col phase with
  | nil => exact absurd hs List.not_mem_nil
  | cons c rest ih =>
    have hrest := drop_succ_of_drop h
    by_cases hstart : phase = .gap ∧ isBlank c = false
    · obtain ⟨rfl, hc⟩ := hstart
      rw [sentenceStartsFrom_of_start hc] at hs
      rcases List.mem_cons.1 hs with rfl | hs
      · exact ⟨c, getElem?_of_drop h, hc⟩
      · exact ih hrest hs
    · rw [sentenceStartsFrom_of_not_start hstart] at hs
      exact ih hrest hs

/-- A character that is not blank belongs to the sentence that is being read or to one that begins
later. -/
theorem exists_sentence_from (phase : Phase) (h : text.drop col = rest) (hcol : col ≤ stop)
    (hc : text[stop]? = some c) (hblank : isBlank c = false) :
    (phase ≠ .gap ∧ stop < col + sentenceLength phase rest) ∨
      ∃ s ∈ sentenceStartsFrom col phase rest, s ≤ stop ∧ stop < sentenceEnd text s := by
  induction rest generalizing col phase with
  | nil =>
    have hlen := (List.getElem?_eq_some_iff.1 hc).1
    have hdrop := List.drop_eq_nil_iff.1 h
    omega
  | cons d rest ih =>
    have hrest := drop_succ_of_drop h
    by_cases hstart : phase = .gap ∧ isBlank d = false
    · obtain ⟨rfl, hd⟩ := hstart
      rw [sentenceStartsFrom_of_start hd]
      right
      rcases Nat.lt_or_eq_of_le hcol with hlt | rfl
      · rcases ih (.enter d) hrest hlt with ⟨_, hin⟩ | ⟨s, hs, hle⟩
        · refine ⟨col, List.mem_cons_self, hcol, ?_⟩
          rw [sentenceEnd_of_drop h]
          exact hin
        · exact ⟨s, List.mem_cons_of_mem _ hs, hle⟩
      · refine ⟨col, List.mem_cons_self, Nat.le_refl col, ?_⟩
        rw [sentenceEnd_of_drop h]
        omega
    · rw [sentenceStartsFrom_of_not_start hstart]
      rcases Nat.lt_or_eq_of_le hcol with hlt | rfl
      · rcases ih (phase.next d) hrest hlt with ⟨hnext, hin⟩ | hlater
        · rw [sentenceLength_cons_of_ne_gap hnext]
          exact .inl ⟨Phase.ne_gap_of_next hstart hnext, by omega⟩
        · exact .inr hlater
      · obtain rfl : d = c := Option.some.inj ((getElem?_of_drop h).symm.trans hc)
        have hphase : phase ≠ .gap := fun hgap => hstart ⟨hgap, hblank⟩
        rw [sentenceLength_cons_of_ne_gap (Phase.next_ne_gap hblank)]
        exact .inl ⟨hphase, by omega⟩

end Reading

variable {text : Line} {col s t : Nat} {c : Char}

theorem pairwise_sentenceStarts (text : Line) :
    (sentenceStarts text).Pairwise fun s t => sentenceEnd text s ≤ t :=
  pairwise_sentenceStartsFrom rfl

theorem getElem?_of_mem_sentenceStarts (h : s ∈ sentenceStarts text) :
    ∃ c, text[s]? = some c ∧ isBlank c = false :=
  getElem?_of_mem_sentenceStartsFrom rfl h

theorem lt_sentenceEnd (h : s ∈ sentenceStarts text) : s < sentenceEnd text s := by
  have hlt := sentenceStarts_lt h
  rw [sentenceEnd_of_drop (List.drop_eq_getElem_cons hlt)]
  omega

theorem sentenceStarts_increasing (text : Line) : (sentenceStarts text).Pairwise (· < ·) := by
  refine (pairwise_sentenceStarts text).imp_of_mem fun hs _ hle => ?_
  exact Nat.lt_of_lt_of_le (lt_sentenceEnd hs) hle

theorem exists_sentence (hc : text[col]? = some c) (hblank : isBlank c = false) :
    ∃ s ∈ sentenceStarts text, s ≤ col ∧ col < sentenceEnd text s := by
  rcases exists_sentence_from .gap rfl (Nat.zero_le col) hc hblank with ⟨hgap, _⟩ | h
  · contradiction
  · exact h

/-- The sentence that holds a column is the last one that begins at or before it. -/
theorem find?_reverse_sentenceStarts (hs : s ∈ sentenceStarts text) (hle : s ≤ col)
    (hlt : col < sentenceEnd text s) :
    (sentenceStarts text).reverse.find? (· ≤ col) = some s := by
  obtain ⟨before, after, heq⟩ := List.append_of_mem hs
  have hpairwise := pairwise_sentenceStarts text
  rw [heq] at hpairwise
  have hafter := (List.pairwise_cons.1 (List.pairwise_append.1 hpairwise).2.1).1
  refine List.find?_eq_some_iff_append.2 ⟨decide_eq_true hle, after.reverse, before.reverse, ?_, ?_⟩
  · rw [heq, List.reverse_append, List.reverse_cons, List.append_assoc, List.singleton_append]
  · intro t ht
    have hnext := hafter t (List.mem_reverse.1 ht)
    have hno : ¬ t ≤ col := by omega
    simp only [hno, decide_false, Bool.not_false]

end ModalEdit
