import ModalEdit.Proofs.SentenceObjects
import ModalEdit.Proofs.WordBoundaries

namespace ModalEdit

/-- The text before the column closes with a terminator, and only terminators and closers come after
that. -/
def Concluded (text : Line) (col : Nat) : Prop :=
  ∃ t < col, text[t]?.any isTerminator = true ∧
    ∀ k, t < k → k < col → text[k]?.any (fun c => isTerminator c || isCloser c) = true

/-- A sentence ends before the column, where a blank follows it. -/
def EndsSentence (text : Line) (col : Nat) : Prop :=
  Concluded text col ∧ text[col]?.any isBlank = true

/-- From a character that is not blank up to the first column after it where a sentence ends, or up
to the end of the line. -/
structure IsSentence (text : Line) (s : Stretch) : Prop where
  begins : text[s.first]?.any (!isBlank ·) = true
  lt : s.first < s.last
  le_length : s.last ≤ text.length
  ends : IsLeastOr {e | s.first < e ∧ EndsSentence text e} text.length s.last

section Marks

variable {phase : Phase} {c : Char}

theorem not_mark_of_isBlank (h : isBlank c = true) :
    isTerminator c = false ∧ isCloser c = false := by
  constructor
  · apply Bool.eq_false_iff.2
    intro hterm
    simp only [isTerminator, Bool.or_eq_true, beq_iff_eq] at hterm
    rcases hterm with (rfl | rfl) | rfl
    · cases h
    · cases h
    · cases h
  · apply Bool.eq_false_iff.2
    intro hcloser
    simp only [isCloser, Bool.or_eq_true, beq_iff_eq] at hcloser
    rcases hcloser with ((rfl | rfl) | rfl) | rfl
    · cases h
    · cases h
    · cases h
    · cases h

namespace Phase

theorem enter_eq_ended_iff : enter c = .ended ↔ isTerminator c = true := by
  rw [enter]
  split
  · exact iff_of_true rfl ‹_›
  · exact iff_of_false Phase.noConfusion ‹_›

theorem next_eq_gap_iff (h : phase ≠ .gap) :
    phase.next c = .gap ↔ phase = .ended ∧ isBlank c = true := by
  cases phase with
  | gap => contradiction
  | within => exact iff_of_false (enter_ne_gap c) fun he => Phase.noConfusion he.1
  | ended =>
    cases hblank : isBlank c with
    | true =>
      rw [next, hblank]
      exact iff_of_true rfl ⟨rfl, rfl⟩
    | false => exact iff_of_false (next_ne_gap hblank) fun he => Bool.false_ne_true he.2

/-- A terminator leads past the end of a sentence from everywhere, a closer only from there. -/
theorem next_eq_ended_iff :
    phase.next c = .ended ↔ isTerminator c = true ∨ isCloser c = true ∧ phase = .ended := by
  cases hblank : isBlank c with
  | true =>
    obtain ⟨hterm, hcloser⟩ := not_mark_of_isBlank hblank
    cases phase with
    | gap => simp [next, hblank, hterm, hcloser]
    | within => simp [next, enter, hterm, hcloser]
    | ended => simp [next, hblank, hterm, hcloser]
  | false =>
    cases phase with
    | gap => simp [next, hblank, enter_eq_ended_iff]
    | within => simp [next, enter_eq_ended_iff]
    | ended =>
      cases hterm : isTerminator c with
      | true => simp [next, hblank, hterm]
      | false => simp [next, hblank, hterm]

end Phase

end Marks

section Reading

variable {phase : Phase} {text rest : Line} {c : Char} {col start : Nat}

theorem not_concluded_zero (text : Line) : ¬ Concluded text 0 := by
  rintro ⟨t, ht, _⟩
  exact Nat.not_lt_zero t ht

theorem concluded_succ (h : text[col]? = some c) :
    Concluded text (col + 1) ↔
      isTerminator c = true ∨ isCloser c = true ∧ Concluded text col := by
  constructor
  · rintro ⟨t, ht, hterm, hmarks⟩
    rcases Nat.lt_or_eq_of_le (Nat.le_of_lt_succ ht) with hlt | rfl
    · have hmark := hmarks col hlt (Nat.lt_succ_self col)
      rw [h, Option.any_some, Bool.or_eq_true] at hmark
      refine hmark.imp_right fun hc => ⟨hc, t, hlt, hterm, fun k hk hk' => ?_⟩
      exact hmarks k hk (Nat.lt_succ_of_lt hk')
    · rw [h] at hterm
      exact .inl hterm
  · rintro (hterm | ⟨hcloser, t, ht, hterm, hmarks⟩)
    · refine ⟨col, Nat.lt_succ_self col, ?_, fun k hk hk' => by omega⟩
      rw [h]
      exact hterm
    · refine ⟨t, Nat.lt_succ_of_lt ht, hterm, fun k hk hk' => ?_⟩
      rcases Nat.lt_or_eq_of_le (Nat.le_of_lt_succ hk') with hlt | rfl
      · exact hmarks k hk hlt
      · rw [h, Option.any_some, hcloser, Bool.or_true]

/-- The phase tells whether the text read so far closes with a terminator and the marks after it,
and goes on to tell it. -/
theorem Phase.ended_iff_concluded (hread : phase = .ended ↔ Concluded text col)
    (h : text[col]? = some c) : phase.next c = .ended ↔ Concluded text (col + 1) := by
  rw [next_eq_ended_iff, concluded_succ h, hread]

/-- A sentence that is being read goes on up to the first end of a sentence. -/
theorem isLeastOr_sentenceLength (hread : phase = .ended ↔ Concluded text col)
    (hphase : phase ≠ .gap) (hcol : col ≤ text.length) (h : text.drop col = rest) :
    IsLeastOr {e | col ≤ e ∧ EndsSentence text e} text.length
      (col + sentenceLength phase rest) := by
  -- On the rest of the text; that the phase tells what was read carries it.
  induction rest generalizing col phase with
  | nil =>
    have hlen : text.length ≤ col := List.drop_eq_nil_iff.1 h
    right
    constructor
    · rintro e ⟨hle, _, hblank⟩
      have hlt := lt_length_of_any hblank
      omega
    · exact Nat.le_antisymm hcol hlen
  | cons c rest ih =>
    have hc := getElem?_of_drop h
    have hends : EndsSentence text col ↔ phase.next c = .gap := by
      rw [Phase.next_eq_gap_iff hphase, EndsSentence, hread, hc, Option.any_some]
    by_cases hnext : phase.next c = .gap
    · rw [sentenceLength_cons_of_gap hnext]
      exact .inl ⟨⟨Nat.le_refl col, hends.2 hnext⟩, fun e he => he.1⟩
    · have hlater : {e | col ≤ e ∧ EndsSentence text e} =
          {e | col + 1 ≤ e ∧ EndsSentence text e} := by
        ext e
        refine and_congr_left fun he => ⟨fun hle => ?_, Nat.le_of_succ_le⟩
        rcases Nat.lt_or_eq_of_le hle with hlt | rfl
        · exact hlt
        · exact absurd (hends.1 he) hnext
      have hrest := ih (Phase.ended_iff_concluded hread hc) hnext
        (List.getElem?_eq_some_iff.1 hc).1 (drop_succ_of_drop h)
      rw [sentenceLength_cons_of_ne_gap hnext, hlater]
      rwa [Nat.add_assoc, Nat.add_comm 1] at hrest

theorem isLeastOr_sentenceEnd_from (hread : phase = .ended ↔ Concluded text col)
    (h : text.drop col = rest) (hs : start ∈ sentenceStartsFrom col phase rest) :
    IsLeastOr {e | start < e ∧ EndsSentence text e} text.length (sentenceEnd text start) := by
  induction rest generalizing col phase with
  | nil => exact absurd hs List.not_mem_nil
  | cons c rest ih =>
    have hc := getElem?_of_drop h
    have hrest := drop_succ_of_drop h
    have hread' := Phase.ended_iff_concluded hread hc
    by_cases hstart : phase = .gap ∧ isBlank c = false
    · obtain ⟨rfl, hblank⟩ := hstart
      have hnext : Phase.gap.next c = .enter c := by
        rw [Phase.next, hblank]
        rfl
      rw [hnext] at hread'
      rw [sentenceStartsFrom_of_start hblank] at hs
      rcases List.mem_cons.1 hs with rfl | hs
      · rw [sentenceEnd_of_drop h]
        exact isLeastOr_sentenceLength hread' (Phase.enter_ne_gap c)
          (List.getElem?_eq_some_iff.1 hc).1 hrest
      · exact ih hread' hrest hs
    · rw [sentenceStartsFrom_of_not_start hstart] at hs
      exact ih hread' hrest hs

theorem head?_sentenceStartsFrom (col : Nat) (text : Line) :
    (sentenceStartsFrom col .gap text).head? =
      if isBlankLine text then none else some (col + firstNonBlank text) := by
  induction text generalizing col with
  | nil => rfl
  | cons c rest ih =>
    cases hblank : isBlank c with
    | true =>
      have hno : ¬ (Phase.gap = .gap ∧ isBlank c = false) := by simp [hblank]
      have hgap : Phase.gap.next c = .gap := by
        rw [Phase.next, hblank]
        rfl
      have hfirst : firstNonBlank (c :: rest) = firstNonBlank rest + 1 := by
        simp only [firstNonBlank, List.takeWhile_cons_of_pos hblank, List.length_cons]
      have hall : isBlankLine (c :: rest) = isBlankLine rest := by
        simp only [isBlankLine, List.all_cons, hblank, Bool.true_and]
      rw [sentenceStartsFrom_of_not_start hno, hgap, ih, hall, hfirst, Nat.add_assoc,
        Nat.add_comm 1]
    | false =>
      have hfirst : firstNonBlank (c :: rest) = 0 := by
        simp [firstNonBlank, hblank]
      have hall : isBlankLine (c :: rest) = false := by
        simp only [isBlankLine, List.all_cons, hblank, Bool.false_and]
      rw [sentenceStartsFrom_of_start hblank, hfirst, hall]
      rfl

end Reading

variable {text : Line} {s : Nat}

theorem head?_sentenceStarts (text : Line) :
    (sentenceStarts text).head? =
      if isBlankLine text then none else some (firstNonBlank text) := by
  rw [sentenceStarts, head?_sentenceStartsFrom, Nat.zero_add]

theorem isSentence_sentenceFrom (h : s ∈ sentenceStarts text) :
    IsSentence text (sentenceFrom text s) where
  begins := by
    obtain ⟨c, hc, hblank⟩ := getElem?_of_mem_sentenceStarts h
    rw [sentenceFrom, hc, Option.any_some, hblank]
    rfl
  lt := lt_sentenceEnd h
  le_length := Nat.min_le_left _ _
  ends := by
    refine isLeastOr_sentenceEnd_from (iff_of_false Phase.noConfusion ?_) rfl h
    exact not_concluded_zero text

/-- The sentences of a line come one after the other, the first of them with the first character
that is not blank, and none only where there is no such character. Each goes from a character that
is not blank up to the first column where a sentence ends, or up to the end of the line. What lies
outside of all of them is blank. -/
theorem sentences_partition_text (text : Line) :
    let starts := sentenceStarts text
    starts.Pairwise (· < ·) ∧
      starts.Pairwise (fun s t => sentenceEnd text s ≤ t) ∧
      starts.head? = (if isBlankLine text then none else some (firstNonBlank text)) ∧
      (∀ s ∈ starts, IsSentence text (sentenceFrom text s)) ∧
      ∀ col c, text[col]? = some c → (∀ s ∈ starts, ¬ (sentenceFrom text s).Covers col) →
        isBlank c = true := by
  intro starts
  refine ⟨sentenceStarts_increasing text, pairwise_sentenceStarts text, head?_sentenceStarts text,
    fun s hs => isSentence_sentenceFrom hs, ?_⟩
  intro col c hc hout
  cases hblank : isBlank c with
  | true => rfl
  | false =>
    obtain ⟨s, hs, hin⟩ := exists_sentence hc hblank
    exact absurd hin (hout s hs)

/-- The point within the number ends no sentence, and the closing quote belongs to the first one. -/
example :
    (sentenceStarts " He said: \x223.5!\x22  (So?!) Go".toList).map
        (sentenceFrom " He said: \x223.5!\x22  (So?!) Go".toList) =
      [⟨1, 16⟩, ⟨18, 24⟩, ⟨25, 27⟩] := by
  decide

end ModalEdit
