import ModalEdit.Proofs.FlatEdits
import ModalEdit.Proofs.InnermostPair
import ModalEdit.Proofs.SentenceObjects
import ModalEdit.Session.React

namespace ModalEdit

namespace Stretch

variable {inner : Stretch} {col : Nat}

/-- One stretch lies within another, which covers the column. -/
structure Nested (col : Nat) (inner outer : Stretch) : Prop where
  first_le : outer.first ≤ inner.first
  ordered : inner.first ≤ inner.last
  last_le : inner.last ≤ outer.last
  covers : outer.Covers col

theorem Covers.nested (h : inner.Covers col) {outer : Stretch} (hfirst : outer.first ≤ inner.first)
    (hlast : inner.last ≤ outer.last) : Nested col inner outer :=
  ⟨hfirst, Nat.le_of_lt (Nat.lt_of_le_of_lt h.1 h.2), hlast, Nat.le_trans hfirst h.1,
    Nat.lt_of_lt_of_le h.2 hlast⟩

theorem Covers.nested_grow (h : inner.Covers col) (line : Line) (p q : Char → Bool) :
    Nested col inner (inner.grow line p q) := by
  simp only [grow]
  split
  · exact h.nested (Nat.le_refl _) (Nat.le_add_right _ _)
  · exact h.nested (Nat.sub_le _ _) (Nat.le_refl _)

end Stretch

theorem nested_wordStretch (g : Grain) (text : Line) (col : Nat) :
    Option.Rel (Stretch.Nested col) (wordStretch g text col false) (wordStretch g text col true) := by
  unfold wordStretch
  cases hc : text[col]? with
  | none => exact .none
  | some c =>
    have hcovers : (Stretch.around (fun d => g.classify d == g.classify c) text col).Covers col :=
      Stretch.covers_around (by rw [hc]; exact beq_self_eq_true _)
    cases hblank : isBlank c with
    | true =>
      simp only [Option.bind_eq_bind, Option.bind_some, hblank]
      exact .some (hcovers.nested_grow _ _ _)
    | false =>
      simp only [Option.bind_eq_bind, Option.bind_some, hblank]
      exact .some (hcovers.nested_grow _ _ _)

theorem nested_quotationStretch (quote : List Char) (line : Line) (col : Nat) :
    Option.Rel (Stretch.Nested col) (quotationStretch quote line col false)
      (quotationStretch quote line col true) := by
  unfold quotationStretch
  cases occurrence? quote line with
  | none => exact .none
  | some first =>
    simp only [Option.bind_eq_bind, Option.bind_some]
    split
    · exact .none
    · cases occurrence? quote (line.drop (first + 1)) with
      | none => exact .none
      | some width =>
        simp only [Option.bind_some]
        split
        · exact .none
        · rename_i hcol
          obtain ⟨hfirst, hsecond⟩ := not_or.1 hcol
          exact .some ⟨Nat.le_succ _, Nat.le_add_right _ _, Nat.le_succ _, Nat.le_of_not_lt hfirst,
            Nat.lt_succ_of_le (Nat.le_of_not_lt hsecond)⟩

theorem nested_sentenceStretch (text : Line) (col : Nat) :
    Option.Rel (Stretch.Nested col) (sentenceStretch text col false)
      (sentenceStretch text col true) := by
  cases hc : text[col]? with
  | none =>
    simp only [sentenceStretch, hc]
    exact .none
  | some c =>
    cases hblank : isBlank c with
    | true =>
      have hcovers : (Stretch.around isBlank text col).Covers col :=
        Stretch.covers_around (by rw [hc]; exact hblank)
      rw [sentenceStretch_of_blank hc hblank, sentenceStretch_of_blank hc hblank]
      refine .some ?_
      simp only [Bool.false_and, Bool.false_eq_true, if_false, Bool.true_and, decide_eq_true_eq]
      split
      · rename_i hlast
        refine hcovers.nested (Nat.le_refl _) ?_
        rw [sentenceEnd_eq (Nat.le_of_lt hlast)]
        exact Nat.le_add_right _ _
      · exact hcovers.nested (Nat.le_refl _) (Nat.le_refl _)
    | false =>
      obtain ⟨s, hs, hin⟩ := exists_sentence hc hblank
      have hcovers : (sentenceFrom text s).Covers col := hin
      rw [sentenceStretch_of_covers hc hblank hs hin, sentenceStretch_of_covers hc hblank hs hin]
      exact .some (hcovers.nested_grow _ _ _)

theorem Buffer.nested_paragraphAround (b : Buffer) (i : Nat) :
    let inner := b.paragraphAround i false
    let outer := b.paragraphAround i true
    outer.1 ≤ inner.1 ∧ inner.1 ≤ i ∧ i ≤ inner.2 ∧ inner.2 ≤ outer.2 := by
  intro inner outer
  have hinner : inner.1 ≤ i ∧ i ≤ inner.2 := ⟨Nat.sub_le _ _, Nat.le_add_right _ _⟩
  have houter : outer.1 ≤ inner.1 ∧ inner.2 ≤ outer.2 := by
    simp only [inner, outer, paragraphAround, Bool.not_true, Bool.not_false, Bool.false_eq_true,
      if_true, if_false]
    split
    · exact ⟨Nat.le_refl _, Nat.le_add_right _ _⟩
    · split
      · exact ⟨Nat.le_refl _, Nat.le_refl _⟩
      · exact ⟨Nat.sub_le _ _, Nat.le_refl _⟩
  exact ⟨houter.1, hinner.1, hinner.2, houter.2⟩

namespace Span

/-- A charwise span covers the places from its start to before its end, a linewise one all places
of its lines. -/
def Covers (s : Span) (p : Position) : Prop :=
  match s.shape with
  | .charwise => s.start ≤ p ∧ p < s.stop
  | .linewise => s.start.line ≤ p.line ∧ p.line ≤ s.stop.line

/-- One span lies within another of its shape, which covers the place. -/
structure Nested (p : Position) (inner outer : Span) : Prop where
  shape_eq : inner.shape = outer.shape
  start_le : outer.start ≤ inner.start
  ordered : inner.start ≤ inner.stop
  stop_le : inner.stop ≤ outer.stop
  covers : outer.Covers p

end Span

theorem Stretch.Nested.toSpan {s : Spot} {inner outer : Stretch} (h : Nested s.col inner outer) :
    Span.Nested s.position (inner.toSpan s.line) (outer.toSpan s.line) := by
  have hle {c d : Nat} (hcd : c ≤ d) : (⟨s.line, c⟩ : Position) ≤ ⟨s.line, d⟩ :=
    Position.natCast_le.2 (.inr ⟨rfl, hcd⟩)
  refine ⟨rfl, hle h.first_le, hle h.ordered, hle h.last_le, hle h.covers.1, ?_⟩
  intro hstop
  have hlast := Position.natCast_le.1 hstop
  have hcol := h.covers.2
  omega

namespace TextObject

variable {b : Buffer} {s : Spot}

theorem nested_bracketed (hs : s.In b) (kind : Bracket) {first last : Nat}
    (h : b.enclosing s kind = some (first, last)) :
    Span.Nested s.position ⟨b.positionAt (first + 1), b.positionAt last, .charwise⟩
      ⟨b.positionAt first, b.positionAt (last + 1), .charwise⟩ := by
  have hcursor : b.StandsAt s.position (b.offset s.line s.col) := ⟨hs.contains_position, rfl⟩
  obtain ⟨⟨hm, hfirst, hlast⟩, _⟩ := Bracket.encloses_of_enclosingPair
    (Buffer.offset_le hs.line_lt (hs.text_eq ▸ hs.col_le)) h
  have hlt := hm.lt
  have hlen := (List.getElem?_eq_some_iff.1 hm.closing).1
  have hstands {k : Nat} (hk : k ≤ last + 1) : b.StandsAt (b.positionAt k) k :=
    Buffer.standsAt_positionAt (Nat.le_trans hk hlen)
  have hopen := hstands (k := first) (by omega)
  have hshut := hstands (k := last) (by omega)
  have hafter := hstands (Nat.le_refl (last + 1))
  have hinner := hstands (k := first + 1) (by omega)
  exact ⟨rfl, (hopen.le_iff hinner).2 (Nat.le_succ first), (hinner.le_iff hshut).2 hlt,
    (hshut.le_iff hafter).2 (Nat.le_succ last), (hopen.le_iff hcursor).2 hfirst,
    (hcursor.lt_iff hafter).2 (Nat.lt_succ_of_le hlast)⟩

theorem nested_find (o : TextObject) (b : Buffer) (pos : Position) :
    Option.Rel (Span.Nested (b.locate pos).position) (o.find b pos false) (o.find b pos true) := by
  have hs := b.in_locate pos
  have hmap {x y : Option Stretch} (h : Option.Rel (Stretch.Nested (b.locate pos).col) x y) :
      Option.Rel (Span.Nested (b.locate pos).position) (x.map (·.toSpan (b.locate pos).line))
        (y.map (·.toSpan (b.locate pos).line)) := by
    cases h with
    | none => exact .none
    | some h => exact .some h.toSpan
  cases o with
  | word g => exact hmap (nested_wordStretch g _ _)
  | quotation quote => exact hmap (nested_quotationStretch quote _ _)
  | bracketed kind =>
    simp only [find]
    cases hpair : b.enclosing (b.locate pos) kind with
    | none => exact .none
    | some pair => exact .some (nested_bracketed hs kind hpair)
  | paragraph =>
    obtain ⟨htop, hin, hin', hbottom⟩ := b.nested_paragraphAround (b.locate pos).line
    have hle {i j : Nat} (h : i ≤ j) : (⟨i, 0⟩ : Position) ≤ ⟨j, 0⟩ := by
      refine Position.natCast_le.2 ?_
      omega
    refine .some ⟨rfl, hle htop, hle (Nat.le_trans hin hin'), hle hbottom, ?_⟩
    exact ⟨Int.ofNat_le.2 (Nat.le_trans htop hin), Int.ofNat_le.2 (Nat.le_trans hin' hbottom)⟩
  | sentence => exact hmap (nested_sentenceStretch _ _)

end TextObject

namespace Session

/-- Whatever the character names, the inner object is there exactly where the outer one is. Both
then end in the buffer, are in order and of one shape; the inner one lies within the outer one,
which covers the place that the position is brought to. -/
theorem objectOn_nested (b : Buffer) (pos : Position) (c : Char) :
    let inner := objectOn b pos false (.char c)
    let outer := objectOn b pos true (.char c)
    (inner = none ↔ outer = none) ∧
      ∀ s ∈ inner, ∀ t ∈ outer, Span.Nested (b.locate pos).position s t ∧
        (b.Contains s.start ∧ b.Contains s.stop) ∧ b.Contains t.start ∧ b.Contains t.stop := by
  intro inner outer
  cases ho : TextObject.ofKey? c with
  | none =>
    have hnone (around : Bool) : objectOn b pos around (.char c) = none := by
      simp only [objectOn, ho, Option.bind_none]
    refine ⟨iff_of_true (hnone false) (hnone true), fun s hs => ?_⟩
    cases (hnone false).symm.trans hs
  | some o =>
    have hfind (around : Bool) : objectOn b pos around (.char c) = o.find b pos around := by
      simp only [objectOn, ho, Option.bind_some]
    have hne := TextObject.ne_empty_quotation_of_ofKey? ho
    have hrel := o.nested_find b pos
    have hinside (around : Bool) {s : Span} (hs : o.find b pos around = some s) :
        b.Contains s.start ∧ b.Contains s.stop := TextObject.contains_find hne hs
    simp only [inner, outer, hfind]
    generalize hinner : o.find b pos false = found, houter : o.find b pos true = found' at hrel
    cases hrel with
    | none => exact ⟨Iff.rfl, fun s hs => by cases hs⟩
    | @some s t hnested =>
      refine ⟨iff_of_false (Option.some_ne_none s) (Option.some_ne_none t), ?_⟩
      rintro _ ⟨⟩ _ ⟨⟩
      exact ⟨hnested, hinside false hinner, hinside true houter⟩

/-- The inner object need not cover the place itself: on a quote it begins after it. -/
example : objectOn (.ofText ['\x22', 'a', '\x22']) ⟨0, 0⟩ false (.char '\x22') =
    some ⟨⟨0, 1⟩, ⟨0, 2⟩, .charwise⟩ := by decide

end Session

end ModalEdit
