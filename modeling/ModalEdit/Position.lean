namespace ModalEdit

/-- A line and a column, counted from zero and unbounded: whoever uses a position brings it into the
buffer first, or fails. -/
structure Position where
  line : Int
  col : Int
  deriving DecidableEq, Repr, Inhabited

namespace Position

/-- Reading order: by line, then by column. -/
protected def le (p q : Position) : Prop :=
  p.line < q.line ∨ p.line = q.line ∧ p.col ≤ q.col

instance : LE Position := ⟨Position.le⟩

instance : LT Position := ⟨fun p q => ¬ q ≤ p⟩

theorem le_iff {p q : Position} : p ≤ q ↔ p.line < q.line ∨ p.line = q.line ∧ p.col ≤ q.col :=
  Iff.rfl

theorem lt_iff {p q : Position} : p < q ↔ p.line < q.line ∨ p.line = q.line ∧ p.col < q.col := by
  change ¬ (q.line < p.line ∨ q.line = p.line ∧ q.col ≤ p.col) ↔ _
  omega

instance (p q : Position) : Decidable (p ≤ q) :=
  inferInstanceAs (Decidable (_ ∨ _))

instance (p q : Position) : Decidable (p < q) :=
  inferInstanceAs (Decidable (¬ _))

protected theorem le_refl (p : Position) : p ≤ p := by
  simp [le_iff]

protected theorem le_antisymm {p q : Position} (h : p ≤ q) (h' : q ≤ p) : p = q := by
  obtain ⟨i, c⟩ := p
  obtain ⟨j, c'⟩ := q
  simp only [le_iff, mk.injEq] at *
  omega

protected theorem le_total (p q : Position) : p ≤ q ∨ q ≤ p := by
  simp only [le_iff]
  omega

def earlier (p q : Position) : Position :=
  if p ≤ q then p else q

def later (p q : Position) : Position :=
  if p ≤ q then q else p

end Position

inductive Shape where
  | charwise
  | linewise
  deriving DecidableEq, Repr

/-- The text from `start` up to `stop`. A linewise span covers every line from the one of `start`
to the one of `stop`; its columns only hint where the cursor should go. -/
structure Span where
  start : Position
  stop : Position
  shape : Shape := .charwise
  deriving DecidableEq, Repr

namespace Span

def isLinewise (s : Span) : Bool :=
  s.shape == .linewise

/-- A charwise span is empty when its end does not come after its start, a linewise one when its
last line comes before its first. -/
def isEmpty (s : Span) : Bool :=
  match s.shape with
  | .linewise => decide (s.stop.line < s.start.line)
  | .charwise => decide (s.stop ≤ s.start)

end Span

end ModalEdit
