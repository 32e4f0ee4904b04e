import ModalEdit.Buffer.Cell

namespace ModalEdit

/-- A selection runs between an anchor and a cursor in either order. -/
structure Selection where
  anchor : Position
  cursor : Position
  shape : Shape := .charwise
  deriving DecidableEq, Repr

namespace Selection

def movedTo (s : Selection) (p : Position) : Selection :=
  { s with cursor := p }

def swapped (s : Selection) : Selection :=
  { s with anchor := s.cursor, cursor := s.anchor }

@[simp] theorem swapped_swapped (s : Selection) : s.swapped.swapped = s := rfl

def top (s : Selection) : Int :=
  min s.anchor.line s.cursor.line

def bottom (s : Selection) : Int :=
  max s.anchor.line s.cursor.line

@[simp] theorem top_swapped (s : Selection) : s.swapped.top = s.top := by
  simp [top, swapped, Int.min_comm]

@[simp] theorem bottom_swapped (s : Selection) : s.swapped.bottom = s.bottom := by
  simp [bottom, swapped, Int.max_comm]

/-- The two ends in order, from which whole lines are highlighted up to the line after the last one,
or to the end of the buffer. -/
def highlight (s : Selection) (b : Buffer) : Except Fault (Position × Position) :=
  match s.shape with
  | .charwise => .ok (s.anchor.earlier s.cursor, s.anchor.later s.cursor)
  | .linewise => do
    if s.bottom + 1 < b.size then return (⟨s.top, 0⟩, ⟨s.bottom + 1, 0⟩)
    return (⟨s.top, 0⟩, ⟨s.bottom, (← b.lineAt s.bottom).length⟩)

def span (s : Selection) : Span :=
  match s.shape with
  | .charwise => ⟨s.anchor.earlier s.cursor, s.anchor.later s.cursor, .charwise⟩
  | .linewise => ⟨⟨s.top, 0⟩, ⟨s.bottom, 0⟩, .linewise⟩

end Selection

end ModalEdit
