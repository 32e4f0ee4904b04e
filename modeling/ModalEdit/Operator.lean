import ModalEdit.Change

namespace ModalEdit

inductive Operator where
  | delete
  | change
  | yank
  deriving DecidableEq, Repr

namespace Operator

def key : Operator → Char
  | .delete => 'd'
  | .change => 'c'
  | .yank => 'y'

def ofKey? : Char → Option Operator
  | 'd' => some .delete
  | 'c' => some .change
  | 'y' => some .yank
  | _ => none

@[simp] theorem ofKey?_key (o : Operator) : ofKey? o.key = some o := by
  cases o <;> rfl

end Operator

/-- The first and last line of a linewise span, in the buffer and in order. -/
def Buffer.lineBounds (b : Buffer) (s : Span) : Nat × Nat :=
  let top := b.clampLine s.start.line
  (top, max top (b.clampLine s.stop.line))

namespace Buffer

def block (b : Buffer) (top bottom : Nat) : List Line :=
  (b.lines.drop top).take (bottom + 1 - top)

/-- Deletes whole lines. The break after the block goes with it; at the end of the buffer it is the
break before, and the last line of all is only emptied. -/
def deleteLines (b : Buffer) (s : Span) : Change :=
  let (top, bottom) := b.lineBounds s
  let hint := s.start.col
  let endOf := fun i => (b.line i).length
  let (cursor, edit) : Position × Edit :=
    if bottom < b.lastLine then
      (⟨top, clampCol (endOf (bottom + 1)) hint⟩, ⟨⟨top, 0⟩, ⟨bottom + 1, 0⟩, []⟩)
    else if 0 < top then
      (⟨(top - 1 : Nat), clampCol (endOf (top - 1)) hint⟩,
        ⟨⟨(top - 1 : Nat), endOf (top - 1)⟩, ⟨bottom, endOf bottom⟩, []⟩)
    else (⟨0, 0⟩, ⟨⟨0, 0⟩, ⟨bottom, endOf bottom⟩, []⟩)
  ⟨cursor, edit, some (.lines (b.block top bottom)), false⟩

/-- Empties whole lines, which stay in place. -/
def changeLines (b : Buffer) (s : Span) : Change :=
  let (top, bottom) := b.lineBounds s
  let breaks := List.replicate (bottom - top) '\n'
  ⟨⟨top, 0⟩, some ⟨⟨top, 0⟩, ⟨bottom, (b.line bottom).length⟩, breaks⟩,
    some (.lines (b.block top bottom)), true⟩

def yankLines (b : Buffer) (s : Span) : Change :=
  let (top, bottom) := b.lineBounds s
  ⟨⟨top, clampCol (b.line top).length s.start.col⟩, none, some (.lines (b.block top bottom)),
    false⟩

end Buffer

/-- Runs an operator over a span; there is no change when the span is empty. -/
def Operator.run (o : Operator) (b : Buffer) (s : Span) : Except Fault (Option Change) := do
  if s.isEmpty then return none
  match s.shape, o with
  | .linewise, .delete => return some (b.deleteLines s)
  | .linewise, .change => return some (b.changeLines s)
  | .linewise, .yank => return some (b.yankLines s)
  | .charwise, o =>
    let taken ← b.textBetween s.start s.stop
    let register := some (Register.chars taken)
    match o with
    | .delete =>
      let left := upTo (← b.lineAt s.start.line) s.start.col ++
        since (← b.lineAt s.stop.line) s.stop.col
      let cursor : Position := ⟨s.start.line, clampCol left.length s.start.col⟩
      return some ⟨cursor, some ⟨s.start, s.stop, []⟩, register, false⟩
    | .change => return some ⟨s.start, some ⟨s.start, s.stop, []⟩, register, true⟩
    | .yank => return some ⟨s.start, none, register, false⟩

end ModalEdit
