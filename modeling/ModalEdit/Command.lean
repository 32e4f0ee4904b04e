import ModalEdit.Change
import ModalEdit.Text.Case

namespace ModalEdit

namespace Buffer

/-- Puts the register after the cursor, or its lines below the cursor's line. -/
def putAfter (b : Buffer) (pos : Position) (r : Register) (count : Int) :
    Except Fault Change := do
  let text ← b.lineAt pos.line
  match r with
  | .lines whole =>
    let place : Position := ⟨pos.line, text.length⟩
    return ⟨⟨pos.line + 1, 0⟩,
      some (.insert place ('\n' :: joinLines (repeated count whole))), none, false⟩
  | .chars taken =>
    let place : Position := ⟨pos.line, min (pos.col + 1) text.length⟩
    return ⟨place, some (.insert place (repeated count taken)), none, false⟩

def putBefore (b : Buffer) (pos : Position) (r : Register) (count : Int) :
    Except Fault Change := do
  match r with
  | .lines whole =>
    let place : Position := ⟨pos.line, 0⟩
    return ⟨place, some (.insert place (joinLines (repeated count whole) ++ ['\n'])), none, false⟩
  | .chars taken =>
    let text ← b.lineAt pos.line
    let place : Position := ⟨pos.line, min pos.col text.length⟩
    return ⟨place, some (.insert place (repeated count taken)), none, false⟩

end Buffer

/-- Joins one more line to a line: its leading blanks go, and one space takes their place unless
either side is empty, a blank stands there already or a closing parenthesis follows. -/
def joinLine (joined next : Line) : Line :=
  let stripped := trimStart next
  let spaced :=
    !stripped.isEmpty && !joined.isEmpty && !(joined.getLast?.any isBlank) &&
      stripped.head? != some ')'
  joined ++ (if spaced then [' '] else []) ++ stripped

namespace Buffer

/-- Joins as many lines as the count says, at least two, starting with a line; the cursor goes to
the last seam. There is no change on the last line. -/
def joinFrom (b : Buffer) (i count : Int) : Except Fault (Option Change) := do
  let last := min (i + max count 2 - 1) b.lastLine
  if last = i then return none
  let head ← b.lineAt i
  let following := (b.lines.drop (i + 1).toNat).take (last - i).toNat
  let beforeLast := following.dropLast.foldl joinLine head
  let joined := following.foldl joinLine head
  let edit : Edit := ⟨⟨i, head.length⟩, ⟨last, (b.line last.toNat).length⟩, joined.drop head.length⟩
  return some ⟨⟨i, clampCol joined.length beforeLast.length⟩, some edit, none, false⟩

def toggleCase (b : Buffer) (pos : Position) (count : Int) : Except Fault (Option Change) := do
  let text ← b.lineAt pos.line
  if text.isEmpty ∨ (text.length : Int) ≤ pos.col then return none
  let stop := min (pos.col + count) text.length
  return some ⟨⟨pos.line, clampCol text.length stop⟩,
    some ⟨pos, ⟨pos.line, stop⟩, toggledCase (between text pos.col stop)⟩, none, false⟩

/-- Writes a text over each of the characters from the cursor on, if there are enough of them. -/
def replaceChars (b : Buffer) (pos : Position) (text : List Char) (count : Int) :
    Except Fault (Option Change) := do
  let line ← b.lineAt pos.line
  if (line.length : Int) < pos.col + count then return none
  return some ⟨⟨pos.line, pos.col + count - 1⟩,
    some ⟨pos, ⟨pos.line, pos.col + count⟩, repeated count text⟩, none, false⟩

def openBelow (b : Buffer) (i : Int) : Except Fault Change := do
  let line ← b.lineAt i
  return ⟨⟨i + 1, 0⟩, some (.insert ⟨i, line.length⟩ ['\n']), none, true⟩

def openAbove (i : Int) : Change :=
  ⟨⟨i, 0⟩, some (.insert ⟨i, 0⟩ ['\n']), none, true⟩

end Buffer

end ModalEdit
