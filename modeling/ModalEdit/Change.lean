import ModalEdit.Buffer.Cell

namespace ModalEdit

/-- What was last deleted, changed or copied. -/
inductive Register where
  | chars (text : List Char)
  | lines (whole : List Line)
  deriving DecidableEq, Repr

namespace Register

def isLinewise : Register → Bool
  | .chars _ => false
  | .lines _ => true

def toLines : Register → List Line
  | .chars text => splitLines text
  | .lines whole => whole

/-- The content as it goes to the system clipboard. -/
def text : Register → List Char
  | .chars text => text
  | .lines whole => joinLines whole

end Register

/-- Replace the text from `start` up to `stop`. -/
structure Edit where
  start : Position
  stop : Position
  text : List Char := []
  deriving DecidableEq, Repr

def Edit.insert (at' : Position) (text : List Char) : Edit :=
  ⟨at', at', text⟩

/-- What an operator or a command asks for. Whoever holds the document carries it out. -/
structure Change where
  cursor : Position
  edit : Option Edit := none
  register : Option Register := none
  /-- Whether typing goes on after the change. -/
  insert : Bool := false
  deriving DecidableEq, Repr

namespace Buffer

/-- Carries out an edit. Columns and line numbers follow the rules for integer bounds, and a last
line at or past the end of the buffer leaves nothing after the edit. -/
def replace (b : Buffer) (e : Edit) : Except Fault Buffer := do
  let some first := pick? b.lines e.start.line | .error .beyond
  let rest ←
    if e.stop.line < b.size then
      match pick? b.lines e.stop.line with
      | some last => .ok (since last e.stop.col)
      | none => .error .beyond
    else .ok []
  let lines := splitLines (upTo first e.start.col ++ e.text ++ rest)
  return ⟨splice b.lines e.start.line (e.stop.line + 1) lines, by
    simp [splice, lines, splitLines_ne_nil]⟩

end Buffer

end ModalEdit
