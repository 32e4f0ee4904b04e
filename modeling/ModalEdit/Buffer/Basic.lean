import ModalEdit.Fault
import ModalEdit.Position
import ModalEdit.Text.Bounds
import ModalEdit.Text.Lines

namespace ModalEdit

/-- Lines, at least one. Line numbers are checked; a line is cut at a column by the rules for
integer bounds. -/
structure Buffer where
  lines : List Line
  lines_ne_nil : lines ≠ []
  deriving DecidableEq

namespace Buffer

/-- The buffer of the given lines; no lines at all make one empty line. -/
def ofLines : List Line → Buffer
  | [] => ⟨[[]], by simp⟩
  | line :: rest => ⟨line :: rest, by simp⟩

def ofText (text : List Char) : Buffer :=
  ⟨splitLines text, splitLines_ne_nil text⟩

instance : Inhabited Buffer := ⟨ofLines []⟩

def text (b : Buffer) : List Char :=
  joinLines b.lines

@[simp] theorem text_ofText (text : List Char) : (ofText text).text = text :=
  joinLines_splitLines text

def size (b : Buffer) : Nat :=
  b.lines.length

theorem size_pos (b : Buffer) : 0 < b.size :=
  List.length_pos_iff.2 b.lines_ne_nil

def lastLine (b : Buffer) : Nat :=
  b.size - 1

theorem lastLine_lt_size (b : Buffer) : b.lastLine < b.size := by
  have := b.size_pos
  unfold lastLine
  omega

/-- The line with a number, empty past the end. -/
def line (b : Buffer) (i : Nat) : Line :=
  b.lines.getD i []

def lineAt (b : Buffer) (i : Int) : Except Fault Line :=
  if i < 0 then .error (.negativeLine i)
  else
    match b.lines[i.toNat]? with
    | some line => .ok line
    | none => .error .beyond

theorem lineAt_natCast {b : Buffer} {i : Nat} (h : i < b.size) :
    b.lineAt i = .ok (b.line i) := by
  have h' : i < b.lines.length := h
  simp [lineAt, line, Int.not_lt.2 (Int.natCast_nonneg i), List.getD, h']

/-- Every line is free of newlines, as after reading a text. -/
def Plain (b : Buffer) : Prop :=
  ∀ line ∈ b.lines, NewlineFree line

theorem plain_ofText (text : List Char) : (ofText text).Plain :=
  fun _ h => newlineFree_of_mem_splitLines h

/-- The position lies in the buffer, at the latest just past the end of its line. -/
def Contains (b : Buffer) (p : Position) : Prop :=
  0 ≤ p.line ∧ p.line < b.size ∧ 0 ≤ p.col ∧ p.col ≤ (b.line p.line.toNat).length

instance (b : Buffer) (p : Position) : Decidable (b.Contains p) :=
  inferInstanceAs (Decidable (_ ∧ _))

/-- The lines from `top` to `bottom`, both included. -/
def linesBetween (b : Buffer) (top bottom : Int) : Except Fault (List Line) := do
  if bottom < top then return []
  let _ ← b.lineAt top
  let _ ← b.lineAt bottom
  return (b.lines.drop top.toNat).take (bottom - top + 1).toNat

def textBetween (b : Buffer) (start stop : Position) : Except Fault (List Char) := do
  if start.line = stop.line then
    return between (← b.lineAt start.line) start.col stop.col
  let first ← b.lineAt start.line
  let last ← b.lineAt stop.line
  let inner := (b.lines.drop (start.line + 1).toNat).take (stop.line - start.line - 1).toNat
  return joinLines (since first start.col :: inner ++ [upTo last stop.col])

/-- The `n`-th empty line below a line, or the last line. -/
def boundaryBelow (b : Buffer) (i n : Nat) : Nat :=
  match nthIdx? List.isEmpty n (b.lines.drop (i + 1)) with
  | some k => i + 1 + k
  | none => b.lastLine

def boundaryAbove (b : Buffer) (i n : Nat) : Nat :=
  match nthIdx? List.isEmpty n (b.lines.take i).reverse with
  | some k => i - 1 - k
  | none => 0

/-- `boundaryBelow` from any line number; a count that is not positive stays. -/
def boundaryBelowFrom (b : Buffer) (i n : Int) : Except Fault Int :=
  if n ≤ 0 then .ok i
  else if i < -1 then .error (.negativeLine (i + 1))
  else
    match nthIdx? List.isEmpty n.toNat (b.lines.drop (i + 1).toNat) with
    | some k => .ok (i + 1 + k)
    | none => .ok b.lastLine

def boundaryAboveFrom (b : Buffer) (i n : Int) : Except Fault Int :=
  if n ≤ 0 then .ok i
  else if (b.size : Int) < i then .error .beyond
  else .ok (b.boundaryAbove i.toNat n.toNat)

end Buffer

end ModalEdit
