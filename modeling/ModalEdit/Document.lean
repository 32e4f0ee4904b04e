import ModalEdit.Change

namespace ModalEdit

structure Viewport where
  top : Int
  middle : Int
  bottom : Int
  deriving DecidableEq, Repr

def Viewport.whole (b : Buffer) : Viewport :=
  ⟨0, (b.lastLine / 2 : Nat), b.lastLine⟩

/-- What keys work on. The cursor may be anywhere; whoever reads it clamps it. -/
structure Document where
  buffer : Buffer
  cursor : Position := ⟨0, 0⟩
  selection : Option (Position × Position) := none
  viewport : Option Viewport := none
  /-- Buffers and cursors before each edit, latest first. -/
  history : List (Buffer × Position) := []

namespace Document

instance : Inhabited Document := ⟨⟨default, ⟨0, 0⟩, none, none, []⟩⟩

def view (d : Document) : Viewport :=
  d.viewport.getD (.whole d.buffer)

/-- Moves the cursor and drops the selection. -/
def moveTo (d : Document) (p : Position) : Document :=
  { d with cursor := p, selection := none }

def select (d : Document) (start stop : Position) : Document :=
  { d with selection := some (start, stop) }

def remember (d : Document) : Document :=
  { d with history := (d.buffer, d.cursor) :: d.history }

/-- Carries out an edit. The state before it is remembered first, and stays remembered when the edit
fails; cursor and selection stay as they are. -/
def replace (d : Document) (e : Edit) : Document × Option Fault :=
  match d.buffer.replace e with
  | .ok b => ({ d.remember with buffer := b }, none)
  | .error f => (d.remember, some f)

def undo (d : Document) : Document :=
  match d.history with
  | [] => d
  | (buffer, cursor) :: earlier => { d with buffer, cursor, history := earlier }

def undoTimes (d : Document) (n : Nat) : Document :=
  (min n d.history.length).repeat undo d

def lineAt (d : Document) (i : Int) : Except Fault Line :=
  if i < 0 then .error (.negativeDocumentLine i) else d.buffer.lineAt i

def type (d : Document) (text : List Char) : Document × Option Fault :=
  let c := d.cursor
  match d.replace (.insert c text) with
  | (d, none) => (d.moveTo ⟨c.line, c.col + text.length⟩, none)
  | failed => failed

end Document

end ModalEdit
