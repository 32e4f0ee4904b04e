import ModalEdit.Document
import ModalEdit.Motion.Basic
import ModalEdit.Selection
import ModalEdit.Session.Key
import ModalEdit.TextObject

namespace ModalEdit

/-- The editing mode; a visual mode carries its selection, whose shape tells the two apart. -/
inductive Mode where
  | normal
  | insert
  | visual (selection : Selection)
  deriving DecidableEq, Repr

inductive ModeName where
  | normal
  | insert
  | visual
  | visualLine
  deriving DecidableEq, Repr

namespace ModeName

def text : ModeName → String
  | .normal => "NORMAL"
  | .insert => "INSERT"
  | .visual => "VISUAL"
  | .visualLine => "VISUAL LINE"

def ofText (text : List Char) : Except Fault ModeName :=
  match [normal, insert, visual, visualLine].find? fun m => m.text.toList == text with
  | some m => .ok m
  | none => .error (.unknownMode text)

end ModeName

namespace Mode

def name : Mode → ModeName
  | .normal => .normal
  | .insert => .insert
  | .visual s => if s.shape = .linewise then .visualLine else .visual

def selection? : Mode → Option Selection
  | .visual s => some s
  | _ => none

end Mode

/-- What is remembered between keys. -/
structure Session where
  mode : Mode := .normal
  pending : Pending := .idle
  /-- The count typed so far; it never starts with a zero. -/
  count : Option Nat := none
  register : Option Register := none
  /-- Marks in order of their letters. -/
  marks : List (Char × Position) := []
  /-- The column that vertical motions aim at. -/
  desiredCol : Option Int := none
  lastSearch : Option (SearchKind × List Char) := none
  deriving DecidableEq, Repr

/-- What a key asks of the document. -/
inductive Request where
  | stay
  | moveTo (p : Position)
  | highlight (start stop : Position)
  /-- Carry out an edit, if any, then move the cursor. -/
  | change (edit : Option Edit) (cursor : Position)
  | undo (times : Nat)
  deriving DecidableEq, Repr

def Document.grant (d : Document) : Request → Document × Option Fault
  | .stay => (d, none)
  | .moveTo p => (d.moveTo p, none)
  | .highlight start stop => (d.select start stop, none)
  | .change none cursor => (d.moveTo cursor, none)
  | .change (some e) cursor =>
    match d.replace e with
    | (d, none) => (d.moveTo cursor, none)
    | failed => failed
  | .undo times => (d.undoTimes times, none)

/-- The answer of a session to a key. The session changes also when the request cannot be made. -/
structure Reaction where
  session : Session
  request : Except Fault Request := .ok .stay
  /-- The text that went into the register. -/
  copied : Option (List Char) := none
  /-- Whether the key was used, and is not to be typed as text. -/
  consumed : Bool := true

def setMark (c : Char) (p : Position) : List (Char × Position) → List (Char × Position)
  | [] => [(c, p)]
  | (d, q) :: rest =>
    if c < d then (c, p) :: (d, q) :: rest
    else if c = d then (c, p) :: rest
    else (d, q) :: setMark c p rest

namespace Session

def clear (s : Session) : Session :=
  { s with pending := .idle, count := none }

/-- The count in effect: counts before and after an operator multiply. -/
def takenCount (s : Session) : Option Nat :=
  match s.pending.operatorCount with
  | some n => some (n * s.count.getD 1)
  | none => s.count

def motionCount (s : Session) : Option Int :=
  s.takenCount.map (Nat.cast ·)

def cursor (s : Session) (d : Document) : Position :=
  match s.mode with
  | .visual sel => sel.cursor
  | _ => d.buffer.clamp d.cursor

/-- Back to normal mode, without partial input, selection or desired column. -/
def reset (s : Session) : Session :=
  { s.clear with mode := .normal, desiredCol := none }

end Session

end ModalEdit
