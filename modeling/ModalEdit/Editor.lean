import ModalEdit.Session.React

namespace ModalEdit

inductive Clipboard where
  | working
  | disabled
  /-- Copying fails, which nobody notices. -/
  | failing
  deriving DecidableEq, Repr

/-- A session at work on a document. -/
structure Editor where
  session : Session := {}
  document : Document := default
  /-- All texts copied so far, oldest first. -/
  copied : List (List Char) := []

structure Report where
  consumed : Bool
  mode : ModeName
  copied : Option (List Char)
  deriving DecidableEq, Repr

/-- A step of the surface around the editor. -/
inductive Step where
  | key (k : Key)
  | type (text : List Char)
  | moveTo (p : Position)
  | select (start stop : Position)
  | undo
  | replace (e : Edit)
  | reset
  | view (viewport : Option Viewport)
  | register (content : Option Register)
  | lineAt (i : Int)
  deriving DecidableEq, Repr

inductive Outcome where
  | report (r : Report)
  | line (text : Line)
  | done
  deriving DecidableEq, Repr

namespace Editor

/-- Gives a key to the session and grants what it asks; the text for the clipboard is copied only
when all went well. -/
def press (e : Editor) (clipboard : Clipboard) (k : Key) : Editor × Except Fault Report :=
  let r := e.session.react e.document k
  match r.request with
  | .error f => ({ e with session := r.session }, .error f)
  | .ok request =>
    match e.document.grant request with
    | (document, some f) => ({ e with session := r.session, document }, .error f)
    | (document, none) =>
      let copied := if clipboard = .working then r.copied.toList else []
      (⟨r.session, document, e.copied ++ copied⟩, .ok ⟨r.consumed, r.session.mode.name, r.copied⟩)

def edited (e : Editor) : Document × Option Fault → Editor × Except Fault Outcome
  | (document, none) => ({ e with document }, .ok .done)
  | (document, some f) => ({ e with document }, .error f)

def step (e : Editor) (clipboard : Clipboard) : Step → Editor × Except Fault Outcome
  | .key k =>
    let (e, report) := e.press clipboard k
    (e, report.map .report)
  | .type text => e.edited (e.document.type text)
  | .moveTo p => e.edited (e.document.moveTo p, none)
  | .select start stop => e.edited (e.document.select start stop, none)
  | .undo => e.edited (e.document.undo, none)
  | .replace edit => e.edited (e.document.replace edit)
  | .reset => ({ e with session := e.session.reset }, .ok .done)
  | .view viewport => e.edited ({ e.document with viewport }, none)
  | .register content => ({ e with session := { e.session with register := content } }, .ok .done)
  | .lineAt i => (e, (e.document.lineAt i).map .line)

/-- Takes steps one after the other, going on after faults. -/
def run (e : Editor) (clipboard : Clipboard) (steps : List Step) : Editor :=
  steps.foldl (fun e s => (e.step clipboard s).1) e

end Editor

end ModalEdit
