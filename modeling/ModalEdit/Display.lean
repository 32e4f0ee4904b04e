import ModalEdit.Session.Basic
import ModalEdit.Text.Printable

namespace ModalEdit

structure Label where
  text : String
  style : String
  deriving DecidableEq, Repr

def modeLabel (m : ModeName) (enabled : Bool) : Label :=
  if enabled then
    ⟨" " ++ m.text ++ "  ",
      match m with
      | .normal => "bold black on blue"
      | .insert => "bold black on green"
      | .visual | .visualLine => "bold black on magenta"⟩
  else ⟨" VIM OFF ", "dim"⟩

structure KeyEvent where
  name : List Char
  text : Option (List Char)
  deriving DecidableEq, Repr

namespace KeyEvent

/-- The event of a key; a key named by one character types it unless another text is given. -/
def ofKey (name : List Char) (text : Option (List Char)) : KeyEvent :=
  ⟨name, text.or (if name.length = 1 then some name else none)⟩

def escapeNames : List (List Char) :=
  [Key.escapeName, "ctrl+left_square_bracket".toList, "ctrl+c".toList]

/-- The key of the editor that an event stands for; other events are left to the surface. -/
def key? (e : KeyEvent) : Option Key :=
  if escapeNames.contains e.name then some .escape
  else
    match e.text with
    | some [c] => if isPrintable c then some (.char c) else none
    | _ => none

end KeyEvent

end ModalEdit
