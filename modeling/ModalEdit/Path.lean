import ModalEdit.Fault
import ModalEdit.Text.Lines

namespace ModalEdit

/-- A path. Its root is written with as many slashes as it has: none for a relative path, and two
slashes, but not more of them, are kept apart from one. -/
structure Path where
  slashes : Nat
  parts : List (List Char)
  deriving DecidableEq, Repr

namespace Path

def namesIn (text : List Char) : List (List Char) :=
  (splitAt '/' text).filter fun part => !part.isEmpty && part != ['.']

def ofText (text : List Char) : Path :=
  let leading := (text.takeWhile (· == '/')).length
  ⟨if leading ≤ 2 then leading else 1, namesIn text⟩

/-- The text of a path; the path of nothing is a dot. -/
def text (p : Path) : List Char :=
  if p.slashes = 0 ∧ p.parts.isEmpty then ['.']
  else List.replicate p.slashes '/' ++ List.intercalate ['/'] p.parts

def child (p : Path) (name : List Char) : Path :=
  { p with parts := p.parts ++ [name] }

def withoutTrailingSlashes (text : List Char) : List Char :=
  (text.reverse.dropWhile (· == '/')).reverse

/-- The home directory that a tilde before a name stands for: that of the user by the name, and
without a name that of the environment. -/
def homeFor (home : List Char) (users : List (List Char × List Char)) (name : List Char) :
    Option (List Char) :=
  let directory := if name.isEmpty then some home else users.lookup name
  directory.map fun h =>
    let h := withoutTrailingSlashes h
    if h.isEmpty then ['/'] else h

def expandHome (home : List Char) (users : List (List Char × List Char)) (p : Path) :
    Except Fault Path :=
  match p.slashes, p.parts with
  | 0, ('~' :: name) :: rest =>
    match homeFor home users name with
    | some h =>
      if h.head? = some '~' then .error .noHome
      else
        let base := ofText h
        .ok { base with parts := base.parts ++ rest }
    | none => .error .noHome
  | _, _ => .ok p

end Path

end ModalEdit
