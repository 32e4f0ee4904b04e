import ModalEdit.Fault
import ModalEdit.Path

namespace ModalEdit

inductive Entry where
  | file (content : ByteArray)
  | directory

/-- The entries of a folder by their names. -/
abbrev Folder := List (List Char × Entry)

namespace Folder

def put (name : List Char) (e : Entry) : Folder → Folder
  | [] => [(name, e)]
  | (other, old) :: rest =>
    if other = name then (name, e) :: rest else (other, old) :: put name e rest

def remove (name : List Char) (f : Folder) : Folder :=
  f.filter fun (other, _) => other != name

/-- Gives the file of one name another name, over the file that has it; a directory is not
replaced. -/
def rename (source target : List Char) (f : Folder) : Except Fault Folder :=
  match f.lookup source, f.lookup target with
  | _, some .directory => .error .isDirectory
  | some e, _ => .ok ((f.remove source).put target e)
  | none, _ => .ok f

end Folder

/-- A place on a disk, as the names below the root. -/
abbrev Place := List (List Char)

structure Disk where
  /-- Files and directories by their places. All places above one of them are directories. -/
  entries : List (Place × Entry)
  working : Place

namespace Disk

def longestName : Nat := 255

def longestPath : Nat := 4095

def byteSize (text : List Char) : Nat :=
  text.foldl (fun n c => n + c.utf8Size) 0

def entryAt (d : Disk) (place : Place) : Option Entry :=
  (d.entries.lookup place).or <|
    if place.isPrefixOf d.working || d.entries.any fun (other, _) => place.isPrefixOf other then
      some .directory
    else none

/-- Follows the parts of a path: each but the last must lead to a directory, and two dots lead back
up. A path that leads nowhere has no entry, which is no fault. -/
def follow (d : Disk) (place : Place) : List (List Char) → Except Fault (Option Entry)
  | [] => .ok (d.entryAt place)
  | part :: rest =>
    match d.entryAt place with
    | some .directory =>
      if part = ['.', '.'] then d.follow place.dropLast rest
      else if longestName < byteSize part then .error .nameTooLong
      else d.follow (place ++ [part]) rest
    | _ => .ok none

/-- The entry at a path. There is none at a path with a NUL. -/
def look (d : Disk) (p : Path) : Except Fault (Option Entry) :=
  if p.text.contains '\x00' then .ok none
  else if longestPath < byteSize p.text then .error .nameTooLong
  else d.follow (if p.slashes = 0 then d.working else []) p.parts

end Disk

end ModalEdit
