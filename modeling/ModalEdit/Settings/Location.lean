import ModalEdit.Path
import ModalEdit.Text.Lines

namespace ModalEdit

structure Surroundings where
  home : List Char
  users : List (List Char × List Char) := []
  config : Path
  settingsPath : Option (List Char) := none
  deriving DecidableEq, Repr

/-- A text as the value of a variable of the environment, which may hold anything but a NUL. -/
def asVariable (text : List Char) : Except Fault (List Char) :=
  if text.contains '\x00' then .error .nulCharacter else .ok text

/-- The users and their home directories, from a table with a line for each user: fields divided by
colons, the name first and the home directory sixth. -/
def usersIn (table : List Char) : List (List Char × List Char) :=
  (splitLines table).filterMap fun row =>
    match splitAt ':' row with
    | name :: _ :: _ :: _ :: _ :: home :: _ => some (name, home)
    | _ => none

namespace Surroundings

def withSettingsPath (s : Surroundings) (path : List Char) : Except Fault Surroundings := do
  return { s with settingsPath := some (← asVariable path) }

/-- The settings are kept where the environment says, unless it says nothing but blanks. -/
def settingsFile (s : Surroundings) : Except Fault Path :=
  let override := trim (s.settingsPath.getD [])
  if override.isEmpty then .ok (s.config.child "settings.json".toList)
  else (Path.ofText override).expandHome s.home s.users

end Surroundings

end ModalEdit
