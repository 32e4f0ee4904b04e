import ModalEdit.Disk
import ModalEdit.Json.Reader
import ModalEdit.Json.Writer

namespace ModalEdit

structure Preferences where
  vimEnabled : Bool := true
  systemClipboard : Bool := true
  showMode : Bool := true
  deriving DecidableEq, Repr

namespace Preferences

def vimEnabledName : Units := .ofString "vim_enabled"

def systemClipboardName : Units := .ofString "system_clipboard"

def showModeName : Units := .ofString "show_mode"

/-- A field that is missing or no truth value leaves the preference at its default. -/
def flag (name : Units) (fields : List (Units × Json)) : Bool :=
  match Json.field? name fields with
  | some (.bool b) => b
  | _ => true

def ofFields (fields : List (Units × Json)) : Preferences where
  vimEnabled := flag vimEnabledName fields
  systemClipboard := flag systemClipboardName fields
  showMode := flag showModeName fields

def toFields (p : Preferences) : List (Units × Json) :=
  [(vimEnabledName, .bool p.vimEnabled), (systemClipboardName, .bool p.systemClipboard),
    (showModeName, .bool p.showMode)]

/-- The fields of an object with the preferences put in: in their old places, or at the end. -/
def mergeInto (p : Preferences) (fields : List (Units × Json)) : List (Units × Json) :=
  p.toFields.foldl (fun fields (name, value) => Json.setField name value fields) fields

end Preferences

/-- The folder of the settings file; there may be none yet. -/
abbrev SettingsStore := Option Folder

namespace SettingsStore

def fileName : List Char :=
  "settings.json".toList

def temporaryName : List Char :=
  ".tmp_settings.json".toList

/-- What stops the writing of a file after so many bytes. -/
structure Interruption where
  size : Nat
  fault : Fault
  deriving DecidableEq, Repr

/-- How a file is written: the name of the temporary file, and what stops the writing, if anything
does. -/
structure Writing where
  temporary : List Char := temporaryName
  interruption : Option Interruption := none
  deriving DecidableEq, Repr

/-- As much of a content as gets written. -/
def Writing.reached (w : Writing) (content : ByteArray) : ByteArray :=
  w.interruption.elim content fun i => content.extract 0 i.size

def entry? (s : SettingsStore) : Option Entry :=
  s.bind fun f => f.lookup fileName

/-- The fields of the object in the file; a file that is missing or holds no object has none. -/
def loadFields (s : SettingsStore) (limits : Limits) : Except Fault (List (Units × Json)) :=
  match s.entry? with
  | none => .ok []
  | some .directory => .error .isDirectory
  | some (.file content) =>
    match Json.ofBytes limits content with
    | .ok (some (.obj fields)) => .ok fields
    | .ok _ => .ok []
    | .error f => .error f

def load (s : SettingsStore) (limits : Limits) : Except Fault Preferences :=
  (s.loadFields limits).map .ofFields

def contentOf (v : Json) : ByteArray :=
  (String.ofList (v.write .indented)).toUTF8

/-- Puts a content in place of the file. The folder is made if need be; when the content cannot be
written whole, or the temporary file cannot take the place of the settings file, the temporary file
is removed again. -/
def replaceFile (s : SettingsStore) (w : Writing) (content : ByteArray) :
    SettingsStore × Option Fault :=
  let written := Folder.put w.temporary (.file (w.reached content)) (s.getD [])
  let placed :=
    match w.interruption with
    | none => written.rename w.temporary fileName
    | some i => .error i.fault
  match placed with
  | .ok f => (some f, none)
  | .error f => (some (written.remove w.temporary), some f)

def saveValue (s : SettingsStore) (v : Json) (w : Writing := {}) : SettingsStore × Option Fault :=
  s.replaceFile w (contentOf v)

/-- Writes preferences to the file, keeping its other fields. -/
def save (s : SettingsStore) (limits : Limits) (p : Preferences) (w : Writing := {}) :
    SettingsStore × Option Fault :=
  match s.loadFields limits with
  | .ok fields => s.saveValue (.obj (p.mergeInto fields)) w
  | .error f => (s, some f)

def names (s : SettingsStore) : Option (List (List Char)) :=
  s.map fun f => f.map (·.1)

end SettingsStore

end ModalEdit
