import ModalEdit.CommandLine.Launch
import ModalEdit.Limits.Editing

namespace ModalEdit

def entryOnDisk (path : Path) : IO (Except Fault (Option Entry)) := do
  try
    return .ok (some (.file (← IO.FS.readBinFile (String.ofList path.text))))
  catch
    | .inappropriateType .. => return .ok (some .directory)
    | .invalidArgument .. => return .error .nameTooLong
    | _ => return .ok none

def userTable : IO String := do
  try
    IO.FS.readFile "/etc/passwd"
  catch _ =>
    return ""

def surroundingsNow : IO Surroundings := do
  let home := ((← IO.getEnv "HOME").getD "/").toList
  let users := usersIn (← userTable).toList
  let config :=
    match ← IO.getEnv "VIMCORE_CONFIG_DIR" with
    | some folder => Path.ofText folder.toList
    | none => (Path.ofText home).child ".vimcore".toList
  let settingsPath := (← IO.getEnv "VIMCORE_SETTINGS_PATH").map String.toList
  return { home, users, config, settingsPath }

/-- The text that comes of playing keys on a text. -/
def play (p : Preferences) (text keys : List Char) : List Char :=
  let clipboard := if p.systemClipboard then Clipboard.working else .disabled
  let first : Editor := { document := { buffer := .ofText text } }
  let press := fun (e : Editor) c =>
    if p.vimEnabled then e.input .standard clipboard c else (e.step clipboard (.type [c])).1
  (keys.foldl press first).document.buffer.text

def Launch.run (l : Launch) : IO Unit := do
  let content ←
    match l.file with
    | some path => entryOnDisk path
    | none => pure (.ok none)
  let text :=
    match content with
    | .ok (some (.file bytes)) => (String.fromUTF8? bytes).getD ""
    | _ => ""
  let keys ← (← IO.getStdin).readToEnd
  IO.print (String.ofList (play l.preferences text.toList keys.toList))

def openLog (config : Path) : IO Unit := do
  IO.FS.createDirAll (String.ofList config.text)
  IO.FS.withFile (String.ofList (config.child "debug.log".toList).text) .append fun _ => pure ()

end ModalEdit

open ModalEdit in
def main (args : List String) : IO UInt32 := do
  let s ← surroundingsNow
  let invocation := Invocation.ofArguments (args.map String.toList)
  let found ← (invocation.lookups s).mapM fun path => do
    return (path, ← entryOnDisk path)
  match invocation.start s .standard fun path => (found.lookup path).getD (.ok none) with
  | .error f =>
    IO.eprintln (f.message.getD "no such file can be read")
    return 1
  | .ok r =>
    if r.logs then openLog s.config
    IO.print r.output
    IO.eprint r.errors
    if let some l := r.launch then l.run
    return r.exit.toUInt32
