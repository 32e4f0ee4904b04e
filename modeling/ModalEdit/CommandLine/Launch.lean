import ModalEdit.CommandLine.Arguments
import ModalEdit.Settings.Location
import ModalEdit.Settings.Store

namespace ModalEdit

def usage : String :=
  "usage: vimcore [-h] [--no-vim] [--no-clipboard] [--debug] [--settings PATH]\n" ++
  "               [file]\n"

def helpText : String :=
  usage ++
  "\nA modal vim-style text editor for the terminal\n" ++
  "\npositional arguments:\n" ++
  "  file             File to edit\n" ++
  "\noptions:\n" ++
  "  -h, --help       show this help message and exit\n" ++
  "  --no-vim         Start with vim keys disabled\n" ++
  "  --no-clipboard   Do not mirror yanks and deletes to the system clipboard\n" ++
  "  --debug          Write debug logging to ~/.vimcore/debug.log\n" ++
  "  --settings PATH  Path to settings JSON file (overrides\n" ++
  "                   ~/.vimcore/settings.json)\n"

def UsageError.report (e : UsageError) : String :=
  usage ++ "vimcore: error: " ++ e.message ++ "\n"

structure Launch where
  file : Option Path
  preferences : Preferences
  deriving DecidableEq, Repr

structure Start where
  exit : Nat := 0
  output : String := ""
  errors : String := ""
  launch : Option Launch := none
  settingsPath : Option (List Char)
  logs : Bool := false

namespace Arguments

/-- The surroundings with the settings path of the command line, unless it is empty. -/
def surroundings (a : Arguments) (s : Surroundings) : Except Fault Surroundings :=
  match a.settings with
  | some path => if path.isEmpty then .ok s else s.withSettingsPath path
  | none => .ok s

/-- The preferences of a settings file, with what the command line switches off. -/
def preferences (a : Arguments) (limits : Limits) (settings : Option Entry) :
    Except Fault Preferences := do
  let store : SettingsStore := settings.map fun e => [(SettingsStore.fileName, e)]
  let p ← store.load limits
  return { p with
    vimEnabled := p.vimEnabled && !a.noVim
    systemClipboard := p.systemClipboard && !a.noClipboard }

def path? (a : Arguments) : Option Path :=
  a.file.map Path.ofText

/-- Starts the editor. The settings are read before the file is looked at. -/
def start (a : Arguments) (s : Surroundings) (limits : Limits)
    (disk : Path → Except Fault (Option Entry)) : Except Fault Start := do
  let s ← a.surroundings s
  let preferences ← a.preferences limits (← disk (← s.settingsFile))
  let launched : Start :=
    { launch := some ⟨a.path?, preferences⟩, settingsPath := s.settingsPath, logs := a.debug }
  match a.path? with
  | none => return launched
  | some path =>
    match ← disk path with
    | some .directory =>
      return { exit := 2, errors := "vimcore: " ++ String.ofList path.text ++ " is a directory\n",
               settingsPath := s.settingsPath, logs := a.debug }
    | _ => return launched

end Arguments

def Invocation.lookups (i : Invocation) (s : Surroundings) : List Path :=
  match i with
  | .run a => ((a.surroundings s).bind (·.settingsFile)).toOption.toList ++ a.path?.toList
  | .help | .refused _ => []

def Invocation.start (i : Invocation) (s : Surroundings) (limits : Limits)
    (disk : Path → Except Fault (Option Entry)) : Except Fault Start :=
  match i with
  | .run a => a.start s limits disk
  | .help => .ok { output := helpText, settingsPath := s.settingsPath }
  | .refused e => .ok { exit := 2, errors := e.report, settingsPath := s.settingsPath }

end ModalEdit
