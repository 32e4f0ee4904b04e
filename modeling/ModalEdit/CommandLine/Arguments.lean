import ModalEdit.CommandLine.Flag

namespace ModalEdit

structure Arguments where
  file : Option (List Char) := none
  noVim : Bool := false
  noClipboard : Bool := false
  debug : Bool := false
  settings : Option (List Char) := none
  deriving DecidableEq, Repr

inductive Invocation where
  | run (arguments : Arguments)
  | help
  | refused (error : UsageError)
  deriving DecidableEq, Repr

namespace Arguments

/-- Sets an option that takes no value; asking for help ends the reading. -/
def set (a : Arguments) : Flag → Option Arguments
  | .help => none
  | .noVim => some { a with noVim := true }
  | .noClipboard => some { a with noClipboard := true }
  | .debug => some { a with debug := true }
  | .settings => some a

/-- What the characters after a one-letter option come to: they are options in turn, and from the
first one that is no option on they are a value that nobody asked for. -/
def cluster (flag : Flag) : List Char → Except UsageError Unit
  | [] => .ok ()
  | c :: rest => if c = 'h' then cluster flag rest else .error (.unwantedValue flag (c :: rest))

/-- The value of an option from the text behind an equals sign; an end of options is no value. -/
def valueOf (text : List Char) : Option (List Char) :=
  if text = ['-', '-'] then none else some text

/-- The first plain argument is the file, and an end of options next to it is dropped; later ones
are left over. The truth value tells whether the file is settled. -/
def read (a : Arguments) (extras : List (List Char)) : Bool → List Argument → Invocation
  | _, [] => if extras.isEmpty then .run a else .refused (.unrecognized extras)
  | false, .plain text :: .endOfOptions :: rest => { a with file := some text }.read extras true rest
  | false, .endOfOptions :: .plain text :: rest => { a with file := some text }.read extras true rest
  | false, .plain text :: rest => { a with file := some text }.read extras true rest
  | false, .endOfOptions :: rest => a.read extras true rest
  | true, .plain text :: rest => a.read (extras ++ [text]) true rest
  | true, .endOfOptions :: rest => a.read (extras ++ [['-', '-']]) true rest
  | taken, .unknown text :: rest => a.read (extras ++ [text]) taken rest
  | taken, .option .settings :: .plain value :: rest =>
    { a with settings := some value }.read extras taken rest
  | taken, .optionWith .settings value :: rest =>
    { a with settings := valueOf value }.read extras taken rest
  | _, .option .settings :: _ => .refused (.missingValue .settings)
  | taken, .option flag :: rest =>
    match a.set flag with
    | some a => a.read extras taken rest
    | none => .help
  | _, .optionWith flag value :: _ => .refused (.unwantedValue flag value)
  | _, .cluster flag text :: _ =>
    match cluster flag text with
    | .ok () => .help
    | .error e => .refused e

end Arguments

/-- Reads a command line. All arguments are classified before any of them is followed. -/
def Invocation.ofArguments (arguments : List (List Char)) : Invocation :=
  match Argument.classifyAll arguments with
  | .ok arguments => ({} : Arguments).read [] false arguments
  | .error e => .refused e

end ModalEdit
