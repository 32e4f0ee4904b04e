import ModalEdit.Text.CharTables
import ModalEdit.Text.Printable

namespace ModalEdit

inductive Flag where
  | help
  | noVim
  | noClipboard
  | debug
  | settings
  deriving DecidableEq, Repr

namespace Flag

def names : Flag → List String
  | .help => ["-h", "--help"]
  | .noVim => ["--no-vim"]
  | .noClipboard => ["--no-clipboard"]
  | .debug => ["--debug"]
  | .settings => ["--settings"]

def takesValue : Flag → Bool
  | .settings => true
  | _ => false

def table : List (List Char × Flag) :=
  [help, noVim, noClipboard, debug, settings].flatMap fun f => f.names.map (·.toList, f)

def shownNames (f : Flag) : String :=
  "/".intercalate f.names

end Flag

inductive UsageError where
  | ambiguous (argument : List Char) (candidates : List (List Char))
  | missingValue (flag : Flag)
  | unwantedValue (flag : Flag) (value : List Char)
  | unrecognized (arguments : List (List Char))
  deriving DecidableEq, Repr

def UsageError.message : UsageError → String
  | .ambiguous argument candidates =>
    "ambiguous option: " ++ String.ofList argument ++ " could match " ++
      ", ".intercalate (candidates.map String.ofList)
  | .missingValue flag => "argument " ++ flag.shownNames ++ ": expected one argument"
  | .unwantedValue flag value =>
    "argument " ++ flag.shownNames ++ ": ignored explicit argument " ++ String.ofList (quoted value)
  | .unrecognized arguments =>
    "unrecognized arguments: " ++ " ".intercalate (arguments.map String.ofList)

inductive Argument where
  | plain (text : List Char)
  | endOfOptions
  | option (flag : Flag)
  | optionWith (flag : Flag) (value : List Char)
  /-- A one-letter option with further characters in the same argument, behind an equals sign or
  not. -/
  | cluster (flag : Flag) (rest : List Char)
  | unknown (text : List Char)
  deriving DecidableEq, Repr

/-- A minus sign and digits, perhaps with a decimal point before the last of them; a newline may
follow. -/
def looksNegative (text : List Char) : Bool :=
  match text with
  | '-' :: rest =>
    let number := if rest.getLast? = some '\n' then rest.dropLast else rest
    let afterWhole := number.dropWhile isDecimalDigit
    match afterWhole with
    | [] => !number.isEmpty
    | '.' :: fraction => !fraction.isEmpty && fraction.all isDecimalDigit
    | _ => false
  | _ => false

namespace Argument

def splitValue (text : List Char) : List Char × Option (List Char) :=
  match text.dropWhile (· != '=') with
  | [] => (text, none)
  | _ :: value => (text.takeWhile (· != '='), some value)

/-- The options that a text stands for when it is not the full name of one. -/
def candidates (text : List Char) : List (List Char × Argument) :=
  match text with
  | '-' :: '-' :: _ =>
    let (name, value) := splitValue text
    (Flag.table.filter fun (full, _) => name.isPrefixOf full).map fun (full, flag) =>
      (full, value.elim (.option flag) (.optionWith flag))
  | _ =>
    (Flag.table.filter fun (full, _) => full == text.take 2).map fun (full, flag) =>
      (full, .cluster flag (text.drop 2))

def classify (text : List Char) : Except UsageError Argument :=
  if text.head? != some '-' then .ok (.plain text)
  else
    match Flag.table.lookup text with
    | some flag => .ok (.option flag)
    | none =>
      if text.length = 1 then .ok (.plain text)
      else
        match splitValue text with
        | (name, some value) =>
          match Flag.table.lookup name with
          | some flag =>
            if name.length = 2 ∧ value ≠ [] then .ok (.cluster flag value)
            else .ok (.optionWith flag value)
          | none => choose text
        | (_, none) => choose text
where
  /-- Settles for the only candidate; without one, numbers and texts with a space are plain. -/
  choose (text : List Char) : Except UsageError Argument :=
    match candidates text with
    | [(_, argument)] => .ok argument
    | [] => .ok (if looksNegative text || text.contains ' ' then .plain text else .unknown text)
    | several => .error (.ambiguous text (several.map (·.1)))

def classifyAll : List (List Char) → Except UsageError (List Argument)
  | [] => .ok []
  | text :: rest =>
    if text = ['-', '-'] then .ok (.endOfOptions :: rest.map .plain)
    else do
      let argument ← classify text
      return argument :: (← classifyAll rest)

end Argument

end ModalEdit
