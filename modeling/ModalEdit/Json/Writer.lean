import ModalEdit.Decimal.Layout
import ModalEdit.Json.Value
import ModalEdit.Text.Printable

namespace ModalEdit

namespace Json

/-- Numbers are positional from a ten-thousandth up to sixteen whole places. -/
def numberLayout : DecimalLayout := ⟨-3, 16, 2⟩

/-- Everything outside the printable ASCII characters is escaped. -/
def writeUnit (u : UInt16) : List Char :=
  match u.toNat with
  | 0x22 => ['\\', '\x22']
  | 0x5C => ['\\', '\\']
  | 0x08 => ['\\', 'b']
  | 0x0C => ['\\', 'f']
  | 0x0A => ['\\', 'n']
  | 0x0D => ['\\', 'r']
  | 0x09 => ['\\', 't']
  | n => if 0x20 ≤ n ∧ n < 0x7F then [Char.ofNat n] else '\\' :: 'u' :: hexDigits 4 n

def writeString (s : Units) : List Char :=
  '\x22' :: s.flatMap writeUnit ++ ['\x22']

def writeReal : Binary64 → List Char
  | .nan => "NaN".toList
  | .infinite false => "Infinity".toList
  | .infinite true => "-Infinity".toList
  | .finite negative m e =>
    let digits := numberLayout.write (if m = 0 then ⟨0, 0⟩ else Binary64.shortest m e)
    if negative then '-' :: digits else digits

inductive Style where
  | oneLine
  | indented
  deriving DecidableEq, Repr

def Style.lineBreak : Style → Nat → List Char
  | .oneLine, _ => []
  | .indented, depth => '\n' :: List.replicate (2 * depth) ' '

def Style.separator : Style → Nat → List Char
  | .oneLine, _ => [',', ' ']
  | .indented, depth => ',' :: Style.lineBreak .indented depth

/-- Puts items at a depth between brackets; without items nothing stands there. -/
def Style.enclose (style : Style) (depth : Nat) (opening closing : Char)
    (items : List (List Char)) : List Char :=
  if items.isEmpty then [opening, closing]
  else
    opening :: (style.lineBreak (depth + 1) ++
      (List.intercalate (style.separator (depth + 1)) items ++ (style.lineBreak depth ++ [closing])))

mutual

def writeAt (style : Style) (depth : Nat) : Json → List Char
  | .null => "null".toList
  | .bool true => "true".toList
  | .bool false => "false".toList
  | .int n => integerText n
  | .real x => writeReal x
  | .str s => writeString s
  | .arr items => style.enclose depth '[' ']' (writeItems style (depth + 1) items)
  | .obj fields => style.enclose depth '\x7b' '\x7d' (writeFields style (depth + 1) fields)

def writeItems (style : Style) (depth : Nat) : List Json → List (List Char)
  | [] => []
  | v :: rest => writeAt style depth v :: writeItems style depth rest

def writeFields (style : Style) (depth : Nat) : List (Units × Json) → List (List Char)
  | [] => []
  | (name, v) :: rest =>
    (writeString name ++ ':' :: ' ' :: writeAt style depth v) :: writeFields style depth rest

end

def write (style : Style) (v : Json) : List Char :=
  writeAt style 0 v

end Json

end ModalEdit
