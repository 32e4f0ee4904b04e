import ModalEdit.Line.Search
import ModalEdit.Operator

namespace ModalEdit

inductive Key where
  | escape
  | char (c : Char)
  /-- Any other key, by its name. -/
  | named (name : List Char)
  deriving DecidableEq, Repr

namespace Key

def escapeName : List Char :=
  ['e', 's', 'c', 'a', 'p', 'e']

def ofText (text : List Char) : Key :=
  if text = escapeName then .escape
  else
    match text with
    | [c] => .char c
    | name => .named name

/-- The text a key stands for where a command wants text. -/
def text : Key → List Char
  | .escape => escapeName
  | .char c => [c]
  | .named name => name

def digit? : Key → Option Nat
  | .char c => if '0' ≤ c ∧ c ≤ '9' then some (c.toNat - '0'.toNat) else none
  | _ => none

end Key

/-- A key that waits for one more: the target of a search, the name of a mark, … -/
inductive Lead where
  | find (kind : SearchKind)
  /-- A jump to a mark, to its exact place or to its line. -/
  | mark (exact : Bool)
  | go
  | replace
  | setMark
  | object (outer : Bool)
  deriving DecidableEq, Repr

namespace Lead

def key : Lead → Char
  | .find kind => kind.key
  | .mark exact => if exact then '\x60' else '\x27'
  | .go => 'g'
  | .replace => 'r'
  | .setMark => 'm'
  | .object outer => if outer then 'a' else 'i'

def toMotion? (c : Char) : Option Lead :=
  match SearchKind.ofKey? c with
  | some kind => some (.find kind)
  | none =>
    match c with
    | '\x27' => some (.mark false)
    | '\x60' => some (.mark true)
    | 'g' => some .go
    | _ => none

def toObject? : Char → Option Lead
  | 'i' => some (.object false)
  | 'a' => some (.object true)
  | _ => none

def normal? (c : Char) : Option Lead :=
  match c with
  | 'r' => some .replace
  | 'm' => some .setMark
  | _ => toMotion? c

def visual? (c : Char) : Option Lead :=
  match c with
  | 'm' => some .setMark
  | _ => (toObject? c).or (toMotion? c)

def afterOperator? (c : Char) : Option Lead :=
  (toObject? c).or (toMotion? c)

end Lead

/-- Partial input. An operator keeps the count that was typed before it. -/
inductive Pending where
  | idle
  | lead (l : Lead)
  | operator (op : Operator) (count : Option Nat)
  | operatorLead (op : Operator) (count : Option Nat) (l : Lead)
  deriving DecidableEq, Repr

namespace Pending

def operatorCount : Pending → Option Nat
  | .idle | .lead _ => none
  | .operator _ count | .operatorLead _ count _ => count

def operator? : Pending → Option Operator
  | .idle | .lead _ => none
  | .operator op _ | .operatorLead op _ _ => some op

def lead? : Pending → Option Lead
  | .idle | .operator _ _ => none
  | .lead l | .operatorLead _ _ l => some l

end Pending

end ModalEdit
