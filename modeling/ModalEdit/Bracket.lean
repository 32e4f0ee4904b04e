import ModalEdit.Buffer.Flat

namespace ModalEdit

inductive Bracket where
  | round
  | square
  | curly
  | angle
  deriving DecidableEq, Repr

namespace Bracket

def opening : Bracket → Char
  | .round => '('
  | .square => '['
  | .curly => '\x7b'
  | .angle => '<'

def closing : Bracket → Char
  | .round => ')'
  | .square => ']'
  | .curly => '\x7d'
  | .angle => '>'

def ofChar? (c : Char) : Option Bracket :=
  [round, square, curly, angle].find? fun b => c == b.opening || c == b.closing

@[simp] theorem ofChar?_opening (b : Bracket) : ofChar? b.opening = some b := by
  cases b <;> rfl

@[simp] theorem ofChar?_closing (b : Bracket) : ofChar? b.closing = some b := by
  cases b <;> rfl

theorem opening_ne_closing (b : Bracket) : b.opening ≠ b.closing := by
  cases b <;> decide

end Bracket

/-- Offset of the first `shut` that no `open'` before it accounts for, when `depth` of them are
accounted for already. -/
def unmatched (open' shut : Char) : Nat → List Char → Option Nat
  | _, [] => none
  | depth, c :: rest =>
    if c = open' then (unmatched open' shut (depth + 1) rest).map (· + 1)
    else if c = shut then
      match depth with
      | 0 => some 0
      | depth + 1 => (unmatched open' shut depth rest).map (· + 1)
    else (unmatched open' shut depth rest).map (· + 1)

namespace Bracket

/-- Offset of the closing mark for a bracket that is open where the text begins. -/
def closingIn (b : Bracket) (ahead : List Char) : Option Nat :=
  unmatched b.opening b.closing 0 ahead

/-- Distance back to the opening mark for a bracket that is open where the text ends; the text is
given from its end. -/
def openingIn (b : Bracket) (behind : List Char) : Option Nat :=
  unmatched b.closing b.opening 0 behind

end Bracket

/-- The brackets that have a partner to jump to; angle brackets do not. -/
def Bracket.jumps (b : Bracket) : Bool :=
  b != .angle

/-- Offset of the partner of the bracket at offset `i`. -/
def partnerAt (text : List Char) (i : Nat) (b : Bracket) : Option Nat :=
  if text[i]? = some b.opening then (b.closingIn (text.drop (i + 1))).map (i + 1 + ·)
  else (b.openingIn (text.take i).reverse).map fun k => i - 1 - k

/-- Offset of the partner of the bracket at any offset; one that counts from the end has a bracket
there but no partner. -/
def partnerFrom (text : List Char) (i : Int) : Except Fault (Option Nat) :=
  match pick? text i with
  | none => .error .offLine
  | some c =>
    match (Bracket.ofChar? c).filter Bracket.jumps with
    | none => .error (.unbound [c])
    | some b => .ok (if i < 0 then none else partnerAt text i.toNat b)

/-- A pair of brackets around an offset: the one under the offset if it opens there, else the
nearest one still open, and the mark that closes it. -/
def enclosingPair (text : List Char) (i : Nat) (b : Bracket) : Option (Nat × Nat) := do
  let first ←
    if text[i]? = some b.opening then some i
    else (b.openingIn (text.take i).reverse).map fun k => i - 1 - k
  let width ← b.closingIn (text.drop (first + 1))
  return (first, first + 1 + width)

namespace Buffer

/-- The partner of the first bracket at or after a spot on its line. -/
def partner (b : Buffer) (s : Spot) : Option Position := do
  let jumping := fun c => (Bracket.ofChar? c).filter Bracket.jumps
  let skipped ← s.ahead.findIdx? fun c => (jumping c).isSome
  let kind ← s.ahead[skipped]?.bind jumping
  let goal ← partnerAt b.text (b.offset s.line (s.col + skipped)) kind
  return b.positionAt goal

/-- The pair of brackets around a spot, as offsets of the text. -/
def enclosing (b : Buffer) (s : Spot) (kind : Bracket) : Option (Nat × Nat) :=
  enclosingPair b.text (b.offset s.line s.col) kind

end Buffer

end ModalEdit
