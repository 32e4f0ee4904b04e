import ModalEdit.Text.Lines

namespace ModalEdit

def isTerminator (c : Char) : Bool :=
  c == '.' || c == '!' || c == '?'

/-- The marks that may follow a terminator and still belong to the sentence. -/
def isCloser (c : Char) : Bool :=
  c == ')' || c == ']' || c == '\x22' || c == '\x27'

/-- Where the reading of a line from left to right is. -/
inductive Phase where
  /-- Between sentences, among blanks. -/
  | gap
  | within
  /-- In a sentence, with nothing but terminators and closers since a terminator. -/
  | ended
  deriving DecidableEq, Repr

def Phase.enter (c : Char) : Phase :=
  if isTerminator c then .ended else .within

def Phase.next : Phase → Char → Phase
  | .gap, c => if isBlank c then .gap else .enter c
  | .within, c => .enter c
  | .ended, c =>
    if isBlank c then .gap else if isTerminator c || isCloser c then .ended else .within

def sentenceLength : Phase → Line → Nat
  | _, [] => 0
  | phase, c :: rest =>
    match phase.next c with
    | .gap => 0
    | next => sentenceLength next rest + 1

theorem sentenceLength_le (phase : Phase) (line : Line) :
    sentenceLength phase line ≤ line.length := by
  induction line generalizing phase with
  | nil => simp [sentenceLength]
  | cons c rest ih =>
    simp only [sentenceLength]
    split
    · simp
    · exact Nat.succ_le_succ (ih _)

/-- Columns at which sentences begin, when reading from column `col` on. -/
def sentenceStartsFrom : Nat → Phase → Line → List Nat
  | _, _, [] => []
  | col, phase, c :: rest =>
    let starts := sentenceStartsFrom (col + 1) (phase.next c) rest
    if phase = .gap ∧ isBlank c = false then col :: starts else starts

def sentenceStarts (line : Line) : List Nat :=
  sentenceStartsFrom 0 .gap line

/-- Column just past the sentence that holds column `col`. -/
def sentenceEnd (line : Line) (col : Nat) : Nat :=
  min line.length (col + sentenceLength .within (line.drop col))

def sentenceEndFrom (line : Line) (col : Int) : Except Fault Int := do
  return min line.length (col + sentenceLength .within (← readFrom line col))

@[simp] theorem sentenceEndFrom_natCast (line : Line) (col : Nat) :
    sentenceEndFrom line col = .ok (sentenceEnd line col : Int) := by
  simp only [sentenceEndFrom, readFrom_natCast, sentenceEnd, bind, Except.bind, pure, Except.pure]
  congr 1
  omega

end ModalEdit
