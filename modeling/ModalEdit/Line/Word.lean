import ModalEdit.Text.Lines
import ModalEdit.Text.CharClass

namespace ModalEdit

namespace Grain

/-- Length of the run of one class that a text begins with. -/
def headRun (g : Grain) : Line → Nat
  | [] => 0
  | c :: rest => runLength (fun d => g.classify d == g.classify c) (c :: rest)

@[simp] theorem headRun_nil (g : Grain) : g.headRun [] = 0 := rfl

/-- Stride out of the run at hand and over the blanks after it. -/
def strideToNext (g : Grain) (ahead : Line) : Nat :=
  let run := g.headRun ahead
  run + runLength isBlank (ahead.drop run)

/-- Stride over blanks and through the run before them, read backwards. -/
def strideToStart (g : Grain) (behind : Line) : Nat :=
  runLength isBlank behind + g.headRun (behind.dropWhile isBlank)

/-- Stride over blanks to the last character of the run after them. -/
def strideToEnd (g : Grain) (ahead : Line) : Nat :=
  runLength isBlank ahead + (g.headRun (ahead.dropWhile isBlank) - 1)

def nextWord (g : Grain) (line : Line) (col : Nat) : Nat :=
  col + g.strideToNext (line.drop col)

def wordStart (g : Grain) (line : Line) (col : Nat) : Nat :=
  min col line.length - g.strideToStart (line.take col).reverse

/-- Last character of the word after the column; just past the line or the column if there is
none. -/
def wordEnd (g : Grain) (line : Line) (col : Nat) : Nat :=
  col + 1 + g.strideToEnd (line.drop (col + 1))

/-- Repeats `wordEnd`. Off the line every step moves on by one. -/
def wordEnds (g : Grain) (line : Line) : Nat → Nat → Nat
  | 0, col => col
  | n + 1, col =>
    if line.length ≤ col then col + (n + 1) else wordEnds g line n (g.wordEnd line col)

theorem wordEnd_of_le {g : Grain} {line : Line} {col : Nat} (h : line.length ≤ col) :
    g.wordEnd line col = col + 1 := by
  simp [wordEnd, List.drop_of_length_le (Nat.le_succ_of_le h), strideToEnd]

theorem wordEnds_succ (g : Grain) (line : Line) (n col : Nat) :
    g.wordEnds line (n + 1) col = g.wordEnds line n (g.wordEnd line col) := by
  by_cases h : line.length ≤ col
  · rw [wordEnd_of_le h]
    cases n with
    | zero => simp [wordEnds, h]
    | succ n => simp [wordEnds, h, Nat.le_succ_of_le h]; omega
  · simp [wordEnds, h]

def runEnd (g : Grain) (line : Line) (col : Nat) : Nat :=
  col + (g.headRun (line.drop col) - 1)

def nextWordFrom (g : Grain) (line : Line) (col : Int) : Except Fault Int := do
  return col + g.strideToNext (← readFrom line col)

def wordStartFrom (g : Grain) (line : Line) (col : Int) : Nat :=
  g.wordStart line col.toNat

def wordEndFrom (g : Grain) (line : Line) (col : Int) : Except Fault Int := do
  return col + 1 + g.strideToEnd (← readFrom line (col + 1))

@[simp] theorem nextWordFrom_natCast (g : Grain) (line : Line) (col : Nat) :
    g.nextWordFrom line col = .ok (g.nextWord line col : Int) := by
  simp [nextWordFrom, nextWord, bind, Except.bind, pure, Except.pure]

@[simp] theorem wordEndFrom_natCast (g : Grain) (line : Line) (col : Nat) :
    g.wordEndFrom line col = .ok (g.wordEnd line col : Int) := by
  have h : readFrom line ((col : Int) + 1) = .ok (line.drop (col + 1)) :=
    readFrom_natCast line (col + 1)
  simp [wordEndFrom, wordEnd, h, bind, Except.bind, pure, Except.pure]

end Grain

end ModalEdit
