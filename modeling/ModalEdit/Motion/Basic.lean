import ModalEdit.Bracket
import ModalEdit.Buffer.Basic
import ModalEdit.Line.Search
import ModalEdit.Line.Sentence
import ModalEdit.Line.Word

namespace ModalEdit

/-- Where a motion leads, and the span an operator takes. -/
structure Landing where
  position : Position
  span : Option Span
  deriving DecidableEq, Repr

/-- A motion starts at a position, which is moved into the buffer. -/
inductive Motion where
  | left
  | right
  | up
  | down
  | nextWord (grain : Grain)
  | wordStart (grain : Grain)
  | wordEnd (grain : Grain)
  /-- What changing a word covers: the rest of the run under the cursor, and further word ends. -/
  | changeWord (grain : Grain)
  | lineStart
  | firstNonBlank
  | lineEnd
  /-- The last line, or the line whose number is the count. -/
  | lastLine
  /-- The first line, or the line whose number is the count. -/
  | firstLine
  /-- No motion at all; an operator takes as many lines as the count says. -/
  | currentLine
  | partner
  | paragraphBelow
  | paragraphAbove
  | sentenceAhead
  | sentenceBehind
  | search (kind : SearchKind) (target : List Char)
  /-- A line by its number, at a column or at its first character that is not blank. -/
  | line (number : Int) (col : Option Int)
  | place (target : Position)
  deriving DecidableEq, Repr

/-- How often a motion is repeated: once without a positive count. -/
def times : Option Int → Nat
  | none => 1
  | some n => if 0 < n then n.toNat else 1

@[simp] theorem times_none : times none = 1 := rfl

theorem times_pos (count : Option Int) : 0 < times count := by
  cases count with
  | none => exact Nat.one_pos
  | some n => simp only [times]; split <;> omega

/-- The count, if there is one other than zero. -/
def counted (count : Option Int) : Option Int :=
  count.filter (· ≠ 0)

namespace Spot

def cover (s : Spot) (first last : Nat) : Span :=
  ⟨s.at first, s.at last, .charwise⟩

def toLineEnd (s : Spot) : Span :=
  s.cover s.col s.text.length

/-- A landing on the spot's line, covering what lies between two columns. -/
def land (s : Spot) (goal first last : Nat) : Landing :=
  ⟨s.at goal, some (s.cover first last)⟩

end Spot

namespace Buffer

/-- The first start of a sentence after a position, on its line or at the start of the next one. -/
def nextSentence (b : Buffer) (at' : Nat × Nat) : Nat × Nat :=
  let (i, col) := at'
  match (sentenceStarts (b.line i)).find? (col < ·) with
  | some start => (i, start)
  | none =>
    if i < b.lastLine then (i + 1, (sentenceStarts (b.line (i + 1))).headD 0)
    else (i, (b.line i).length)

/-- The last start of a sentence before a position, on its line or on the line above. -/
def previousSentence (b : Buffer) (at' : Nat × Nat) : Nat × Nat :=
  let (i, col) := at'
  match (sentenceStarts (b.line i)).reverse.find? (· < col) with
  | some start => (i, start)
  | none =>
    if 0 < i then (i - 1, (sentenceStarts (b.line (i - 1))).getLastD 0) else (0, 0)

def linesFrom (b : Buffer) (s : Spot) (count : Option Int) : Span :=
  let last := min (s.line + (counted count).getD 1 - 1) b.lastLine
  ⟨s.position, ⟨last, 0⟩, .linewise⟩

def landOnLine (b : Buffer) (s : Spot) (number : Int) (col : Option Int) : Landing :=
  let target := b.clampLine number
  let text := b.line target
  let land : Int := col.elim (firstNonBlank text : Int) fun c => min c text.length
  let goal : Position := ⟨target, land⟩
  ⟨goal, some <|
    if s.line ≤ target then ⟨s.position, ⟨target, 0⟩, .linewise⟩
    else ⟨goal, ⟨s.line, 0⟩, .linewise⟩⟩

end Buffer

namespace Motion

/-- Follows a motion from a position of a buffer; there is no landing when the motion has nowhere
to go. -/
def run (m : Motion) (b : Buffer) (pos : Position) (count : Option Int) : Option Landing :=
  let s := b.locate pos
  let size := s.text.length
  match m with
  | .left => some (s.land (s.col - times count) (s.col - times count) s.col)
  | .right =>
    let goal := min (s.col + times count) size
    some (s.land goal s.col goal)
  | .down =>
    let goal := min (s.line + times count) b.lastLine
    if goal = s.line then none
    else some ⟨⟨goal, min pos.col (b.line goal).length⟩,
      some ⟨⟨s.line, pos.col⟩, ⟨goal, 0⟩, .linewise⟩⟩
  | .up =>
    let goal := s.line - times count
    if goal = s.line then none
    else
      let target : Position := ⟨goal, min pos.col (b.line goal).length⟩
      some ⟨target, some ⟨target, ⟨s.line, 0⟩, .linewise⟩⟩
  | .nextWord g =>
    let goal := settle (g.nextWord s.text) (times count) s.col
    some (s.land goal s.col goal)
  | .wordStart g =>
    let goal := settle (g.wordStart s.text) (times count) s.col
    some (s.land goal goal s.col)
  | .wordEnd g =>
    let goal := g.wordEnds s.text (times count) s.col
    some (s.land goal s.col (min (goal + 1) size))
  | .changeWord g =>
    if size ≤ s.col then some (s.land s.col s.col s.col)
    else
      let goal := g.wordEnds s.text (times count - 1) (g.runEnd s.text s.col)
      some (s.land goal s.col (min (goal + 1) size))
  | .lineStart => some (s.land 0 0 s.col)
  | .firstNonBlank =>
    let goal := ModalEdit.firstNonBlank s.text
    some (s.land goal (min s.col goal) (max s.col goal))
  | .lineEnd => some ⟨s.at size, some s.toLineEnd⟩
  | .lastLine => some (b.landOnLine s ((counted count).elim b.lastLine (· - 1)) (some 0))
  | .firstLine => some (b.landOnLine s ((counted count).elim 0 (· - 1)) (some 0))
  | .currentLine => some ⟨s.position, some (b.linesFrom s count)⟩
  | .partner => do
    let goal ← b.partner s
    return ⟨goal, some <|
      if goal < s.position then ⟨goal, s.at (s.col + 1), .charwise⟩
      else ⟨s.position, ⟨goal.line, goal.col + 1⟩, .charwise⟩⟩
  | .paragraphBelow =>
    let goal := b.boundaryBelow s.line (times count)
    let stop := if goal = b.lastLine then (b.line goal).length else 0
    some ⟨⟨goal, 0⟩, some ⟨s.position, ⟨goal, stop⟩, .charwise⟩⟩
  | .paragraphAbove =>
    let goal := b.boundaryAbove s.line (times count)
    some ⟨⟨goal, 0⟩, some ⟨⟨goal, 0⟩, s.position, .charwise⟩⟩
  | .sentenceAhead =>
    let (i, col) := settle b.nextSentence (times count) (s.line, s.col)
    some ⟨⟨i, col⟩, some ⟨s.position, ⟨i, col⟩, .charwise⟩⟩
  | .sentenceBehind =>
    let (i, col) := settle b.previousSentence (times count) (s.line, s.col)
    some ⟨⟨i, col⟩, some ⟨⟨i, col⟩, s.position, .charwise⟩⟩
  | .search kind target => do
    let goal ← kind.landing? s.text s.col target (times count)
    let cover := kind.cover? s.col goal
    return ⟨s.at goal, cover.map fun (first, last) =>
      ⟨⟨s.line, first⟩, ⟨s.line, last⟩, .charwise⟩⟩
  | .line number col => some (b.landOnLine s number col)
  | .place target =>
    let goal := (b.locate target).position
    some ⟨goal, some ⟨s.position.earlier goal, s.position.later goal, .charwise⟩⟩

def ofKey? : Char → Option Motion
  | 'h' => some .left
  | 'j' => some .down
  | 'k' => some .up
  | 'l' => some .right
  | 'w' => some (.nextWord .word)
  | 'W' => some (.nextWord .bigWord)
  | 'b' => some (.wordStart .word)
  | 'B' => some (.wordStart .bigWord)
  | 'e' => some (.wordEnd .word)
  | 'E' => some (.wordEnd .bigWord)
  | '0' => some .lineStart
  | '^' => some .firstNonBlank
  | '$' => some .lineEnd
  | 'G' => some .lastLine
  | '%' => some .partner
  | '\x7b' => some .paragraphAbove
  | '\x7d' => some .paragraphBelow
  | '(' => some .sentenceBehind
  | ')' => some .sentenceAhead
  | _ => none

/-- The motion of a name; the searches look for the target that comes with it. -/
def named? (name target : List Char) : Option Motion :=
  if name = ['g', 'g'] then some .firstLine
  else if name = ['_'] then some .currentLine
  else
    match name with
    | [c] =>
      match SearchKind.ofKey? c with
      | some kind => some (.search kind target)
      | none => ofKey? c
    | _ => none

end Motion

/-- Whether a position has no character under it, or a blank. -/
def Buffer.startsOnBlank (b : Buffer) (pos : Position) : Bool :=
  ((b.locate pos).ahead.head?.map isBlank).getD true

end ModalEdit
