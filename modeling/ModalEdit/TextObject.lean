import ModalEdit.Bracket
import ModalEdit.Line.Sentence
import ModalEdit.Line.Word

namespace ModalEdit

/-- The inner form of an object leaves out delimiters and neighbouring blanks; the outer form takes
the delimiters, or one run of blanks. -/
inductive TextObject where
  | word (grain : Grain)
  /-- The text between the first two quotes of the line. -/
  | quotation (quote : List Char)
  | bracketed (bracket : Bracket)
  | paragraph
  | sentence
  deriving DecidableEq, Repr

/-- Columns `first` up to `last` of a line. -/
structure Stretch where
  first : Nat
  last : Nat
  deriving DecidableEq, Repr

namespace Stretch

def around (p : Char → Bool) (line : Line) (col : Nat) : Stretch :=
  ⟨col - runLength p (line.take col).reverse, col + runLength p (line.drop col)⟩

/-- The stretch with the run of `p` after it, or else the run of `q` before it. -/
def grow (s : Stretch) (line : Line) (p q : Char → Bool) : Stretch :=
  let after := runLength p (line.drop s.last)
  if 0 < after then ⟨s.first, s.last + after⟩
  else ⟨s.first - runLength q (line.take s.first).reverse, s.last⟩

def withBlanks (s : Stretch) (line : Line) : Stretch :=
  s.grow line isBlank isBlank

def toSpan (s : Stretch) (line : Nat) : Span :=
  ⟨⟨line, s.first⟩, ⟨line, s.last⟩, .charwise⟩

end Stretch

/-- The characters of the class of the first one of a text, none for an empty text. -/
def Grain.sameAsHead (g : Grain) (text : Line) (c : Char) : Bool :=
  text.head?.any fun d => g.classify c == g.classify d

/-- The run of one class around a column. The outer form of a run of blanks takes the word next to
it, that of a word the blanks next to it. -/
def wordStretch (g : Grain) (text : Line) (col : Nat) (outer : Bool) : Option Stretch := do
  let c ← text[col]?
  let inner := Stretch.around (fun d => g.classify d == g.classify c) text col
  if !outer then return inner
  if isBlank c then
    return inner.grow text (g.sameAsHead (text.drop inner.last))
      (g.sameAsHead (text.take inner.first).reverse)
  return inner.withBlanks text

def occurrence? (word : List Char) : List Char → Option Nat
  | [] => if word = [] then some 0 else none
  | c :: rest =>
    if word.isPrefixOf (c :: rest) then some 0 else (occurrence? word rest).map (· + 1)

/-- The text between the first two quotes of a line, for a column on or between them. -/
def quotationStretch (quote : List Char) (line : Line) (col : Nat) (outer : Bool) :
    Option Stretch := do
  let first ← occurrence? quote line
  if line.length < first + 1 then none
  let second := first + 1 + (← occurrence? quote (line.drop (first + 1)))
  if col < first ∨ second < col then none
  return if outer then ⟨first, second + 1⟩ else ⟨first + 1, second⟩

/-- The sentence around a column. Blanks between sentences are an object of their own, whose outer
form takes the sentence after them. -/
def sentenceStretch (text : Line) (col : Nat) (outer : Bool) : Option Stretch := do
  let c ← text[col]?
  if isBlank c then
    let inner := Stretch.around isBlank text col
    if outer && inner.last < text.length then
      return ⟨inner.first, sentenceEnd text inner.last⟩
    return inner
  let start := (sentenceStarts text).reverse.find? (· ≤ col)
  let first := start.getD (firstNonBlank text)
  let inner : Stretch := ⟨first, sentenceEnd text first⟩
  return if outer then inner.withBlanks text else inner

namespace Buffer

/-- The run of blank lines, or of lines that are not blank, around a line. The outer form adds the
run below, or else, for lines that are not blank, the blank lines above. -/
def paragraphAround (b : Buffer) (i : Nat) (outer : Bool) : Nat × Nat :=
  let blank := isBlankLine (b.line i)
  let like := fun line => isBlankLine line == blank
  let unlike := fun line => isBlankLine line != blank
  let top := i - runLength like (b.lines.take i).reverse
  let bottom := i + runLength like (b.lines.drop (i + 1))
  if !outer then (top, bottom)
  else if bottom < b.lastLine then (top, bottom + runLength unlike (b.lines.drop (bottom + 1)))
  else if blank then (top, bottom)
  else (top - runLength unlike (b.lines.take top).reverse, bottom)

end Buffer

namespace TextObject

def find (o : TextObject) (b : Buffer) (pos : Position) (outer : Bool) : Option Span :=
  let s := b.locate pos
  match o with
  | .word g => (wordStretch g s.text s.col outer).map (·.toSpan s.line)
  | .quotation quote => (quotationStretch quote s.text s.col outer).map (·.toSpan s.line)
  | .bracketed kind =>
    (b.enclosing s kind).map fun (first, last) =>
      if outer then ⟨b.positionAt first, b.positionAt (last + 1), .charwise⟩
      else ⟨b.positionAt (first + 1), b.positionAt last, .charwise⟩
  | .paragraph =>
    let (top, bottom) := b.paragraphAround s.line outer
    some ⟨⟨top, 0⟩, ⟨bottom, 0⟩, .linewise⟩
  | .sentence => (sentenceStretch s.text s.col outer).map (·.toSpan s.line)

def ofKey? : Char → Option TextObject
  | 'w' => some (.word .word)
  | 'W' => some (.word .bigWord)
  | '\x22' => some (.quotation ['\x22'])
  | '\x27' => some (.quotation ['\x27'])
  | '\x60' => some (.quotation ['\x60'])
  | '(' | ')' | 'b' => some (.bracketed .round)
  | '[' | ']' => some (.bracketed .square)
  | '\x7b' | '\x7d' | 'B' => some (.bracketed .curly)
  | '<' | '>' => some (.bracketed .angle)
  | 'p' => some .paragraph
  | 's' => some .sentence
  | _ => none

end TextObject

end ModalEdit
