import ModalEdit.Text.CharTables
import ModalEdit.Text.CaseTables

namespace ModalEdit

/-- A cased character that the search for a neighbour of a sigma does not pass over. -/
def isCased (c : Char) : Bool :=
  inRanges casedRanges c.toNat

/-- A character, such as a combining mark, that does not end the word around a sigma. -/
def isCaseIgnorable (c : Char) : Bool :=
  inRanges caseIgnorableRanges c.toNat

/-- Whether the first character of `text` that counts is cased. -/
def meetsCased (text : List Char) : Bool :=
  ((text.dropWhile isCaseIgnorable).head?.map isCased).getD false

/-- The code point that exchanges case with `n` by itself, if there is one. -/
def caseImage? (n : Nat) : Option Nat :=
  (caseRuns.find? fun (first, last, step, _) =>
    first ≤ n && n ≤ last && (n - first) % step == 0).map fun (first, _, _, image) =>
      image + (n - first)

/-- The other case of one character, whatever stands around it. -/
def toggleChar (c : Char) : List Char :=
  match caseExpansions.lookup c.toNat with
  | some codes => codes.map Char.ofNat
  | none =>
    match caseImage? c.toNat with
    | some image => [Char.ofNat image]
    | none => [c]

/-- Exchanges case from left to right; `before` holds what precedes, nearest character first. -/
def toggleCaseAfter (before : List Char) : List Char → List Char
  | [] => []
  | c :: rest =>
    let other :=
      if c = 'Σ' then if meetsCased before && !meetsCased rest then ['ς'] else ['σ']
      else toggleChar c
    other ++ toggleCaseAfter (c :: before) rest

/-- Exchanges the case of a text. A character may become several (`ß` becomes `SS`). -/
def toggledCase (text : List Char) : List Char :=
  toggleCaseAfter [] text

end ModalEdit
