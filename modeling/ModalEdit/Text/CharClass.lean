import ModalEdit.Text.CharTables

namespace ModalEdit

def isWordChar (c : Char) : Bool :=
  isAlphanumeric c || c == '_'

inductive CharClass where
  | blank
  | word
  | punctuation
  deriving DecidableEq, Repr

/-- Blanks come first: no character is asked whether it is a word character before that. -/
def CharClass.of (c : Char) : CharClass :=
  if isBlank c then .blank else if isWordChar c then .word else .punctuation

@[simp] theorem CharClass.of_eq_blank {c : Char} : CharClass.of c = .blank ↔ isBlank c = true := by
  unfold CharClass.of
  split
  · simp [*]
  · split <;> simp [*]

/-- A word is a run of word characters or a run of punctuation; a big word is any run of characters
that are not blank. -/
inductive Grain where
  | word
  | bigWord
  deriving DecidableEq, Repr

/-- The class of a character at a grain; big words know only blanks and the rest. -/
def Grain.classify (g : Grain) (c : Char) : CharClass :=
  match g with
  | .word => .of c
  | .bigWord => if isBlank c then .blank else .word

@[simp] theorem Grain.classify_eq_blank {g : Grain} {c : Char} :
    g.classify c = .blank ↔ isBlank c = true := by
  cases g with
  | word => exact CharClass.of_eq_blank
  | bigWord => simp only [classify]; split <;> simp [*]

/-- A text satisfies a property of characters when it has one and all of them do. -/
def wholly (p : Char → Bool) (text : List Char) : Bool :=
  !text.isEmpty && text.all p

@[simp] theorem wholly_singleton (p : Char → Bool) (c : Char) : wholly p [c] = p c := by
  simp [wholly]

def isBlankText (text : List Char) : Bool :=
  wholly isBlank text

/-- Whether a text consists of letters and numbers, or is the underscore alone. -/
def isWordText (text : List Char) : Bool :=
  wholly isAlphanumeric text || text == ['_']

def CharClass.ofText (text : List Char) : CharClass :=
  if isBlankText text then .blank else if isWordText text then .word else .punctuation

end ModalEdit
