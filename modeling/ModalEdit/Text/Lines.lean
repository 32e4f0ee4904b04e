import ModalEdit.Fault
import ModalEdit.Text.CharTables

namespace ModalEdit

abbrev Line := List Char

/-- The parts of a text between the occurrences of a separator; there is always at least one. -/
def splitAt (separator : Char) : List Char → List (List Char)
  | [] => [[]]
  | c :: rest =>
    if c = separator then [] :: splitAt separator rest
    else
      match splitAt separator rest with
      | [] => [[c]]
      | part :: parts => (c :: part) :: parts

def splitLines (text : List Char) : List Line :=
  splitAt '\n' text

def joinLines : List Line → List Char
  | [] => []
  | [line] => line
  | line :: rest => line ++ '\n' :: joinLines rest

@[simp] theorem splitLines_nil : splitLines [] = [[]] := rfl

theorem splitLines_cons (c : Char) (rest : List Char) :
    splitLines (c :: rest) =
      if c = '\n' then [] :: splitLines rest
      else
        match splitLines rest with
        | [] => [[c]]
        | line :: lines => (c :: line) :: lines := rfl

@[simp] theorem splitLines_newline (rest : List Char) :
    splitLines ('\n' :: rest) = [] :: splitLines rest := by
  simp [splitLines_cons]

theorem splitLines_ne_nil (text : List Char) : splitLines text ≠ [] := by
  cases text with
  | nil => simp
  | cons c rest =>
    simp only [splitLines_cons]
    split
    · simp
    · split <;> simp

@[simp] theorem joinLines_nil : joinLines [] = [] := rfl

@[simp] theorem joinLines_singleton (line : Line) : joinLines [line] = line := rfl

theorem joinLines_cons_of_ne_nil (line : Line) {rest : List Line} (h : rest ≠ []) :
    joinLines (line :: rest) = line ++ '\n' :: joinLines rest := by
  cases rest with
  | nil => contradiction
  | cons next rest => rfl

theorem joinLines_cons_cons (c : Char) (line : Line) (rest : List Line) :
    joinLines ((c :: line) :: rest) = c :: joinLines (line :: rest) := by
  cases rest <;> rfl

@[simp] theorem joinLines_splitLines (text : List Char) : joinLines (splitLines text) = text := by
  induction text with
  | nil => rfl
  | cons c rest ih =>
    simp only [splitLines_cons]
    split
    · rename_i hc
      rw [joinLines_cons_of_ne_nil _ (splitLines_ne_nil rest), ih, hc]
      rfl
    · split
      · rename_i h
        exact absurd h (splitLines_ne_nil rest)
      · rename_i line lines h
        rw [joinLines_cons_cons, ← h, ih]

/-- A line that could come from splitting. -/
def NewlineFree (line : Line) : Prop :=
  '\n' ∉ line

theorem newlineFree_nil : NewlineFree [] :=
  List.not_mem_nil

theorem newlineFree_cons {c : Char} {line : Line} :
    NewlineFree (c :: line) ↔ c ≠ '\n' ∧ NewlineFree line := by
  rw [NewlineFree, List.mem_cons, not_or]
  exact and_congr ne_comm Iff.rfl

theorem newlineFree_singleton {c : Char} (h : c ≠ '\n') : NewlineFree [c] :=
  newlineFree_cons.2 ⟨h, newlineFree_nil⟩

theorem newlineFree_of_mem_splitLines {line : Line} {text : List Char}
    (h : line ∈ splitLines text) : NewlineFree line := by
  induction text generalizing line with
  | nil =>
    simp only [splitLines_nil, List.mem_singleton] at h
    subst h
    exact newlineFree_nil
  | cons c rest ih =>
    simp only [splitLines_cons] at h
    split at h
    · cases h with
      | head => exact newlineFree_nil
      | tail _ h => exact ih h
    · rename_i hc
      split at h
      · simp only [List.mem_singleton] at h
        subst h
        exact newlineFree_singleton hc
      · rename_i first lines hs
        cases h with
        | head =>
          have hf : NewlineFree first := ih (by rw [hs]; exact List.mem_cons_self)
          exact newlineFree_cons.2 ⟨hc, hf⟩
        | tail _ h => exact ih (by rw [hs]; exact List.mem_cons_of_mem _ h)

theorem splitLines_of_newlineFree {line : Line} (h : NewlineFree line) :
    splitLines line = [line] := by
  induction line with
  | nil => rfl
  | cons c line ih =>
    obtain ⟨hc, hl⟩ := newlineFree_cons.1 h
    simp [splitLines_cons, hc, ih hl]

theorem splitLines_append_newline {line : Line} (h : NewlineFree line) (rest : List Char) :
    splitLines (line ++ '\n' :: rest) = line :: splitLines rest := by
  induction line with
  | nil => simp
  | cons c line ih =>
    obtain ⟨hc, hl⟩ := newlineFree_cons.1 h
    simp [splitLines_cons, hc, ih hl]

theorem splitLines_joinLines {lines : List Line} (hne : lines ≠ [])
    (h : ∀ line ∈ lines, NewlineFree line) : splitLines (joinLines lines) = lines := by
  induction lines with
  | nil => contradiction
  | cons line rest ih =>
    have hl := h line List.mem_cons_self
    cases rest with
    | nil => exact splitLines_of_newlineFree hl
    | cons next rest =>
      rw [joinLines_cons_of_ne_nil _ (by simp), splitLines_append_newline hl,
        ih (by simp) fun l hm => h l (List.mem_cons_of_mem _ hm)]

/-- Column of the first character that is not blank, or the length of a blank line. -/
def firstNonBlank (line : Line) : Nat :=
  (line.takeWhile isBlank).length

def isBlankLine (line : Line) : Bool :=
  line.all isBlank

def trimStart (line : Line) : Line :=
  line.dropWhile isBlank

def trim (text : List Char) : List Char :=
  (trimStart (trimStart text).reverse).reverse

theorem firstNonBlank_le (line : Line) : firstNonBlank line ≤ line.length :=
  (List.takeWhile_sublist _).length_le

/-- The line from a column on. A negative column stands that many characters before the end, and the
scan runs off the end into the line itself. -/
def readFrom (line : Line) (col : Int) : Except Fault Line :=
  if 0 ≤ col then .ok (line.drop col.toNat)
  else if (line.length : Int) + col < 0 then .error .offLine
  else .ok (line.drop (line.length + col).toNat ++ line)

@[simp] theorem readFrom_natCast (line : Line) (col : Nat) :
    readFrom line col = .ok (line.drop col) := by
  simp [readFrom]

def readBefore (line : Line) (col : Int) : Line :=
  (line.take col.toNat).reverse

@[simp] theorem readBefore_natCast (line : Line) (col : Nat) :
    readBefore line col = (line.take col).reverse := rfl

def runLength (p : α → Bool) (xs : List α) : Nat :=
  (xs.takeWhile p).length

@[simp] theorem runLength_nil (p : α → Bool) : runLength p [] = 0 := rfl

theorem runLength_le (p : α → Bool) (xs : List α) : runLength p xs ≤ xs.length :=
  (List.takeWhile_sublist p).length_le

end ModalEdit
