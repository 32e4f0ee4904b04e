import ModalEdit.Buffer.Cell

namespace ModalEdit

/-- Start offsets of lines, when the first of them starts at `offset`. -/
def startsFrom (offset : Nat) : List Line → List Nat
  | [] => []
  | line :: rest => offset :: startsFrom (offset + line.length + 1) rest

@[simp] theorem length_startsFrom (offset : Nat) (lines : List Line) :
    (startsFrom offset lines).length = lines.length := by
  induction lines generalizing offset with
  | nil => rfl
  | cons line rest ih => simp [startsFrom, ih]

/-- The last of the lines from `lo` to `hi` that starts no later than an offset, `lo` if none does.
The lines in question are halved until one is left; the middle is rounded up, so that either half
is shorter. -/
@[semireducible] def lineIn (starts : List Nat) (offset : Int) (lo hi : Nat) : Nat :=
  if lo < hi then
    let mid := (lo + hi + 1) / 2
    if (starts.getD mid 0 : Int) ≤ offset then lineIn starts offset mid hi
    else lineIn starts offset lo (mid - 1)
  else lo
termination_by hi - lo

/-- The search ends at the line up to which all start no later than the offset. -/
theorem lineIn_eq {starts : List Nat} {offset : Int} {lo hi i : Nat} (hlo : lo ≤ i) (hhi : i ≤ hi)
    (h : ∀ j ≤ hi, (starts.getD j 0 : Int) ≤ offset ↔ j ≤ i) :
    lineIn starts offset lo hi = i := by
  fun_induction lineIn starts offset lo hi with
  | case1 lo hi hlt mid hmid ih =>
    have hmi : mid ≤ i := (h mid (by omega)).1 hmid
    exact ih hmi hhi h
  | case2 lo hi hlt mid hmid ih =>
    have him : i < mid := Nat.lt_of_not_le fun hmi => hmid ((h mid (by omega)).2 hmi)
    exact ih hlo (Nat.le_sub_one_of_lt him) fun j hj => h j (by omega)
  | case3 lo hi hge => omega

/-- The position of an offset among lines that start at `starts`, in ascending order: the last line
that starts no later, the first line when none does. -/
def positionIn (starts : List Nat) (offset : Int) : Position :=
  let line := lineIn starts offset 0 (starts.length - 1)
  ⟨line, offset - starts.getD line 0⟩

/-- The offset of a position; a negative line counts from the last one. -/
def offsetIn (starts : List Nat) (p : Position) : Except Fault Int :=
  match pick? starts p.line with
  | some start => .ok (start + p.col)
  | none => .error .beyond

namespace Buffer

def starts (b : Buffer) : List Nat :=
  startsFrom 0 b.lines

@[simp] theorem length_starts (b : Buffer) : b.starts.length = b.size :=
  length_startsFrom 0 b.lines

def offset (b : Buffer) (line col : Nat) : Nat :=
  b.starts.getD line 0 + col

def positionAt (b : Buffer) (offset : Nat) : Position :=
  positionIn b.starts offset

end Buffer

end ModalEdit
