import ModalEdit.Text.Lines
import ModalEdit.Text.Bounds

namespace ModalEdit

/-- Column of the `n`-th target after a column. -/
def findAhead (line : Line) (col : Nat) (target : List Char) (n : Nat) : Option Nat :=
  (nthIdx? (fun c => [c] == target) n (line.drop (col + 1))).map (col + 1 + ·)

def findBehind (line : Line) (col : Nat) (target : List Char) (n : Nat) : Option Nat :=
  (nthIdx? (fun c => [c] == target) n (line.take col).reverse).map fun i =>
    min col line.length - 1 - i

theorem findAhead_gt {line : Line} {col n i : Nat} {target : List Char}
    (h : findAhead line col target n = some i) : col < i ∧ i < line.length := by
  obtain ⟨j, hj, rfl⟩ := Option.map_eq_some_iff.1 h
  have := nthIdx?_lt hj
  simp only [List.length_drop] at this
  omega

theorem findBehind_lt {line : Line} {col n i : Nat} {target : List Char}
    (h : findBehind line col target n = some i) : i < col ∧ i < line.length := by
  obtain ⟨j, hj, rfl⟩ := Option.map_eq_some_iff.1 h
  have := nthIdx?_lt hj
  simp only [List.length_reverse, List.length_take] at this
  omega

/-- `findAhead` from any column. Column `-1` is no place on a line. -/
def findAheadFrom (line : Line) (col : Int) (target : List Char) (n : Int) :
    Except Fault (Option Int) := do
  let ahead ← readFrom line (col + 1)
  let found := (nthIdx? (fun c => [c] == target) n.toNat ahead).map fun i => col + 1 + i
  return found.filter (· ≠ -1)

def findBehindFrom (line : Line) (col : Int) (target : List Char) (n : Int) : Option Nat :=
  findBehind line col.toNat target n.toNat

@[simp] theorem findAheadFrom_natCast (line : Line) (col : Nat) (target : List Char) (n : Nat) :
    findAheadFrom line col target n = .ok ((findAhead line col target n).map (Nat.cast ·)) := by
  have hread : readFrom line ((col : Int) + 1) = .ok (line.drop (col + 1)) :=
    readFrom_natCast line (col + 1)
  simp only [findAheadFrom, hread, bind, Except.bind, pure, Except.pure, Int.toNat_natCast,
    findAhead]
  cases nthIdx? (fun c => [c] == target) n (line.drop (col + 1)) with
  | none => rfl
  | some i =>
    have hne : (col : Int) + 1 + i ≠ -1 := by omega
    simp [hne]

/-- A search lands on the character that it finds, or one cell short of it. -/
inductive SearchKind where
  | find
  | findBack
  | till
  | tillBack
  deriving DecidableEq, Repr

namespace SearchKind

def key : SearchKind → Char
  | .find => 'f'
  | .findBack => 'F'
  | .till => 't'
  | .tillBack => 'T'

def ofKey? : Char → Option SearchKind
  | 'f' => some .find
  | 'F' => some .findBack
  | 't' => some .till
  | 'T' => some .tillBack
  | _ => none

@[simp] theorem ofKey?_key (k : SearchKind) : ofKey? k.key = some k := by
  cases k <;> rfl

def reverse : SearchKind → SearchKind
  | .find => .findBack
  | .findBack => .find
  | .till => .tillBack
  | .tillBack => .till

@[simp] theorem reverse_reverse (k : SearchKind) : k.reverse.reverse = k := by
  cases k <;> rfl

/-- Where the search for the `n`-th target lands. A target next to the cursor is not skipped. -/
def landing? (k : SearchKind) (line : Line) (col : Nat) (target : List Char) (n : Nat) :
    Option Nat :=
  match k with
  | .find => findAhead line col target n
  | .findBack => findBehind line col target n
  | .till => (findAhead line col target n).map (· - 1)
  | .tillBack => (findBehind line col target n).map (· + 1)

def landingFrom? (k : SearchKind) (line : Line) (col : Int) (target : List Char) (n : Int) :
    Except Fault (Option Int) :=
  match k with
  | .find => findAheadFrom line col target n
  | .findBack => .ok ((findBehindFrom line col target n).map (Nat.cast ·))
  | .till => return ((← findAheadFrom line col target n).map (· - 1)).filter (· ≠ -1)
  | .tillBack => .ok ((findBehindFrom line col target n).map fun i => (i : Int) + 1)

@[simp] theorem landingFrom?_natCast (k : SearchKind) (line : Line) (col : Nat)
    (target : List Char) (n : Nat) :
    k.landingFrom? line col target n = .ok ((k.landing? line col target n).map (Nat.cast ·)) := by
  cases k with
  | find => exact findAheadFrom_natCast line col target n
  | findBack => rfl
  | till =>
    simp only [landingFrom?, landing?, findAheadFrom_natCast, bind, Except.bind, pure, Except.pure]
    cases h : findAhead line col target n with
    | none => rfl
    | some i =>
      have hlt := (findAhead_gt h).1
      have hcast : (i : Int) - 1 = (i - 1 : Nat) := by omega
      have hkeep : decide (((i - 1 : Nat) : Int) ≠ -1) = true := by
        rw [decide_eq_true_eq]
        omega
      simp only [Option.map_some, hcast, Option.filter_some, hkeep, if_true]
  | tillBack =>
    simp only [landingFrom?, landing?, findBehindFrom, Int.toNat_natCast]
    cases findBehind line col target n <;> rfl

/-- What an operator covers when a search from `col` lands on `goal`: `f` and `t` take the landing
cell, `F` takes the cursor cell, and an empty cover is none. -/
def cover? (k : SearchKind) (col goal : Int) : Option (Int × Int) :=
  let (first, last) :=
    match k with
    | .find | .till => (col, goal + 1)
    | .findBack => (goal, col + 1)
    | .tillBack => (goal, col)
  if first < last then some (first, last) else none

end SearchKind

end ModalEdit
