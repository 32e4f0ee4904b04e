import ModalEdit.Buffer.Basic

namespace ModalEdit

/-- A column moved onto a character of a line with `n` of them. -/
def clampCol (n : Nat) (col : Int) : Nat :=
  min col.toNat (n - 1)

theorem clampCol_le (n : Nat) (col : Int) : clampCol n col ≤ n - 1 :=
  Nat.min_le_right _ _

/-- A place in a buffer, with the text of its line. -/
structure Spot where
  line : Nat
  text : Line
  col : Nat
  deriving DecidableEq, Repr

def Spot.at (s : Spot) (col : Nat) : Position :=
  ⟨s.line, col⟩

def Spot.position (s : Spot) : Position :=
  s.at s.col

def Spot.ahead (s : Spot) : Line :=
  s.text.drop s.col

/-- The characters before the spot, nearest first. -/
def Spot.behind (s : Spot) : Line :=
  (s.text.take s.col).reverse

namespace Buffer

def clampLine (b : Buffer) (i : Int) : Nat :=
  min i.toNat b.lastLine

theorem clampLine_lt (b : Buffer) (i : Int) : b.clampLine i < b.size := by
  have := b.lastLine_lt_size
  unfold clampLine
  omega

def locate (b : Buffer) (p : Position) : Spot :=
  let i := b.clampLine p.line
  ⟨i, b.line i, min p.col.toNat (b.line i).length⟩

@[simp] theorem line_locate (b : Buffer) (p : Position) :
    (b.locate p).line = b.clampLine p.line := rfl

theorem col_locate_le (b : Buffer) (p : Position) :
    (b.locate p).col ≤ (b.locate p).text.length :=
  Nat.min_le_right _ _

theorem contains_locate (b : Buffer) (p : Position) : b.Contains (b.locate p).position := by
  refine ⟨Int.natCast_nonneg _, ?_, Int.natCast_nonneg _, ?_⟩
  · exact Int.ofNat_lt.2 (b.clampLine_lt p.line)
  · exact Int.ofNat_le.2 (b.col_locate_le p)

def clamp (b : Buffer) (p : Position) : Position :=
  let i := b.clampLine p.line
  ⟨i, clampCol (b.line i).length p.col⟩

theorem contains_clamp (b : Buffer) (p : Position) : b.Contains (b.clamp p) := by
  refine ⟨Int.natCast_nonneg _, ?_, Int.natCast_nonneg _, ?_⟩
  · exact Int.ofNat_lt.2 (b.clampLine_lt p.line)
  · exact Int.ofNat_le.2 (Nat.le_trans (clampCol_le _ _) (Nat.sub_le _ _))

/-- The position stands on a character, or on column zero of an empty line. -/
def IsCell (b : Buffer) (p : Position) : Prop :=
  b.clamp p = p

end Buffer

end ModalEdit
