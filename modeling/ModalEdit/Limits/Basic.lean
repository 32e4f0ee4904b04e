import ModalEdit.Decimal.Layout
import ModalEdit.Fault

namespace ModalEdit

/-- Bounds beyond which numbers are not read, containers not opened and copies not made. -/
structure Limits where
  /-- How many digits an integer may have. -/
  digits : Option Nat := none
  /-- How many containers may be open at once. -/
  nesting : Option Nat := none
  /-- The largest number that still counts something. -/
  count : Option Nat := none
  /-- How many characters or lines may be made at once. -/
  memory : Option Nat := none
  deriving DecidableEq, Repr

def exceeds (bound : Option Nat) (n : Nat) : Bool :=
  bound.any (· < n)

@[simp] theorem exceeds_none (n : Nat) : exceeds none n = false := rfl

@[simp] theorem exceeds_some (bound n : Nat) : exceeds (some bound) n = true ↔ bound < n := by
  simp [exceeds]

theorem exceeds_mono {bound : Option Nat} {n m : Nat} (h : exceeds bound n = true) (hle : n ≤ m) :
    exceeds bound m = true := by
  cases bound with
  | none => exact h
  | some most => exact (exceeds_some most m).2 (Nat.lt_of_lt_of_le ((exceeds_some most n).1 h) hle)

namespace Limits

/-- The limits that a running editor has. -/
def standard : Limits :=
  ⟨some 4300, some 988, some (Nat.pow 2 63 - 1), some (Nat.pow 2 36)⟩

/-- What keeps a number of a given size from being read. The sign is no digit. -/
def number (limits : Limits) (n : Nat) : Option Fault := do
  let most ← limits.digits
  let width := (naturalText n).length
  if most < width then some (.longInteger most width) else none

@[simp] theorem number_unlimited (n : Nat) : ({} : Limits).number n = none := rfl

end Limits

end ModalEdit
