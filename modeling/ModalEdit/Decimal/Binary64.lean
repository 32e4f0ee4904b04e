namespace ModalEdit

/-- The number `digits · 10 ^ exponent`. -/
structure Decimal where
  digits : Nat
  exponent : Int
  deriving DecidableEq, Repr

/-- A floating-point number of 64 bits. -/
inductive Binary64 where
  /-- The number `mantissa · 2 ^ exponent`, or its negative. -/
  | finite (negative : Bool) (mantissa : Nat) (exponent : Int)
  | infinite (negative : Bool)
  | nan
  deriving DecidableEq, Repr

/-- The quotient of two numbers rounded to the nearest whole number, half to even. -/
def roundedQuotient (num den : Nat) : Nat :=
  let q := num / den
  let twice := 2 * (num % den)
  if twice < den then q else if den < twice then q + 1 else q + q % 2

def ratioPow (base : Nat) (e : Int) : Nat × Nat :=
  (base.pow e.toNat, base.pow (-e).toNat)

namespace Decimal

def ratio (d : Decimal) : Nat × Nat :=
  let (up, down) := ratioPow 10 d.exponent
  (d.digits * up, down)

def width (n : Nat) : Nat :=
  (Nat.toDigits 10 n).length

end Decimal

namespace Binary64

def leastExponent : Int := -1074

def greatestExponent : Int := 971

/-- What a mantissa stays below: it has 53 bits. -/
def mantissaBound : Nat := 0x20000000000000

def leadingBit (num den : Nat) : Int :=
  let guess := (num.log2 : Int) - den.log2
  let (up, down) := ratioPow 2 guess
  if num * down < den * up then guess - 1 else guess

/-- The number nearest to a ratio. A tie goes to the even mantissa, and what is too large becomes
infinite. -/
def nearest (negative : Bool) (num den : Nat) : Binary64 :=
  let e := max (leadingBit num den - 52) leastExponent
  let (up, down) := ratioPow 2 e
  let m := roundedQuotient (num * down) (den * up)
  let (m, e) := if m = mantissaBound then (mantissaBound / 2, e + 1) else (m, e)
  if greatestExponent < e then .infinite negative else .finite negative m e

def zero (negative : Bool) : Binary64 :=
  .finite negative 0 leastExponent

/-- The number nearest to a decimal. Decimals far outside the range are decided by their size. -/
def ofDecimal (negative : Bool) (d : Decimal) : Binary64 :=
  let size := (Decimal.width d.digits : Int) + d.exponent
  if d.digits = 0 ∨ size < -330 then zero negative
  else if 310 < size then .infinite negative
  else
    let (num, den) := d.ratio
    nearest negative num den

def magnitude (m : Nat) (e : Int) : Nat × Nat :=
  let (up, down) := ratioPow 2 e
  (m * up, down)

def leadingDigit (num den : Nat) : Int :=
  if den ≤ num then (Decimal.width (num / den) : Int) - 1
  else -Decimal.width ((den + num - 1) / num - 1)

/-- The two decimals with a given last place that enclose a ratio, the nearer one first. -/
def neighbours (num den : Nat) (place : Int) : List Decimal :=
  let (up, down) := ratioPow 10 place
  let below := num * down / (den * up)
  let rest := num * down % (den * up)
  if 2 * rest < den * up ∨ 2 * rest = den * up ∧ below % 2 = 0 then
    [⟨below, place⟩, ⟨below + 1, place⟩]
  else [⟨below + 1, place⟩, ⟨below, place⟩]

def candidates (num den : Nat) : List Decimal :=
  (List.range 17).flatMap fun (k : Nat) => neighbours num den (leadingDigit num den - k)

def exactDecimal (num den : Nat) : Decimal :=
  ⟨num * Nat.pow 5 den.log2, -(den.log2 : Int)⟩

/-- The shortest decimal that reads back as `m · 2 ^ e`. -/
def shortest (m : Nat) (e : Int) : Decimal :=
  let (num, den) := magnitude m e
  ((candidates num den).find? fun d => ofDecimal false d == .finite false m e).getD
    (exactDecimal num den)

end Binary64

end ModalEdit
