import ModalEdit.Decimal.Binary64

namespace ModalEdit

/-- Where positional writing ends, as places of the decimal point counted from the first digit, and
the least number of digits of an exponent. -/
structure DecimalLayout where
  lowestPoint : Int
  highestPoint : Int
  exponentWidth : Nat

def naturalText (n : Nat) : List Char :=
  Nat.toDigits 10 n

def integerText (n : Int) : List Char :=
  if n < 0 then '-' :: naturalText n.natAbs else naturalText n.natAbs

def withoutTrailingZeros (digits : List Char) : List Char :=
  (digits.reverse.dropWhile (· == '0')).reverse

namespace DecimalLayout

/-- Digits with a decimal point at a place among or around them; a whole number gets one zero. -/
def positional (digits : List Char) (point : Int) : List Char :=
  if point ≤ 0 then '0' :: '.' :: (List.replicate (-point).toNat '0' ++ digits)
  else if (digits.length : Int) ≤ point then
    digits ++ List.replicate (point.toNat - digits.length) '0' ++ ['.', '0']
  else digits.take point.toNat ++ '.' :: digits.drop point.toNat

def scientific (layout : DecimalLayout) (digits : List Char) (exponent : Int) : List Char :=
  let power := naturalText exponent.natAbs
  let fraction := digits.drop 1
  digits.take 1 ++ (if fraction.isEmpty then [] else '.' :: fraction) ++
    'e' :: (if exponent < 0 then '-' else '+') ::
      (List.replicate (layout.exponentWidth - power.length) '0' ++ power)

def write (layout : DecimalLayout) (d : Decimal) : List Char :=
  if d.digits = 0 then ['0', '.', '0']
  else
    let all := naturalText d.digits
    let point := (all.length : Int) + d.exponent
    let digits := withoutTrailingZeros all
    if layout.lowestPoint ≤ point ∧ point ≤ layout.highestPoint then positional digits point
    else layout.scientific digits (point - 1)

end DecimalLayout

end ModalEdit
