namespace ModalEdit

/-- Text as units of sixteen bits. A character outside the basic plane takes two units; a unit of
such a pair may also stand alone, which no character can express. -/
abbrev Units := List UInt16

namespace Units

def ofChar (c : Char) : Units :=
  let n := c.toNat
  if n < 0x10000 then [n.toUInt16]
  else [(0xD800 + (n - 0x10000) / 0x400).toUInt16, (0xDC00 + (n - 0x10000) % 0x400).toUInt16]

def ofText (text : List Char) : Units :=
  text.flatMap ofChar

def ofString (s : String) : Units :=
  ofText s.toList

def isHigh (u : UInt16) : Bool :=
  0xD800 ≤ u.toNat && u.toNat < 0xDC00

def isLow (u : UInt16) : Bool :=
  0xDC00 ≤ u.toNat && u.toNat < 0xE000

/-- The text of units, if they pair up. -/
def toText? : Units → Option (List Char)
  | [] => some []
  | [u] => if isHigh u || isLow u then none else some [Char.ofNat u.toNat]
  | u :: v :: rest =>
    if isHigh u then
      if isLow v then
        (toText? rest).map
          (Char.ofNat (0x10000 + (u.toNat - 0xD800) * 0x400 + (v.toNat - 0xDC00)) :: ·)
      else none
    else if isLow u then none
    else (toText? (v :: rest)).map (Char.ofNat u.toNat :: ·)

end Units

end ModalEdit
