import ModalEdit.Json.Value
import ModalEdit.Text.Printable

namespace ModalEdit

namespace Json

inductive Token where
  | openSquare
  | closeSquare
  | openCurly
  | closeCurly
  | comma
  | colon
  | scalar (v : Json)
  deriving Repr

def isDigit (c : Char) : Bool :=
  '0' ≤ c && c ≤ '9'

def isSpace (c : Char) : Bool :=
  c == ' ' || c == '\t' || c == '\n' || c == '\r'

def natOfDigits (digits : List Char) : Nat :=
  digits.foldl (fun n c => 10 * n + (c.toNat - '0'.toNat)) 0

def escaped? : Char → Option UInt16
  | '\x22' => some 0x22
  | '\\' => some 0x5C
  | '/' => some 0x2F
  | 'b' => some 0x08
  | 'f' => some 0x0C
  | 'n' => some 0x0A
  | 'r' => some 0x0D
  | 't' => some 0x09
  | _ => none

def unitOfHex? (a b c d : Char) : Option UInt16 := do
  let a ← hexValue? a
  let b ← hexValue? b
  let c ← hexValue? c
  let d ← hexValue? d
  return (a * 0x1000 + b * 0x100 + c * 0x10 + d).toUInt16

def scanString : List Char → Option (Units × List Char)
  | [] => none
  | '\x22' :: rest => some ([], rest)
  | '\\' :: 'u' :: a :: b :: c :: d :: rest => do
    let u ← unitOfHex? a b c d
    let (units, rest) ← scanString rest
    return (u :: units, rest)
  | '\\' :: c :: rest => do
    let u ← escaped? c
    let (units, rest) ← scanString rest
    return (u :: units, rest)
  | c :: rest =>
    if c.toNat < 0x20 ∨ c = '\\' then none
    else do
      let (units, rest) ← scanString rest
      return (Units.ofChar c ++ units, rest)

theorem scanString_length {text rest : List Char} {units : Units}
    (h : scanString text = some (units, rest)) : rest.length < text.length := by
  fun_induction scanString text generalizing units rest with
  | case1 => simp at h
  | case2 => simp_all
  | case3 a b c d tail ih =>
    simp only [Option.bind_eq_bind, Option.bind_eq_some_iff, Option.pure_def] at h
    obtain ⟨_, _, ⟨us, r⟩, hr, he⟩ := h
    simp only [Option.some.injEq, Prod.mk.injEq] at he
    have := ih hr
    simp only [List.length_cons]
    rw [← he.2]
    omega
  | case4 c tail _ ih =>
    simp only [Option.bind_eq_bind, Option.bind_eq_some_iff, Option.pure_def] at h
    obtain ⟨_, _, ⟨us, r⟩, hr, he⟩ := h
    simp only [Option.some.injEq, Prod.mk.injEq] at he
    have := ih hr
    simp only [List.length_cons]
    rw [← he.2]
    omega
  | case5 => simp at h
  | case6 c tail _ _ _ _ ih =>
    simp only [Option.bind_eq_bind, Option.bind_eq_some_iff, Option.pure_def] at h
    obtain ⟨⟨us, r⟩, hr, he⟩ := h
    simp only [Option.some.injEq, Prod.mk.injEq] at he
    have := ih hr
    simp only [List.length_cons]
    rw [← he.2]
    omega

/-- The whole part of a number: a zero alone, or digits that do not begin with one. -/
def wholePart (text : List Char) : List Char :=
  match text.takeWhile isDigit with
  | '0' :: _ => ['0']
  | digits => digits

/-- The fraction after a whole part: a point and at least one digit. -/
def fractionPart : List Char → List Char
  | '.' :: rest => rest.takeWhile isDigit
  | _ => []

/-- The exponent after a number, with the number of characters it takes. -/
def exponentPart : List Char → Option (Int × Nat)
  | e :: rest =>
    if e = 'e' ∨ e = 'E' then
      let (negative, signWidth) :=
        match rest with
        | '-' :: _ => (true, 1)
        | '+' :: _ => (false, 1)
        | _ => (false, 0)
      let digits := (rest.drop signWidth).takeWhile isDigit
      if digits.isEmpty then none
      else
        let n : Int := natOfDigits digits
        some (if negative then -n else n, 1 + signWidth + digits.length)
    else none
  | [] => none

/-- The value of a number from its parts; only a number without fraction and exponent is an
integer. -/
def numberOf (negative : Bool) (whole fraction : List Char) (exponent : Option Int) : Json :=
  match fraction, exponent with
  | [], none => .int (if negative then -natOfDigits whole else natOfDigits whole)
  | _, _ =>
    .real (.ofDecimal negative ⟨natOfDigits (whole ++ fraction), exponent.getD 0 - fraction.length⟩)

def scanNumber (negative : Bool) (text : List Char) : Option (Json × List Char) :=
  let whole := wholePart text
  let fraction := fractionPart (text.drop whole.length)
  let width := whole.length + if fraction.isEmpty then 0 else fraction.length + 1
  let exponent := exponentPart (text.drop width)
  if whole.isEmpty then none
  else some (numberOf negative whole fraction (exponent.map (·.1)),
    text.drop (width + exponent.elim 0 (·.2)))

theorem length_wholePart (text : List Char) : (wholePart text).length ≤ text.length := by
  have htake : (text.takeWhile isDigit).length ≤ text.length :=
    (List.takeWhile_sublist _).length_le
  unfold wholePart
  split
  · rename_i hd
    rw [hd] at htake
    exact Nat.le_trans (by simp) htake
  · exact htake

theorem scanNumber_length {negative : Bool} {text rest : List Char} {v : Json}
    (h : scanNumber negative text = some (v, rest)) : rest.length < text.length := by
  have hw := length_wholePart text
  simp only [scanNumber] at h
  split at h
  · simp at h
  · rename_i hne
    have hp : 0 < (wholePart text).length := by
      simpa [List.length_pos_iff] using hne
    simp only [Option.some.injEq, Prod.mk.injEq] at h
    rw [← h.2, List.length_drop]
    omega

def afterWord (word text : List Char) : Option (List Char) :=
  if text.take word.length = word then some (text.drop word.length) else none

/-- The words of a JSON text; three of them are numbers. -/
def words : List (List Char × Json) :=
  [("null".toList, .null), ("true".toList, .bool true), ("false".toList, .bool false),
    ("NaN".toList, .real .nan), ("Infinity".toList, .real (.infinite false)),
    ("-Infinity".toList, .real (.infinite true))]

def scanWord (text : List Char) : Option (Json × List Char) :=
  words.findSome? fun (word, v) => (afterWord word text).map (v, ·)

theorem scanWord_length {text rest : List Char} {v : Json}
    (h : scanWord text = some (v, rest)) : rest.length < text.length := by
  obtain ⟨⟨word, w⟩, hm, hw⟩ := List.exists_of_findSome?_eq_some h
  obtain ⟨r, hr, he⟩ := Option.map_eq_some_iff.1 hw
  simp only [Prod.mk.injEq] at he
  simp only [afterWord] at hr
  split at hr
  · rename_i ht
    have hlen := congrArg List.length ht
    have hpos : 0 < word.length := by
      simp only [words, List.mem_cons, Prod.mk.injEq, List.not_mem_nil, or_false] at hm
      rcases hm with h | h | h | h | h | h <;> rw [h.1] <;> decide
    simp only [Option.some.injEq] at hr
    rw [← he.2, ← hr, List.length_drop]
    rw [List.length_take] at hlen
    omega
  · simp at hr

def scanScalar (text : List Char) : Option (Json × List Char) :=
  match text with
  | '\x22' :: rest => (scanString rest).map fun (units, rest) => (.str units, rest)
  | _ =>
    (scanWord text).or <|
      match text with
      | '-' :: rest => scanNumber true rest
      | _ => scanNumber false text

theorem scanScalar_length {text rest : List Char} {v : Json}
    (h : scanScalar text = some (v, rest)) : rest.length < text.length := by
  unfold scanScalar at h
  split at h
  · obtain ⟨⟨units, r⟩, hr, he⟩ := Option.map_eq_some_iff.1 h
    cases he
    exact Nat.lt_succ_of_lt (scanString_length hr)
  · rcases Option.or_eq_some_iff.1 h with hw | ⟨_, hn⟩
    · exact scanWord_length hw
    · split at hn
      · exact Nat.lt_succ_of_lt (scanNumber_length hn)
      · exact scanNumber_length hn

def scanToken : List Char → Option (Token × List Char)
  | [] => none
  | c :: rest =>
    match c with
    | '[' => some (.openSquare, rest)
    | ']' => some (.closeSquare, rest)
    | '\x7b' => some (.openCurly, rest)
    | '\x7d' => some (.closeCurly, rest)
    | ',' => some (.comma, rest)
    | ':' => some (.colon, rest)
    | _ => (scanScalar (c :: rest)).map fun (v, rest) => (.scalar v, rest)

theorem scanToken_length {text rest : List Char} {t : Token}
    (h : scanToken text = some (t, rest)) : rest.length < text.length := by
  unfold scanToken at h
  split at h
  · simp at h
  · split at h <;> try (cases h; simp)
    obtain ⟨⟨v, r⟩, hr, he⟩ := Option.map_eq_some_iff.1 h
    cases he
    exact scanScalar_length hr

end Json

end ModalEdit
