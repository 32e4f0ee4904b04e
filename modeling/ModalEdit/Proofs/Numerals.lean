import Mathlib.Algebra.Ring.Nat
import Mathlib.Data.List.Induction
import Mathlib.Data.List.TakeWhile
import ModalEdit.Decimal.Layout
import ModalEdit.Json.Token

namespace ModalEdit

theorem head?_naturalText {n : Nat} (h : 0 < n) : (naturalText n).head? ≠ some '0' := by
  induction n using Nat.strongRecOn with
  | ind n ih =>
    unfold naturalText at ih ⊢
    by_cases hn : n < 10
    · rw [Nat.toDigits_of_lt_base hn]
      simpa using Nat.ne_of_gt h
    · rw [Nat.toDigits_of_base_le (by decide) (Nat.le_of_not_lt hn), List.head?_append]
      intro hz
      rcases Option.or_eq_some_iff.1 hz with hz | ⟨hnil, _⟩
      · exact ih (n / 10) (by omega) (by omega) hz
      · exact Nat.toDigits_ne_nil (List.head?_eq_none_iff.1 hnil)

theorem naturalText_mul_ten_pow {n : Nat} (h : 0 < n) (k : Nat) :
    naturalText (n * 10 ^ k) = naturalText n ++ List.replicate k '0' := by
  induction k with
  | zero => simp
  | succ k ih =>
    have hpos : 0 < n * 10 ^ k := Nat.mul_pos h (Nat.pow_pos (by decide))
    have hlast := Nat.toDigits_append_toDigits (b := 10) (d := 0) (by decide) hpos (by decide)
    calc naturalText (n * 10 ^ (k + 1)) = Nat.toDigits 10 (10 * (n * 10 ^ k) + 0) := by
          rw [naturalText, Nat.pow_succ, ← Nat.mul_assoc, Nat.mul_comm _ 10, Nat.add_zero]
      _ = naturalText (n * 10 ^ k) ++ ['0'] := hlast.symm
      _ = naturalText n ++ List.replicate (k + 1) '0' := by
          rw [ih, List.append_assoc, List.replicate_succ']

namespace Json

theorem natOfDigits_append (digits more : List Char) :
    natOfDigits (digits ++ more) = natOfDigits digits * 10 ^ more.length + natOfDigits more := by
  calc natOfDigits (digits ++ more) = Nat.ofDigitChars 10 more (natOfDigits digits) :=
        Nat.ofDigitChars_append 0
    _ = natOfDigits digits * 10 ^ more.length + natOfDigits more := by
        rw [Nat.ofDigitChars_eq_ofDigitChars_zero, Nat.mul_comm]
        rfl

@[simp] theorem natOfDigits_replicate_zero (n : Nat) :
    natOfDigits (List.replicate n '0') = 0 := by
  have hzeros : natOfDigits (List.replicate n '0') = 10 ^ n * 0 := Nat.ofDigitChars_replicate_zero
  rwa [Nat.mul_zero] at hzeros

@[simp] theorem natOfDigits_naturalText (n : Nat) : natOfDigits (naturalText n) = n :=
  Nat.ofDigitChars_ten_toDigits

theorem isDigit_of_mem_naturalText {n : Nat} {c : Char} (h : c ∈ naturalText n) :
    isDigit c = true := by
  have hc := Nat.isDigit_of_mem_toDigits (by decide) (by decide) h
  simp only [isDigit, Char.isDigit, Char.le_def] at hc ⊢
  exact hc

variable {whole fraction digits rest : List Char}

/-- No number that ends before the text goes on in it. -/
def EndsNumber (text : List Char) : Prop :=
  ∀ c ∈ text.head?, isDigit c = false ∧ c ≠ '.' ∧ c ≠ 'e' ∧ c ≠ 'E'

/-- What may stand before the point of a number. -/
structure IsWhole (whole : List Char) : Prop where
  isDigit : ∀ c ∈ whole, isDigit c = true
  ne_nil : whole ≠ []
  zero : whole.head? = some '0' → whole = ['0']

theorem takeWhile_digits (hd : ∀ c ∈ digits, isDigit c = true)
    (hr : ∀ c ∈ rest.head?, isDigit c = false) : (digits ++ rest).takeWhile isDigit = digits := by
  rw [List.takeWhile_append_of_pos hd]
  cases rest with
  | nil => simp
  | cons c rest =>
    rw [List.takeWhile_cons_of_neg, List.append_nil]
    simp [hr c rfl]

theorem wholePart_append (hw : IsWhole whole) (hr : ∀ c ∈ rest.head?, isDigit c = false) :
    wholePart (whole ++ rest) = whole := by
  rw [wholePart, takeWhile_digits hw.isDigit hr]
  split
  · exact (hw.zero rfl).symm
  · rfl

theorem fractionPart_point (hd : ∀ c ∈ fraction, isDigit c = true)
    (hr : ∀ c ∈ rest.head?, isDigit c = false) :
    fractionPart ('.' :: (fraction ++ rest)) = fraction :=
  takeWhile_digits hd hr

theorem fractionPart_of_head? (hr : ∀ c ∈ rest.head?, c ≠ '.') : fractionPart rest = [] := by
  unfold fractionPart
  split
  · exact absurd rfl (hr '.' rfl)
  · rfl

theorem exponentPart_of_head? (hr : ∀ c ∈ rest.head?, c ≠ 'e' ∧ c ≠ 'E') :
    exponentPart rest = none := by
  unfold exponentPart
  split
  · rename_i c tail
    rw [if_neg (not_or.2 (hr c rfl))]
  · rfl

theorem exponentPart_signed {x : Int} (hd : ∀ c ∈ digits, isDigit c = true) (hne : digits ≠ [])
    (hx : natOfDigits digits = x.natAbs) (hr : ∀ c ∈ rest.head?, isDigit c = false) :
    exponentPart ('e' :: (if x < 0 then '-' else '+') :: (digits ++ rest)) =
      some (x, 2 + digits.length) := by
  by_cases hneg : x < 0
  · have hval : -(x.natAbs : Int) = x := by omega
    simp only [exponentPart, if_pos hneg, true_or, if_true, List.drop_succ_cons, List.drop_zero,
      takeWhile_digits hd hr, List.isEmpty_iff, if_neg hne, hx, hval]
  · have hval : (x.natAbs : Int) = x := by omega
    simp only [exponentPart, if_neg hneg, true_or, if_true, List.drop_succ_cons, List.drop_zero,
      takeWhile_digits hd hr, List.isEmpty_iff, if_neg hne, hx, hval, Bool.false_eq_true, if_false]

/-- A fraction behind its point; without digits there is no point. -/
def pointed (fraction : List Char) : List Char :=
  if fraction.isEmpty then [] else '.' :: fraction

theorem scanNumber_append (negative : Bool) (hw : IsWhole whole)
    (hf : ∀ c ∈ fraction, isDigit c = true)
    (hr : ∀ c ∈ rest.head?, isDigit c = false ∧ c ≠ '.') :
    scanNumber negative (whole ++ (pointed fraction ++ rest)) =
      some (numberOf negative whole fraction ((exponentPart rest).map (·.1)),
        rest.drop ((exponentPart rest).elim 0 (·.2))) := by
  have hdigit : ∀ c ∈ rest.head?, isDigit c = false := fun c hc => (hr c hc).1
  have hwhole : wholePart (whole ++ (pointed fraction ++ rest)) = whole := by
    apply wholePart_append hw
    cases fraction with
    | nil => exact hdigit
    | cons d fraction =>
      intro c hc
      cases hc
      rfl
  have hfraction : fractionPart (pointed fraction ++ rest) = fraction := by
    cases fraction with
    | nil => exact fractionPart_of_head? fun c hc => (hr c hc).2
    | cons d fraction => exact fractionPart_point hf hdigit
  have hwidth : (pointed fraction).length =
      if fraction.isEmpty then 0 else fraction.length + 1 := by
    cases fraction with
    | nil => rfl
    | cons d fraction => rfl
  have hdrop : (whole ++ (pointed fraction ++ rest)).drop
      (whole.length + if fraction.isEmpty then 0 else fraction.length + 1) = rest := by
    rw [← hwidth, ← List.append_assoc, ← List.length_append, List.drop_left]
  have hne : ¬ whole.isEmpty = true := by
    rw [List.isEmpty_iff]
    exact hw.ne_nil
  simp only [scanNumber, hwhole, List.drop_left, hfraction, hdrop, if_neg hne, ← List.drop_drop]

theorem scanNumber_whole (negative : Bool) (hw : IsWhole whole) (hr : EndsNumber rest) :
    scanNumber negative (whole ++ rest) =
      some (.int (if negative then -natOfDigits whole else natOfDigits whole), rest) := by
  have hnone : ∀ c ∈ ([] : List Char), isDigit c = true := nofun
  have hscan := scanNumber_append negative hw hnone fun c hc => ⟨(hr c hc).1, (hr c hc).2.1⟩
  rw [exponentPart_of_head? fun c hc => (hr c hc).2.2] at hscan
  exact hscan

/-- A number with a fraction or an exponent is read as the binary number nearest to it. -/
theorem numberOf_eq_real (negative : Bool) (whole : List Char) {exponent : Option Int}
    (h : fraction ≠ [] ∨ exponent ≠ none) :
    numberOf negative whole fraction exponent =
      .real (.ofDecimal negative
        ⟨natOfDigits (whole ++ fraction), exponent.getD 0 - fraction.length⟩) := by
  unfold numberOf
  split
  · simp at h
  · rfl

theorem scanNumber_fraction (negative : Bool) (hw : IsWhole whole)
    (hf : ∀ c ∈ fraction, isDigit c = true) (hne : fraction ≠ []) (hr : EndsNumber rest) :
    scanNumber negative (whole ++ '.' :: (fraction ++ rest)) =
      some (.real (.ofDecimal negative ⟨natOfDigits (whole ++ fraction), -fraction.length⟩),
        rest) := by
  have hscan := scanNumber_append negative hw hf fun c hc => ⟨(hr c hc).1, (hr c hc).2.1⟩
  rw [exponentPart_of_head? fun c hc => (hr c hc).2.2, numberOf_eq_real negative whole (.inl hne),
    pointed, if_neg (mt List.isEmpty_iff.1 hne)] at hscan
  simpa using hscan

theorem scanNumber_exponent (negative : Bool) {x : Int} (hw : IsWhole whole)
    (hf : ∀ c ∈ fraction, isDigit c = true) (hd : ∀ c ∈ digits, isDigit c = true)
    (hne : digits ≠ []) (hx : natOfDigits digits = x.natAbs) (hr : EndsNumber rest) :
    scanNumber negative
        (whole ++ (pointed fraction ++ 'e' :: (if x < 0 then '-' else '+') :: (digits ++ rest))) =
      some (.real (.ofDecimal negative ⟨natOfDigits (whole ++ fraction), x - fraction.length⟩),
        rest) := by
  have hmark : ∀ c ∈ ('e' :: (if x < 0 then '-' else '+') :: (digits ++ rest)).head?,
      isDigit c = false ∧ c ≠ '.' := by
    intro c hc
    cases hc
    exact ⟨rfl, by decide⟩
  rw [scanNumber_append negative hw hf hmark,
    exponentPart_signed hd hne hx fun c hc => (hr c hc).1, Option.map_some,
    numberOf_eq_real negative whole (.inr (Option.some_ne_none x))]
  simp [Nat.add_comm 2]

theorem exists_digitChar {c : Char} (h : isDigit c = true) : ∃ n < 10, c = Nat.digitChar n := by
  have hc : 48 ≤ c.toNat ∧ c.toNat ≤ 57 := by
    simpa [isDigit, Char.le_def, UInt32.le_iff_toNat_le] using h
  refine ⟨c.toNat - 48, by omega, Char.toNat_inj.1 ?_⟩
  rw [Nat.toNat_digitChar_of_lt_ten (by omega)]
  omega

theorem natOfDigits_lt (hd : ∀ c ∈ digits, isDigit c = true) :
    natOfDigits digits < 10 ^ digits.length := by
  induction digits using List.reverseRecOn with
  | nil => decide
  | append_singleton digits c ih =>
    have hinit := ih fun d hd' => hd d (List.mem_append_left _ hd')
    obtain ⟨n, hn, rfl⟩ := exists_digitChar (hd c (by simp))
    have hlast : natOfDigits [n.digitChar] = n := by
      simp [natOfDigits, Nat.toNat_digitChar_sub_48_of_lt_ten hn]
    rw [natOfDigits_append, hlast, List.length_append, List.length_singleton, Nat.pow_succ]
    omega

theorem length_naturalText_natOfDigits (hd : ∀ c ∈ digits, isDigit c = true) (hne : digits ≠ []) :
    (naturalText (natOfDigits digits)).length ≤ digits.length :=
  (Nat.length_toDigits_le_iff (by decide) (List.length_pos_iff.2 hne)).2 (natOfDigits_lt hd)

theorem isDigit_of_mem_wholePart {c : Char} (h : c ∈ wholePart text) : isDigit c = true := by
  unfold wholePart at h
  split at h
  · rw [List.mem_singleton.1 h]
    rfl
  · exact List.mem_takeWhile_imp h

/-- A minus before the text of a negative number. -/
def signed (negative : Bool) (text : List Char) : List Char :=
  if negative then '-' :: text else text

theorem isDigit_of_scanNumber {negative : Bool} {c : Char} {text : List Char} {v : Json}
    (h : scanNumber negative (c :: text) = some (v, rest)) : isDigit c = true := by
  cases hc : isDigit c with
  | true => rfl
  | false =>
    have hnone : wholePart (c :: text) = [] := by
      rw [wholePart, List.takeWhile_cons_of_neg (by simp [hc])]
    simp [scanNumber, hnone] at h

theorem scanToken_signed {negative : Bool} {text : List Char} {v : Json}
    (h : scanNumber negative text = some (v, rest)) :
    scanToken (signed negative text) = some (.scalar v, rest) := by
  cases text with
  | nil => cases h
  | cons c text =>
    obtain ⟨n, hn, rfl⟩ := exists_digitChar (isDigit_of_scanNumber h)
    have hf : n ≠ 15 := by omega
    cases negative with
    | false =>
      have hword : scanWord (n.digitChar :: text) = none := by
        simp [scanWord, words, afterWord, hf]
      simp [signed, scanToken, scanScalar, hword, h]
    | true =>
      have hword : scanWord ('-' :: n.digitChar :: text) = none := by
        simp [scanWord, words, afterWord]
      simp [signed, scanToken, scanScalar, hword, h]

theorem scanToken_word {word : List Char} {v : Json} (h : (word, v) ∈ words) (rest : List Char) :
    scanToken (word ++ rest) = some (.scalar v, rest) := by
  simp only [words, List.mem_cons, Prod.mk.injEq, List.not_mem_nil, or_false] at h
  obtain ⟨rfl, rfl⟩ | ⟨rfl, rfl⟩ | ⟨rfl, rfl⟩ | ⟨rfl, rfl⟩ | ⟨rfl, rfl⟩ | ⟨rfl, rfl⟩ := h <;> rfl

theorem isWhole_naturalText (n : Nat) : IsWhole (naturalText n) where
  isDigit _ hc := isDigit_of_mem_naturalText hc
  ne_nil := Nat.toDigits_ne_nil
  zero hz := by
    rcases n.eq_zero_or_pos with hn | hn
    · rw [hn]
      rfl
    · exact absurd hz (head?_naturalText hn)

theorem scanToken_integerText (n : Int) (hr : EndsNumber rest) :
    scanToken (integerText n ++ rest) = some (.scalar (.int n), rest) := by
  have hsigned : integerText n ++ rest = signed (n < 0) (naturalText n.natAbs ++ rest) := by
    by_cases hn : n < 0 <;> simp [integerText, signed, hn]
  have hval : (if decide (n < 0) = true then -(n.natAbs : Int) else n.natAbs) = n := by
    by_cases hn : n < 0
    · simp only [hn, decide_true, if_true]
      omega
    · simp only [hn, decide_false, Bool.false_eq_true, if_false]
      omega
  have hscan := scanNumber_whole (decide (n < 0)) (isWhole_naturalText n.natAbs) hr
  rw [natOfDigits_naturalText, hval] at hscan
  rw [hsigned]
  exact scanToken_signed hscan

end Json

end ModalEdit
