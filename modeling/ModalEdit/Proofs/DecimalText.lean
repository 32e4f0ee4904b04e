import ModalEdit.Json.Writer
import ModalEdit.Proofs.Rounding

namespace ModalEdit

namespace DecimalLayout

open Json

variable {digits rest : List Char}

/-- Digits that do not begin with a zero. -/
structure Significant (digits : List Char) : Prop where
  isDigit : ∀ c ∈ digits, isDigit c = true
  ne_nil : digits ≠ []
  head? : digits.head? ≠ some '0'

theorem Significant.isWhole (h : Significant digits) : IsWhole digits :=
  ⟨h.isDigit, h.ne_nil, fun hz => absurd hz h.head?⟩

theorem isDigit_of_mem_replicate {n : Nat} {c : Char} (h : c ∈ List.replicate n '0') :
    Json.isDigit c = true := by
  rw [List.eq_of_mem_replicate h]
  rfl

theorem Significant.append_zeros (h : Significant digits) (n : Nat) :
    Significant (digits ++ List.replicate n '0') where
  isDigit c hc := by
    rcases List.mem_append.1 hc with hc | hc
    · exact h.isDigit c hc
    · exact isDigit_of_mem_replicate hc
  ne_nil := List.append_ne_nil_of_left_ne_nil h.ne_nil _
  head? := by
    rw [List.head?_append_of_ne_nil _ h.ne_nil]
    exact h.head?

theorem Significant.take (h : Significant digits) {n : Nat} (hn : 0 < n) :
    Significant (digits.take n) where
  isDigit c hc := h.isDigit c (List.mem_of_mem_take hc)
  ne_nil := by
    rw [Ne, List.take_eq_nil_iff, not_or]
    exact ⟨hn.ne', h.ne_nil⟩
  head? := by
    rw [List.head?_take, if_neg hn.ne']
    exact h.head?

theorem Significant.pos (h : Significant digits) : 0 < natOfDigits digits := by
  cases digits with
  | nil => exact absurd rfl h.ne_nil
  | cons c digits =>
    obtain ⟨n, hn, rfl⟩ := exists_digitChar (h.isDigit c List.mem_cons_self)
    have hne : n ≠ 0 := by
      intro hz
      subst hz
      exact h.head? rfl
    have hfirst : natOfDigits [n.digitChar] = n := by
      rw [← Nat.toDigits_of_lt_base hn]
      exact natOfDigits_naturalText n
    rw [← List.singleton_append, natOfDigits_append, hfirst]
    exact Nat.add_pos_left (Nat.mul_pos (Nat.pos_of_ne_zero hne) (Nat.pow_pos (by decide))) _

theorem scanNumber_leading (negative : Bool) (hd : Significant digits) (n : Nat)
    (hr : EndsNumber rest) :
    scanNumber negative (['0'] ++ '.' :: (List.replicate n '0' ++ digits ++ rest)) =
      some (.real (.ofDecimal negative ⟨natOfDigits digits, -n - digits.length⟩), rest) := by
  have hzero : IsWhole ['0'] := isWhole_naturalText 0
  have hf : ∀ c ∈ List.replicate n '0' ++ digits, Json.isDigit c = true := by
    intro c hc
    rcases List.mem_append.1 hc with hc | hc
    · exact isDigit_of_mem_replicate hc
    · exact hd.isDigit c hc
  have hval : natOfDigits (['0'] ++ (List.replicate n '0' ++ digits)) = natOfDigits digits := by
    rw [natOfDigits_append, natOfDigits_append, natOfDigits_replicate_zero]
    simp [natOfDigits]
  have hexp : -((List.replicate n '0' ++ digits).length : Int) = -n - digits.length := by
    rw [List.length_append, List.length_replicate]
    omega
  rw [scanNumber_fraction negative hzero hf (List.append_ne_nil_of_right_ne_nil _ hd.ne_nil) hr,
    hval, hexp]

theorem scanNumber_round (negative : Bool) (hd : Significant digits) (n : Nat)
    (hr : EndsNumber rest) :
    scanNumber negative (digits ++ List.replicate n '0' ++ '.' :: ('0' :: rest)) =
      some (.real (.ofDecimal negative ⟨natOfDigits digits, n⟩), rest) := by
  have hzero : IsWhole ['0'] := isWhole_naturalText 0
  have hval : natOfDigits (digits ++ List.replicate n '0' ++ ['0']) =
      natOfDigits digits * 10 ^ (n + 1) := by
    rw [List.append_assoc, ← List.replicate_succ', natOfDigits_append, natOfDigits_replicate_zero,
      List.length_replicate, Nat.add_zero]
  have hexp : -(['0'].length : Int) = (n : Int) - (n + 1 : Nat) := by
    rw [List.length_singleton]
    omega
  have hscan := scanNumber_fraction negative (hd.append_zeros n).isWhole hzero.isDigit
    hzero.ne_nil hr
  rw [hval, hexp, Binary64.ofDecimal_mul_ten_pow hd.pos] at hscan
  exact hscan

theorem scanNumber_split (negative : Bool) (hd : Significant digits) {n : Nat} (hn : 0 < n)
    (hlt : n < digits.length) (hr : EndsNumber rest) :
    scanNumber negative (digits.take n ++ '.' :: (digits.drop n ++ rest)) =
      some (.real (.ofDecimal negative ⟨natOfDigits digits, n - digits.length⟩), rest) := by
  have hf : ∀ c ∈ digits.drop n, Json.isDigit c = true :=
    fun c hc => hd.isDigit c (List.mem_of_mem_drop hc)
  have hne : digits.drop n ≠ [] := by
    rw [Ne, List.drop_eq_nil_iff]
    omega
  have hexp : -((digits.drop n).length : Int) = n - digits.length := by
    rw [List.length_drop]
    omega
  rw [scanNumber_fraction negative (hd.take hn).isWhole hf hne hr, List.take_append_drop, hexp]

theorem scanNumber_positional (negative : Bool) (hd : Significant digits) (point : Int)
    (hr : EndsNumber rest) :
    scanNumber negative (positional digits point ++ rest) =
      some (.real (.ofDecimal negative ⟨natOfDigits digits, point - digits.length⟩), rest) := by
  unfold positional
  split
  · have hscan := scanNumber_leading negative hd (-point).toNat hr
    have hexp : -((-point).toNat : Int) = point := by omega
    rw [hexp] at hscan
    simpa using hscan
  · split
    · have hscan := scanNumber_round negative hd (point.toNat - digits.length) hr
      have hexp : ((point.toNat - digits.length : Nat) : Int) = point - digits.length := by omega
      rw [hexp] at hscan
      simpa using hscan
    · have hscan := scanNumber_split negative hd (n := point.toNat) (by omega) (by omega) hr
      have hexp : (point.toNat : Int) = point := by omega
      rw [hexp] at hscan
      simpa using hscan

theorem scanNumber_scientific (layout : DecimalLayout) (negative : Bool) (hd : Significant digits)
    (exponent : Int) (hr : EndsNumber rest) :
    scanNumber negative (layout.scientific digits exponent ++ rest) =
      some (.real (.ofDecimal negative ⟨natOfDigits digits, exponent + 1 - digits.length⟩),
        rest) := by
  have hf : ∀ c ∈ digits.drop 1, Json.isDigit c = true :=
    fun c hc => hd.isDigit c (List.mem_of_mem_drop hc)
  have hlen : 0 < digits.length := List.length_pos_iff.2 hd.ne_nil
  have hexp : exponent - ((digits.drop 1).length : Int) = exponent + 1 - digits.length := by
    rw [List.length_drop]
    omega
  have hpower : ∀ c ∈ List.replicate (layout.exponentWidth - (naturalText exponent.natAbs).length)
      '0' ++ naturalText exponent.natAbs, Json.isDigit c = true := by
    intro c hc
    rcases List.mem_append.1 hc with hc | hc
    · exact isDigit_of_mem_replicate hc
    · exact isDigit_of_mem_naturalText hc
  have hval : natOfDigits (List.replicate (layout.exponentWidth -
      (naturalText exponent.natAbs).length) '0' ++ naturalText exponent.natAbs) =
        exponent.natAbs := by
    rw [natOfDigits_append, natOfDigits_replicate_zero, natOfDigits_naturalText, Nat.zero_mul,
      Nat.zero_add]
  have hscan := scanNumber_exponent negative (hd.take Nat.one_pos).isWhole hf hpower
    (List.append_ne_nil_of_right_ne_nil _ Nat.toDigits_ne_nil) hval hr
  rw [List.take_append_drop, hexp] at hscan
  simpa [scientific, pointed] using hscan

theorem exists_trailing_zeros (digits : List Char) :
    ∃ z, digits = withoutTrailingZeros digits ++ List.replicate z '0' := by
  refine ⟨(digits.reverse.takeWhile (· == '0')).length, ?_⟩
  have hzeros : digits.reverse.takeWhile (· == '0') =
      List.replicate (digits.reverse.takeWhile (· == '0')).length '0' := by
    apply List.eq_replicate_of_mem
    intro c hc
    exact eq_of_beq (List.all_eq_true.1 List.all_takeWhile c hc)
  have hsplit := congrArg List.reverse (List.takeWhile_append_dropWhile (p := (· == '0'))
    (l := digits.reverse))
  rw [List.reverse_append, List.reverse_reverse, hzeros, List.reverse_replicate] at hsplit
  exact hsplit.symm

theorem significant_withoutTrailingZeros {n : Nat} (hn : 0 < n) :
    Significant (withoutTrailingZeros (naturalText n)) := by
  obtain ⟨z, hz⟩ := exists_trailing_zeros (naturalText n)
  have hne : withoutTrailingZeros (naturalText n) ≠ [] := by
    intro hnil
    rw [hnil, List.nil_append] at hz
    have hval := congrArg natOfDigits hz
    rw [natOfDigits_naturalText, natOfDigits_replicate_zero] at hval
    exact hn.ne' hval
  refine ⟨fun c hc => ?_, hne, ?_⟩
  · apply isDigit_of_mem_naturalText (n := n)
    rw [hz]
    exact List.mem_append_left _ hc
  · have hhead := head?_naturalText hn
    rwa [hz, List.head?_append_of_ne_nil _ hne] at hhead

theorem scanNumber_write (layout : DecimalLayout) (negative : Bool) (d : Decimal)
    (hr : EndsNumber rest) :
    scanNumber negative (layout.write d ++ rest) = some (.real (.ofDecimal negative d), rest) := by
  unfold write
  split
  · rename_i hd
    have hzero : IsWhole ['0'] := isWhole_naturalText 0
    have hdigits : natOfDigits (['0'] ++ ['0']) = 0 := rfl
    have hscan := scanNumber_fraction negative hzero hzero.isDigit hzero.ne_nil hr
    rw [hdigits, Binary64.ofDecimal_of_digits_eq_zero rfl] at hscan
    rw [Binary64.ofDecimal_of_digits_eq_zero hd]
    exact hscan
  · rename_i hd
    have hs := significant_withoutTrailingZeros (Nat.pos_of_ne_zero hd)
    obtain ⟨z, hz⟩ := exists_trailing_zeros (naturalText d.digits)
    have hlen := congrArg List.length hz
    rw [List.length_append, List.length_replicate] at hlen
    have hval := congrArg natOfDigits hz
    rw [natOfDigits_naturalText, natOfDigits_append, natOfDigits_replicate_zero, Nat.add_zero,
      List.length_replicate] at hval
    have hreal : Binary64.ofDecimal negative d = Binary64.ofDecimal negative
        ⟨natOfDigits (withoutTrailingZeros (naturalText d.digits)),
          (naturalText d.digits).length + d.exponent -
            (withoutTrailingZeros (naturalText d.digits)).length⟩ := by
      have hexp : ((naturalText d.digits).length : Int) + d.exponent -
          (withoutTrailingZeros (naturalText d.digits)).length = d.exponent + z := by omega
      rw [hexp, ← Binary64.ofDecimal_mul_ten_pow hs.pos z, ← hval, Int.add_sub_cancel]
    rw [hreal]
    simp only
    split
    · exact scanNumber_positional negative hs _ hr
    · have hscan := scanNumber_scientific layout negative hs
        ((naturalText d.digits).length + d.exponent - 1) hr
      rwa [Int.sub_add_cancel] at hscan

end DecimalLayout

namespace Json

open Binary64

theorem scanToken_writeReal {x : Binary64} {rest : List Char} (hx : x.Canonical)
    (hr : EndsNumber rest) : scanToken (writeReal x ++ rest) = some (.scalar (.real x), rest) := by
  cases x with
  | nan =>
    change scanToken ("NaN".toList ++ rest) = _
    exact scanToken_word (by simp [words]) rest
  | infinite negative =>
    cases negative with
    | false =>
      change scanToken ("Infinity".toList ++ rest) = _
      exact scanToken_word (by simp [words]) rest
    | true =>
      change scanToken ("-Infinity".toList ++ rest) = _
      exact scanToken_word (by simp [words]) rest
  | finite negative m e =>
    have hreal : ofDecimal negative (if m = 0 then ⟨0, 0⟩ else shortest m e) =
        .finite negative m e := by
      split
      · rename_i hm
        subst hm
        have he : e = leastExponent := hx.2.2.2.resolve_right (by decide)
        rw [ofDecimal_of_digits_eq_zero rfl, he]
        rfl
      · rename_i hm
        exact ofDecimal_shortest (Nat.pos_of_ne_zero hm) hx negative
    have htext : writeReal (.finite negative m e) ++ rest =
        signed negative (numberLayout.write (if m = 0 then ⟨0, 0⟩ else shortest m e) ++ rest) := by
      cases negative <;> rfl
    have hscan := numberLayout.scanNumber_write negative
      (if m = 0 then ⟨0, 0⟩ else shortest m e) hr
    rw [hreal] at hscan
    rw [htext]
    exact scanToken_signed hscan

end Json

end ModalEdit
