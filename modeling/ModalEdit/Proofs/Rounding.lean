import Mathlib.Algebra.Order.Field.Power
import Mathlib.Algebra.Order.Field.Rat
import Mathlib.Tactic.FieldSimp
import Mathlib.Tactic.NormNum
import Mathlib.Tactic.Ring
import ModalEdit.Decimal.Binary64
import ModalEdit.Proofs.Numerals

namespace ModalEdit

variable {num den num' den' m k : Nat} {e e' : Int} {negative : Bool} {q : ℚ}

theorem ratioPow_fst_pos {base : Nat} (h : 0 < base) (e : Int) : 0 < (ratioPow base e).1 :=
  Nat.pow_pos h

theorem ratioPow_snd_pos {base : Nat} (h : 0 < base) (e : Int) : 0 < (ratioPow base e).2 :=
  Nat.pow_pos h

theorem ratioPow_div {base : Nat} (h : 0 < base) (e : Int) :
    ((ratioPow base e).1 : ℚ) / (ratioPow base e).2 = (base : ℚ) ^ e := by
  have hbase : (base : ℚ) ≠ 0 := Nat.cast_ne_zero.2 h.ne'
  obtain ⟨n, hn | hn⟩ := e.eq_nat_or_neg
  · subst hn
    simp [ratioPow]
  · subst hn
    simp [ratioPow]

theorem roundedQuotient_mul_right (num den : Nat) (hk : 0 < k) :
    roundedQuotient (num * k) (den * k) = roundedQuotient num den := by
  simp only [roundedQuotient, Nat.mul_div_mul_right _ _ hk, Nat.mul_mod_mul_right,
    ← Nat.mul_assoc, Nat.mul_lt_mul_right hk]

theorem roundedQuotient_congr (hd : 0 < den) (hd' : 0 < den') (h : num * den' = num' * den) :
    roundedQuotient num den = roundedQuotient num' den' :=
  calc roundedQuotient num den = roundedQuotient (num * den') (den * den') :=
        (roundedQuotient_mul_right num den hd').symm
    _ = roundedQuotient (num' * den) (den' * den) := by rw [h, Nat.mul_comm den]
    _ = roundedQuotient num' den' := roundedQuotient_mul_right num' den' hd

theorem roundedQuotient_mul_self (m : Nat) (hd : 0 < den) :
    roundedQuotient (m * den) den = m := by
  simp [roundedQuotient, hd]

theorem roundedQuotient_le (h : num < m * den) : roundedQuotient num den ≤ m := by
  have hq : num / den < m := Nat.div_lt_of_lt_mul (Nat.mul_comm m den ▸ h)
  have hr := Nat.mod_lt (num / den) Nat.two_pos
  simp only [roundedQuotient]
  split
  · exact hq.le
  · split
    · exact hq
    · omega

theorem le_roundedQuotient (hd : 0 < den) (h : m * den ≤ num) : m ≤ roundedQuotient num den := by
  have hq : m ≤ num / den := (Nat.le_div_iff_mul_le hd).2 h
  simp only [roundedQuotient]
  split
  · exact hq
  · split
    · exact Nat.le_succ_of_le hq
    · exact Nat.le_add_right_of_le hq

namespace Binary64

theorem mul_ratioPow_div (num den : Nat) (e : Int) :
    ((num * (ratioPow 2 e).2 : Nat) : ℚ) / (den * (ratioPow 2 e).1 : Nat) = num / den / 2 ^ e := by
  have hpow := ratioPow_div Nat.two_pos e
  rw [Nat.cast_two] at hpow
  rw [← hpow, Nat.cast_mul, Nat.cast_mul, div_div_eq_mul_div, div_mul_eq_mul_div, div_div]

theorem mul_ratioPow_lt_iff (hd : 0 < den) (num m : Nat) (e : Int) :
    num * (ratioPow 2 e).2 < m * (den * (ratioPow 2 e).1) ↔ (num / den : ℚ) < m * 2 ^ e := by
  have hunit : 0 < den * (ratioPow 2 e).1 := Nat.mul_pos hd (ratioPow_fst_pos Nat.two_pos e)
  rw [← div_lt_iff₀ (by positivity : (0 : ℚ) < 2 ^ e), ← mul_ratioPow_div,
    div_lt_iff₀ (Nat.cast_pos.2 hunit)]
  exact_mod_cast Iff.rfl

theorem mul_le_ratioPow_iff (hd : 0 < den) :
    m * (den * (ratioPow 2 e).1) ≤ num * (ratioPow 2 e).2 ↔ (m * 2 ^ e : ℚ) ≤ num / den := by
  rw [← not_lt, mul_ratioPow_lt_iff hd, not_lt]

theorem leadingBit_spec (hn : 0 < num) (hd : 0 < den) :
    (2 : ℚ) ^ leadingBit num den ≤ num / den ∧ (num / den : ℚ) < 2 ^ (leadingBit num den + 1) := by
  have hnq : (0 : ℚ) < num := Nat.cast_pos.2 hn
  have hdq : (0 : ℚ) < den := Nat.cast_pos.2 hd
  have hnlog : (2 : ℚ) ^ (num.log2 : Int) ≤ num ∧ (num : ℚ) < 2 ^ ((num.log2 : Int) + 1) := by
    exact_mod_cast And.intro (Nat.log2_self_le hn.ne') (Nat.lt_log2_self (n := num))
  have hdlog : (2 : ℚ) ^ (den.log2 : Int) ≤ den ∧ (den : ℚ) < 2 ^ ((den.log2 : Int) + 1) := by
    exact_mod_cast And.intro (Nat.log2_self_le hd.ne') (Nat.lt_log2_self (n := den))
  have hbelow : (2 : ℚ) ^ ((num.log2 : Int) - den.log2 - 1) ≤ num / den := by
    rw [le_div_iff₀ hdq]
    calc (2 : ℚ) ^ ((num.log2 : Int) - den.log2 - 1) * den
        ≤ 2 ^ ((num.log2 : Int) - den.log2 - 1) * 2 ^ ((den.log2 : Int) + 1) :=
          mul_le_mul_of_nonneg_left hdlog.2.le (by positivity)
      _ = 2 ^ (num.log2 : Int) := by
          rw [← zpow_add₀ two_ne_zero]
          congr 1
          omega
      _ ≤ num := hnlog.1
  have habove : (num / den : ℚ) < 2 ^ ((num.log2 : Int) - den.log2 + 1) := by
    rw [div_lt_iff₀ hdq]
    calc (num : ℚ) < 2 ^ ((num.log2 : Int) + 1) := hnlog.2
      _ = 2 ^ ((num.log2 : Int) - den.log2 + 1) * 2 ^ (den.log2 : Int) := by
          rw [← zpow_add₀ two_ne_zero]
          congr 1
          omega
      _ ≤ 2 ^ ((num.log2 : Int) - den.log2 + 1) * den :=
          mul_le_mul_of_nonneg_left hdlog.1 (by positivity)
  have hguess : num * (ratioPow 2 ((num.log2 : Int) - den.log2)).2 <
      den * (ratioPow 2 ((num.log2 : Int) - den.log2)).1 ↔
        (num / den : ℚ) < 2 ^ ((num.log2 : Int) - den.log2) := by
    have hone := mul_ratioPow_lt_iff hd num 1 ((num.log2 : Int) - den.log2)
    rwa [Nat.one_mul, Nat.cast_one, one_mul] at hone
  simp only [leadingBit, hguess]
  split
  · rename_i hlt
    rw [sub_add_cancel]
    exact ⟨hbelow, hlt⟩
  · rename_i hge
    exact ⟨not_lt.1 hge, habove⟩

/-- The exponent at which the mantissa of a quotient takes 53 bits, or the least there is. -/
def Scales (q : ℚ) (e : Int) : Prop :=
  q < 2 ^ (e + 53) ∧ leastExponent ≤ e ∧ (e = leastExponent ∨ 2 ^ (e + 52) ≤ q)

theorem Scales.le (h : Scales q e) (h' : Scales q e') : e ≤ e' := by
  rcases h.2.2 with he | he
  · exact he ▸ h'.2.1
  · have hlt : (2 : ℚ) ^ (e + 52) < 2 ^ (e' + 53) := he.trans_lt h'.1
    have := (zpow_lt_zpow_iff_right₀ one_lt_two).1 hlt
    omega

theorem Scales.unique (h : Scales q e) (h' : Scales q e') : e = e' :=
  le_antisymm (h.le h') (h'.le h)

theorem scales_leadingBit (hn : 0 < num) (hd : 0 < den) :
    Scales (num / den) (max (leadingBit num den - 52) leastExponent) := by
  obtain ⟨hlow, hhigh⟩ := leadingBit_spec hn hd
  refine ⟨hhigh.trans_le ?_, le_max_right _ _, ?_⟩
  · apply zpow_le_zpow_right₀ one_le_two
    omega
  · rcases max_choice (leadingBit num den - 52) leastExponent with he | he
    · right
      rw [he, sub_add_cancel]
      exact hlow
    · exact .inl he

/-- The mantissa has 53 bits, or fewer at the least exponent. -/
def Canonical : Binary64 → Prop
  | .finite _ m e =>
    m < mantissaBound ∧ leastExponent ≤ e ∧ e ≤ greatestExponent ∧
      (e = leastExponent ∨ mantissaBound / 2 ≤ m)
  | _ => True

def mantissaAt (num den : Nat) (e : Int) : Nat :=
  roundedQuotient (num * (ratioPow 2 e).2) (den * (ratioPow 2 e).1)

/-- The number of a rounded mantissa; one that takes a bit too many is halved. -/
def carried (negative : Bool) (m : Nat) (e : Int) : Binary64 :=
  let (m, e) := if m = mantissaBound then (mantissaBound / 2, e + 1) else (m, e)
  if greatestExponent < e then .infinite negative else .finite negative m e

theorem nearest_eq_carried (hn : 0 < num) (hd : 0 < den) (he : Scales (num / den) e) :
    nearest negative num den = carried negative (mantissaAt num den e) e := by
  rw [he.unique (scales_leadingBit hn hd)]
  rfl

theorem nearest_congr (hn : 0 < num) (hd : 0 < den) (hn' : 0 < num') (hd' : 0 < den')
    (h : (num / den : ℚ) = num' / den') :
    nearest negative num den = nearest negative num' den' := by
  have hcross : num * den' = num' * den := by
    rw [div_eq_div_iff (Nat.cast_ne_zero.2 hd.ne') (Nat.cast_ne_zero.2 hd'.ne')] at h
    exact_mod_cast h
  have hs := scales_leadingBit hn' hd'
  have hm : ∀ e, mantissaAt num den e = mantissaAt num' den' e := by
    intro e
    have hup := ratioPow_fst_pos Nat.two_pos e
    apply roundedQuotient_congr (Nat.mul_pos hd hup) (Nat.mul_pos hd' hup)
    rw [Nat.mul_mul_mul_comm, hcross, Nat.mul_mul_mul_comm]
  rw [nearest_eq_carried hn hd (h ▸ hs), nearest_eq_carried hn' hd' hs, hm]

theorem mantissaAt_le (hd : 0 < den) (h : Scales (num / den) e) :
    mantissaAt num den e ≤ mantissaBound := by
  apply roundedQuotient_le
  rw [mul_ratioPow_lt_iff hd]
  calc (num / den : ℚ) < 2 ^ (e + 53) := h.1
    _ = (mantissaBound : ℚ) * 2 ^ e := by
      rw [zpow_add₀ two_ne_zero, mul_comm]
      norm_num [mantissaBound]

theorem le_mantissaAt (hd : 0 < den) (h : Scales (num / den) e) :
    e = leastExponent ∨ mantissaBound / 2 ≤ mantissaAt num den e := by
  apply h.2.2.imp_right
  intro hlow
  apply le_roundedQuotient (Nat.mul_pos hd (ratioPow_fst_pos Nat.two_pos e))
  rw [mul_le_ratioPow_iff hd]
  calc ((mantissaBound / 2 : Nat) : ℚ) * 2 ^ e = 2 ^ (e + 52) := by
        rw [zpow_add₀ two_ne_zero, mul_comm]
        norm_num [mantissaBound]
    _ ≤ num / den := hlow

theorem canonical_nearest (hn : 0 < num) (hd : 0 < den) :
    (nearest negative num den).Canonical := by
  have hs := scales_leadingBit hn hd
  rw [nearest_eq_carried hn hd hs]
  have hle := mantissaAt_le hd hs
  have hge := le_mantissaAt hd hs
  have hleast := hs.2.1
  generalize max (leadingBit num den - 52) leastExponent = e at *
  unfold carried
  split
  rename_i hm
  split at hm
  · cases hm
    split
    · trivial
    · refine ⟨by decide, ?_, not_lt.1 ‹_›, .inr le_rfl⟩
      omega
  · rename_i hne
    cases hm
    split
    · trivial
    · exact ⟨lt_of_le_of_ne hle hne, hleast, not_lt.1 ‹_›, hge⟩

theorem Canonical.scales (h : (finite negative m e).Canonical) : Scales (m * 2 ^ e) e := by
  obtain ⟨hm, hleast, -, hge⟩ := h
  have hpos : (0 : ℚ) < 2 ^ e := by positivity
  refine ⟨?_, hleast, hge.imp_right fun hlow => ?_⟩
  · rw [zpow_add₀ two_ne_zero, mul_comm]
    apply mul_lt_mul_of_pos_left _ hpos
    exact_mod_cast hm
  · rw [zpow_add₀ two_ne_zero, mul_comm]
    apply mul_le_mul_of_nonneg_right _ hpos.le
    exact_mod_cast hlow

/-- A ratio that is a number already is rounded to it. -/
theorem nearest_of_eq (hn : 0 < num) (hd : 0 < den) (hc : (finite negative m e).Canonical)
    (h : (num / den : ℚ) = m * 2 ^ e) : nearest negative num den = .finite negative m e := by
  have hm : mantissaAt num den e = m := by
    have hunit : 0 < den * (ratioPow 2 e).1 := Nat.mul_pos hd (ratioPow_fst_pos Nat.two_pos e)
    have hnum : num * (ratioPow 2 e).2 = m * (den * (ratioPow 2 e).1) := by
      have hdiv := mul_ratioPow_div num den e
      rw [h, mul_div_cancel_right₀ _ (by positivity : (2 : ℚ) ^ e ≠ 0),
        div_eq_iff (Nat.cast_ne_zero.2 hunit.ne')] at hdiv
      exact_mod_cast hdiv
    rw [mantissaAt, hnum]
    exact roundedQuotient_mul_self m hunit
  rw [nearest_eq_carried hn hd (h ▸ hc.scales), hm]
  simp only [carried, if_neg hc.1.ne, if_neg (not_lt.2 hc.2.2.1)]

theorem ratio_div (d : Decimal) : (d.ratio.1 / d.ratio.2 : ℚ) = d.digits * 10 ^ d.exponent := by
  have hpow := ratioPow_div (show 0 < 10 by decide) d.exponent
  rw [Nat.cast_ofNat] at hpow
  rw [← hpow, mul_div_assoc']
  simp [Decimal.ratio]

theorem ratio_fst_pos {d : Decimal} (h : 0 < d.digits) : 0 < d.ratio.1 :=
  Nat.mul_pos h (ratioPow_fst_pos (by decide) d.exponent)

theorem ratio_snd_pos (d : Decimal) : 0 < d.ratio.2 :=
  ratioPow_snd_pos (by decide) d.exponent

theorem canonical_zero : (zero negative).Canonical :=
  ⟨by decide, le_rfl, by decide, .inl rfl⟩

theorem canonical_ofDecimal (negative : Bool) (d : Decimal) :
    (ofDecimal negative d).Canonical := by
  simp only [ofDecimal]
  split
  · exact canonical_zero
  · rename_i h
    split
    · trivial
    · exact canonical_nearest (ratio_fst_pos (Nat.pos_of_ne_zero (not_or.1 h).1)) (ratio_snd_pos d)

theorem ofDecimal_of_digits_eq_zero {d : Decimal} (h : d.digits = 0) :
    ofDecimal negative d = zero negative := by
  simp only [ofDecimal]
  rw [if_pos (.inl h)]

theorem ofDecimal_mul_ten_pow {n : Nat} (hn : 0 < n) (k : Nat) (e : Int) (negative : Bool) :
    ofDecimal negative ⟨n * 10 ^ k, e - k⟩ = ofDecimal negative ⟨n, e⟩ := by
  have hpos : 0 < n * 10 ^ k := Nat.mul_pos hn (Nat.pow_pos (by decide))
  have hsize : (Decimal.width (n * 10 ^ k) : Int) + (e - k) = Decimal.width n + e := by
    have hwidth := congrArg List.length (naturalText_mul_ten_pow hn k)
    rw [List.length_append, List.length_replicate] at hwidth
    simp only [naturalText] at hwidth
    simp only [Decimal.width]
    omega
  have hnearest : nearest negative (Decimal.ratio ⟨n * 10 ^ k, e - k⟩).1
      (Decimal.ratio ⟨n * 10 ^ k, e - k⟩).2 =
        nearest negative (Decimal.ratio ⟨n, e⟩).1 (Decimal.ratio ⟨n, e⟩).2 := by
    apply nearest_congr (ratio_fst_pos hpos) (ratio_snd_pos _) (ratio_fst_pos hn) (ratio_snd_pos _)
    rw [ratio_div, ratio_div, zpow_sub₀ (by norm_num), zpow_natCast, Nat.cast_mul, Nat.cast_pow,
      Nat.cast_ofNat]
    field_simp
  simp only [ofDecimal, hsize, hpos.ne', hn.ne', hnearest]

theorem carried_sign {m' : Nat} {e' : Int} (h : carried false m e = .finite false m' e')
    (negative : Bool) : carried negative m e = .finite negative m' e' := by
  simp only [carried] at h ⊢
  generalize (if m = mantissaBound then (mantissaBound / 2, e + 1) else (m, e)) = p at h ⊢
  split at h
  · cases h
  · rw [if_neg ‹_›]
    cases h
    rfl

theorem ofDecimal_sign {d : Decimal} (h : ofDecimal false d = .finite false m e)
    (negative : Bool) : ofDecimal negative d = .finite negative m e := by
  simp only [ofDecimal] at h ⊢
  split at h
  · cases h
    rw [if_pos ‹_›]
    rfl
  · rw [if_neg ‹_›]
    split at h
    · cases h
    · rw [if_neg ‹_›]
      exact carried_sign h negative

theorem ofDecimal_eq_nearest {d : Decimal} (h : 0 < d.digits)
    (hlow : -330 ≤ (Decimal.width d.digits : Int) + d.exponent)
    (hhigh : (Decimal.width d.digits : Int) + d.exponent ≤ 310) :
    ofDecimal negative d = nearest negative d.ratio.1 d.ratio.2 := by
  simp only [ofDecimal]
  rw [if_neg (not_or.2 ⟨h.ne', not_lt.2 hlow⟩), if_neg (not_lt.2 hhigh)]

theorem exactDecimal_magnitude (m : Nat) (e : Int) :
    exactDecimal (magnitude m e).1 (magnitude m e).2 =
      ⟨m * 2 ^ e.toNat * 5 ^ (-e).toNat, -((-e).toNat : Int)⟩ := by
  have hlog : (Nat.pow 2 (-e).toNat).log2 = (-e).toNat := Nat.log2_two_pow
  simp only [exactDecimal, magnitude, ratioPow, hlog]
  rfl

/-- Powers of two against powers of ten, as `2 ^ 93 ≤ 10 ^ 28` gives them. -/
theorem two_pow_le_ten_pow {n r s : Nat} (hk : k ≤ 93 * n + r) (h : 2 ^ r ≤ 10 ^ s) :
    2 ^ k ≤ 10 ^ (28 * n + s) :=
  calc 2 ^ k ≤ 2 ^ (93 * n + r) := Nat.pow_le_pow_right Nat.two_pos hk
    _ = (2 ^ 93) ^ n * 2 ^ r := by rw [← Nat.pow_mul, ← Nat.pow_add]
    _ ≤ (10 ^ 28) ^ n * 10 ^ s := Nat.mul_le_mul (Nat.pow_le_pow_left (by norm_num) n) h
    _ = 10 ^ (28 * n + s) := by rw [← Nat.pow_mul, ← Nat.pow_add]

theorem mantissaBound_eq : mantissaBound = 2 ^ 53 := by
  norm_num [mantissaBound]

theorem width_exact_le (hc : (finite false m e).Canonical) :
    Decimal.width (m * 2 ^ e.toNat * 5 ^ (-e).toNat) ≤ 28 * 11 + 2 + (-e).toNat := by
  obtain ⟨hm, -, he, -⟩ := hc
  apply (Nat.length_toDigits_le_iff (by decide) (by omega)).2
  have hbits : m * 2 ^ e.toNat < 10 ^ (28 * 11 + 2) :=
    calc m * 2 ^ e.toNat < mantissaBound * 2 ^ e.toNat :=
          Nat.mul_lt_mul_of_pos_right hm (Nat.two_pow_pos _)
      _ = 2 ^ (53 + e.toNat) := by rw [mantissaBound_eq, ← Nat.pow_add]
      _ ≤ 10 ^ (28 * 11 + 2) := by
          apply two_pow_le_ten_pow (r := 1) _ (by decide)
          simp only [greatestExponent] at he
          omega
  calc m * 2 ^ e.toNat * 5 ^ (-e).toNat < 10 ^ (28 * 11 + 2) * 5 ^ (-e).toNat :=
        Nat.mul_lt_mul_of_pos_right hbits (Nat.pow_pos (by decide))
    _ ≤ 10 ^ (28 * 11 + 2) * 10 ^ (-e).toNat :=
        Nat.mul_le_mul_left _ (Nat.pow_le_pow_left (by decide) _)
    _ = 10 ^ (28 * 11 + 2 + (-e).toNat) := by rw [← Nat.pow_add]

theorem le_width_exact (hm : 0 < m) (he : leastExponent ≤ e) :
    (-e).toNat ≤ 330 + Decimal.width (m * 2 ^ e.toNat * 5 ^ (-e).toNat) := by
  have hk : (-e).toNat ≤ 93 * 11 + 51 := by
    simp only [leastExponent] at he
    omega
  generalize (-e).toNat = k at hk ⊢
  by_contra hlt
  have hwidth : 0 < Decimal.width (m * 2 ^ e.toNat * 5 ^ k) := Nat.length_toDigits_pos
  have hsmall : m * 2 ^ e.toNat * 5 ^ k < 10 ^ (k - 331) := by
    apply (Nat.length_toDigits_le_iff (by decide) (by omega)).1
    simp only [Decimal.width] at hlt
    omega
  have hsplit : k = k - 331 + (28 * 11 + 23) := by omega
  have hlarge : 10 ^ (k - 331) * 10 ^ (28 * 11 + 23) ≤ 5 ^ k * 10 ^ (28 * 11 + 23) :=
    calc 10 ^ (k - 331) * 10 ^ (28 * 11 + 23) = 5 ^ k * 2 ^ k := by
          rw [← Nat.pow_add, ← hsplit, ← Nat.mul_pow]
      _ ≤ 5 ^ k * 10 ^ (28 * 11 + 23) := by
          apply Nat.mul_le_mul_left
          exact two_pow_le_ten_pow hk (by norm_num)
  have hfive : 5 ^ k ≤ m * 2 ^ e.toNat * 5 ^ k :=
    Nat.le_mul_of_pos_left _ (Nat.mul_pos hm (Nat.two_pow_pos _))
  have hle : 10 ^ (k - 331) ≤ 5 ^ k := Nat.le_of_mul_le_mul_right hlarge (by positivity)
  exact absurd (hle.trans hfive) (Nat.not_le.2 hsmall)

theorem ofDecimal_exactDecimal (hm : 0 < m) (hc : (finite false m e).Canonical) :
    ofDecimal false (exactDecimal (magnitude m e).1 (magnitude m e).2) = .finite false m e := by
  have hhigh := width_exact_le hc
  have hlow := le_width_exact hm hc.2.1
  have hpos : 0 < m * 2 ^ e.toNat * 5 ^ (-e).toNat :=
    Nat.mul_pos (Nat.mul_pos hm (Nat.two_pow_pos _)) (Nat.pow_pos (by decide))
  have hvalue : (m * 2 ^ e.toNat * 5 ^ (-e).toNat : ℚ) * 10 ^ (-((-e).toNat : Int)) =
      m * 2 ^ e := by
    have hpow := ratioPow_div Nat.two_pos e
    have hten : (10 : ℚ) ^ (-e).toNat = 2 ^ (-e).toNat * 5 ^ (-e).toNat := by
      rw [← mul_pow]
      norm_num
    rw [Nat.cast_two] at hpow
    rw [← hpow, zpow_neg, zpow_natCast, hten]
    simp only [ratioPow, Nat.pow_eq, Nat.cast_pow, Nat.cast_ofNat]
    field_simp
  rw [exactDecimal_magnitude, ofDecimal_eq_nearest hpos (by simp only; omega) (by simp only; omega)]
  apply nearest_of_eq (ratio_fst_pos hpos) (ratio_snd_pos _) hc
  rw [ratio_div]
  exact_mod_cast hvalue

/-- The shortest decimal of a number reads back as that number. -/
theorem ofDecimal_shortest (hm : 0 < m) (hc : (finite false m e).Canonical) (negative : Bool) :
    ofDecimal negative (shortest m e) = .finite negative m e := by
  apply ofDecimal_sign
  simp only [shortest]
  cases hfind : (candidates (magnitude m e).1 (magnitude m e).2).find?
      fun d => ofDecimal false d == .finite false m e with
  | none => exact ofDecimal_exactDecimal hm hc
  | some d =>
    have hreads := List.find?_some hfind
    exact eq_of_beq hreads

end Binary64

end ModalEdit
