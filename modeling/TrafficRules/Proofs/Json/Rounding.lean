import Mathlib.Algebra.Order.Field.Rat
import Mathlib.Algebra.Order.Field.Power
import Mathlib.Tactic.FieldSimp
import Mathlib.Tactic.Linarith
import Mathlib.Tactic.NormNum
import Mathlib.Tactic.Positivity
import Mathlib.Tactic.Ring
import TrafficRules.Json.Real

/-! # Rounding to floating-point numbers

Quotients are rational numbers (`Quotient.toRat`), and so are magnitudes. Rounding agrees with the
order of both: what is at most a magnitude is not rounded beyond it (`round_le`, `le_round`). From
one on, rounding adds at most one part in `2 ^ 53` (`toRat_round_le`). -/

namespace TrafficRules.Json

namespace Quotient

/-- The rational number of a quotient. -/
def toRat (q : Quotient) : ℚ := q.num / q.den

/-! ### Powers -/

section Scale

variable {base : Nat} {q : Quotient}

theorem den_scale (hb : 0 < base) (hd : 0 < q.den) (e : Int) : 0 < (q.scale base e).den :=
  Nat.mul_pos hd (Nat.pow_pos hb)

theorem toRat_scale (hb : 0 < base) (q : Quotient) (e : Int) :
    (q.scale base e).toRat = q.toRat * (base : ℚ) ^ e := by
  have hb' : (base : ℚ) ≠ 0 := by positivity
  obtain ⟨n, rfl | rfl⟩ := e.eq_nat_or_neg
  · simp [scale, toRat, mul_div_right_comm]
  · simp [scale, toRat]
    field_simp

theorem toRat_mul (p q : Quotient) : (p.mul q).toRat = p.toRat * q.toRat := by
  simp [mul, toRat, mul_div_mul_comm]

theorem toRat_div (p q : Quotient) : (p.div q).toRat = p.toRat / q.toRat := by
  simp [div, toRat, div_div_div_eq]

theorem num_lt_den_iff (hd : 0 < q.den) : q.num < q.den ↔ q.toRat < 1 := by
  rw [toRat, div_lt_one (by exact_mod_cast hd)]
  exact_mod_cast Iff.rfl

theorem digitCount_pos (base n : Nat) : 0 < digitCount base n := Nat.length_toDigits_pos

theorem lt_pow_digitCount (hb : 1 < base) (n : Nat) : n < base ^ digitCount base n :=
  (Nat.length_toDigits_le_iff hb (digitCount_pos base n)).mp (Nat.le_refl _)

theorem pow_digitCount_le (hb : 1 < base) {n : Nat} (hn : 0 < n) :
    base ^ (digitCount base n - 1) ≤ n := by
  by_cases h : digitCount base n = 1
  · rw [h]
    exact hn
  · have hpos := digitCount_pos base n
    refine Nat.le_of_not_lt fun hlt => ?_
    have hle := (Nat.length_toDigits_le_iff hb (by omega)).mpr hlt
    change digitCount base n ≤ digitCount base n - 1 at hle
    omega

/-- A quotient lies between two powers next to each other. -/
theorem leadingPower_spec (hb : 1 < base) (hn : 0 < q.num) (hd : 0 < q.den) :
    (base : ℚ) ^ q.leadingPower base ≤ q.toRat ∧
      q.toRat < (base : ℚ) ^ (q.leadingPower base + 1) := by
  have hb0 : (0 : ℚ) < base := by exact_mod_cast Nat.lt_of_succ_lt hb
  have hne : (base : ℚ) ≠ 0 := hb0.ne'
  have hda := digitCount_pos base q.num
  have hdb := digitCount_pos base q.den
  have hden : (0 : ℚ) < q.den := by exact_mod_cast hd
  generalize hg : (digitCount base q.num : Int) - digitCount base q.den = guess
  have hlow : (base : ℚ) ^ (guess - 1) ≤ q.toRat := by
    have h₁ : ((base : ℚ) ^ (digitCount base q.num - 1)) ≤ q.num := by
      exact_mod_cast pow_digitCount_le hb hn
    have h₂ : (q.den : ℚ) ≤ (base : ℚ) ^ digitCount base q.den := by
      exact_mod_cast (lt_pow_digitCount hb q.den).le
    have he : guess - 1 = ((digitCount base q.num - 1 : Nat) : Int) - digitCount base q.den := by
      omega
    rw [he, zpow_sub₀ hne, zpow_natCast, zpow_natCast, toRat]
    exact div_le_div₀ (by positivity) h₁ hden h₂
  have hhigh : q.toRat < (base : ℚ) ^ (guess + 1) := by
    have h₁ : (q.num : ℚ) < (base : ℚ) ^ digitCount base q.num := by
      exact_mod_cast lt_pow_digitCount hb q.num
    have h₂ : ((base : ℚ) ^ (digitCount base q.den - 1)) ≤ q.den := by
      exact_mod_cast pow_digitCount_le hb hd
    have he : guess + 1 = (digitCount base q.num : Int) - (digitCount base q.den - 1 : Nat) := by
      omega
    rw [he, zpow_sub₀ hne, zpow_natCast, zpow_natCast, toRat]
    exact div_lt_div₀ h₁ h₂ (by positivity) (by positivity)
  have hscaled := num_lt_den_iff (den_scale (Nat.lt_of_succ_lt hb) hd (-guess))
  rw [toRat_scale (Nat.lt_of_succ_lt hb), zpow_neg, ← div_eq_mul_inv,
    div_lt_one (zpow_pos hb0 guess)] at hscaled
  rw [leadingPower, hg]
  split
  · rename_i h
    rw [sub_add_cancel]
    exact ⟨hlow, hscaled.mp h⟩
  · rename_i h
    exact ⟨not_lt.mp fun hlt => h (hscaled.mpr hlt), hhigh⟩

end Scale

/-! ### The nearest integer -/

section Nearest

variable {q : Quotient} (hd : 0 < q.den)

include hd

theorem nearest_le {n : Nat} (h : q.toRat ≤ n) : q.nearest ≤ n := by
  have hden : (0 : ℚ) < q.den := by exact_mod_cast hd
  rw [toRat, div_le_iff₀ hden] at h
  have hnum : q.num ≤ n * q.den := by exact_mod_cast h
  have hdiv := Nat.div_add_mod q.num q.den
  have hbelow : q.num / q.den ≤ n := Nat.div_le_of_le_mul (by rw [mul_comm]; exact hnum)
  unfold nearest
  dsimp only
  split
  · exact hbelow
  · rename_i hc
    refine Nat.succ_le_of_lt (lt_of_le_of_ne hbelow fun he => hc ?_)
    rw [he, mul_comm] at hdiv
    have : q.num % q.den = 0 := by omega
    simp [this, hd]

theorem le_nearest {n : Nat} (h : (n : ℚ) ≤ q.toRat) : n ≤ q.nearest := by
  have hden : (0 : ℚ) < q.den := by exact_mod_cast hd
  rw [toRat, le_div_iff₀ hden] at h
  have hnum : n * q.den ≤ q.num := by exact_mod_cast h
  have hbelow : n ≤ q.num / q.den := (Nat.le_div_iff_mul_le hd).mpr hnum
  unfold nearest
  dsimp only
  split
  · exact hbelow
  · exact Nat.le_succ_of_le hbelow

/-- The nearest integer is at most one half greater. -/
theorem nearest_le_add_half : (q.nearest : ℚ) ≤ q.toRat + 1 / 2 := by
  have hden : (0 : ℚ) < q.den := by exact_mod_cast hd
  have hdiv := Nat.div_add_mod q.num q.den
  have hnat : 2 * (q.nearest * q.den) ≤ 2 * q.num + q.den := by
    unfold nearest
    dsimp only
    rw [mul_comm q.den] at hdiv
    split
    · omega
    · rename_i hc
      simp only [Bool.or_eq_true, decide_eq_true_eq, Bool.and_eq_true, beq_iff_eq, not_or] at hc
      rw [add_mul]
      omega
  have hrat : 2 * ((q.nearest : ℚ) * q.den) ≤ 2 * q.num + q.den := by exact_mod_cast hnat
  rw [toRat, ← sub_le_iff_le_add, le_div_iff₀ hden]
  linarith

end Nearest

end Quotient

/-! ### Magnitudes -/

theorem magnitude_spec (bits : Nat) :
    bits = (magnitude bits).1 + ((magnitude bits).2 + 1074).toNat * fractions ∧
      -1074 ≤ (magnitude bits).2 ∧ (magnitude bits).1 < 2 * fractions ∧
      ((magnitude bits).2 = -1074 ∨ fractions ≤ (magnitude bits).1) := by
  have hmod : bits % fractions < fractions := Nat.mod_lt _ (by decide)
  have hdiv := Nat.div_add_mod bits fractions
  rw [mul_comm] at hdiv
  unfold magnitude
  dsimp only
  split
  · rename_i h
    rw [h, Nat.zero_mul, Nat.zero_add] at hdiv
    refine ⟨?_, Int.le_refl _, by omega, Or.inl rfl⟩
    show bits = bits % fractions + 0 * fractions
    rw [Nat.zero_mul, Nat.add_zero, hdiv]
  · rename_i h
    generalize bits / fractions = biased at h hdiv
    have he : ((biased : Int) - 1075 + 1074).toNat = biased - 1 := by omega
    refine ⟨?_, by omega, by omega, Or.inr (by omega)⟩
    dsimp only
    rw [he, Nat.sub_mul]
    have : fractions ≤ biased * fractions := Nat.le_mul_of_pos_left _ (by omega)
    omega

namespace Quotient

theorem toRat_ofBits (bits : Nat) :
    (ofBits bits).toRat = (magnitude bits).1 * (2 : ℚ) ^ (magnitude bits).2 := by
  rw [ofBits]
  dsimp only
  rw [toRat_scale (by decide)]
  simp [toRat]

theorem den_ofBits (bits : Nat) : 0 < (ofBits bits).den := den_scale (by decide) Nat.one_pos _

/-- A magnitude from an integer and a power of two. The integer may be the first one that has the
next power. -/
theorem toRat_ofBits_add {n : Nat} {e : Int} (he : -1074 ≤ e) (hn : n ≤ 2 * fractions)
    (hf : e = -1074 ∨ fractions ≤ n) :
    (ofBits (n + (e + 1074).toNat * fractions)).toRat = n * (2 : ℚ) ^ e := by
  rw [toRat_ofBits]
  obtain ⟨hbits, hlow, hlt, hnormal⟩ := magnitude_spec (n + (e + 1074).toNat * fractions)
  generalize magnitude (n + (e + 1074).toNat * fractions) = x at hbits hlow hlt hnormal ⊢
  obtain ⟨m, d⟩ := x
  dsimp only at hbits hlow hlt hnormal ⊢
  rcases eq_or_ne d e with rfl | hne
  · rw [Nat.add_right_cancel hbits]
  · -- the other way to write the same bits: half the integer and twice the power
    have hd : d = e + 1 ∧ m = fractions ∧ n = 2 * fractions := by
      unfold fractions at *
      omega
    obtain ⟨rfl, rfl, rfl⟩ := hd
    rw [zpow_add_one₀ two_ne_zero]
    push_cast
    ring

/-! ### Rounding -/

/-- How a quotient is rounded: to an integer times a power of two, which is the least one or leaves
the integer with all its digits. -/
theorem round_spec {q : Quotient} (hn : 0 < q.num) (hd : 0 < q.den) :
    ∃ e : Int, -1074 ≤ e ∧
      q.round = (q.scale 2 (-e)).nearest + (e + 1074).toNat * fractions ∧
      0 < (q.scale 2 (-e)).den ∧ (q.scale 2 (-e)).toRat * (2 : ℚ) ^ e = q.toRat ∧
      (q.scale 2 (-e)).toRat < 2 * fractions ∧
      (e = -1074 ∨ fractions ≤ (q.scale 2 (-e)).toRat) := by
  obtain ⟨hlow, hhigh⟩ := @leadingPower_spec 2 q (by decide) hn hd
  have hfr : (fractions : ℚ) = (2 : ℚ) ^ (52 : Int) := by norm_num [fractions]
  have hval : ∀ e : Int, (q.scale 2 (-e)).toRat = q.toRat * (2 : ℚ) ^ (-e) :=
    fun e => toRat_scale (by decide) q (-e)
  refine ⟨max (q.leadingPower 2 - 52) (-1074), le_max_right _ _, ?_, den_scale (by decide) hd _,
    ?_, ?_, ?_⟩
  · rw [round, if_neg (by omega)]
  · rw [hval, mul_assoc, ← zpow_add₀ two_ne_zero, neg_add_cancel, zpow_zero, mul_one]
  · rw [hval, hfr, ← zpow_one_add₀ two_ne_zero, zpow_neg, ← div_eq_mul_inv,
      div_lt_iff₀ (by positivity), ← zpow_add₀ two_ne_zero]
    refine lt_of_lt_of_le hhigh (zpow_le_zpow_right₀ one_le_two ?_)
    have := le_max_left (q.leadingPower 2 - 52) (-1074)
    omega
  · rcases max_cases (q.leadingPower 2 - 52) (-1074) with ⟨h, _⟩ | ⟨h, _⟩
    · refine Or.inr ?_
      rw [h, hval, hfr, zpow_neg, ← div_eq_mul_inv, le_div_iff₀ (by positivity),
        ← zpow_add₀ two_ne_zero]
      refine le_trans (zpow_le_zpow_right₀ one_le_two ?_) hlow
      omega
    · exact Or.inl h

theorem round_zero {q : Quotient} (h : q.num = 0) : q.round = 0 := by rw [round, if_pos h]

theorem toRat_ofBits_nonneg (bits : Nat) : 0 ≤ (ofBits bits).toRat := by
  rw [toRat_ofBits]
  positivity

theorem num_pos_of_toRat_pos {q : Quotient} (h : 0 < q.toRat) : 0 < q.num := by
  refine Nat.pos_of_ne_zero fun h0 => h.ne' ?_
  rw [toRat, h0, Nat.cast_zero, zero_div]

/-- What is at most a magnitude is not rounded beyond it. -/
theorem round_le {q : Quotient} (hd : 0 < q.den) {bits : Nat}
    (h : q.toRat ≤ (ofBits bits).toRat) : q.round ≤ bits := by
  rcases Nat.eq_zero_or_pos q.num with h0 | hn
  · rw [round_zero h0]
    exact Nat.zero_le bits
  obtain ⟨e, he, hround, hden, hval, hlt, hnormal⟩ := round_spec hn hd
  obtain ⟨hbits, hlow, hm, hmn⟩ := magnitude_spec bits
  rw [toRat_ofBits, ← hval] at h
  rw [hround]
  generalize q.scale 2 (-e) = s at hden h hlt hnormal ⊢
  generalize magnitude bits = x at hbits hlow hm hmn h
  obtain ⟨m, d⟩ := x
  dsimp only at hbits hlow hm hmn h
  have hn2 : s.nearest ≤ 2 * fractions := nearest_le hden (by push_cast; exact hlt.le)
  rcases lt_trichotomy e d with hed | rfl | hed
  · have hmf : fractions ≤ m := by
      rcases hmn with h | h
      · omega
      · exact h
    unfold fractions at *
    omega
  · have hsm : s.nearest ≤ m := nearest_le hden (le_of_mul_le_mul_right h (by positivity))
    omega
  · -- the magnitude would be less than every quotient that is rounded with this power of two
    exfalso
    have hsf : (fractions : ℚ) ≤ s.toRat := by
      rcases hnormal with h | h
      · omega
      · exact h
    have hm' : (m : ℚ) < 2 * fractions := by exact_mod_cast hm
    have hpow : (2 : ℚ) ^ (d + 1) ≤ 2 ^ e := zpow_le_zpow_right₀ one_le_two (by omega)
    refine absurd h (not_le.mpr ?_)
    calc (m : ℚ) * 2 ^ d < 2 * fractions * 2 ^ d := by
          exact mul_lt_mul_of_pos_right hm' (by positivity)
      _ = fractions * 2 ^ (d + 1) := by rw [zpow_add_one₀ two_ne_zero]; ring
      _ ≤ s.toRat * 2 ^ e := mul_le_mul hsf hpow (by positivity) (by linarith)

/-- What is at least a magnitude is not rounded below it. -/
theorem le_round {q : Quotient} (hd : 0 < q.den) {bits : Nat}
    (h : (ofBits bits).toRat ≤ q.toRat) : bits ≤ q.round := by
  obtain ⟨hbits, hlow, hm, hmn⟩ := magnitude_spec bits
  rw [toRat_ofBits] at h
  generalize magnitude bits = x at hbits hlow hm hmn h
  obtain ⟨m, d⟩ := x
  dsimp only at hbits hlow hm hmn h
  rcases Nat.eq_zero_or_pos m with rfl | hm0
  · have : d = -1074 := by
      rcases hmn with h | h
      · exact h
      · exact absurd h (by decide)
    rw [hbits, this]
    exact Nat.zero_le _
  have hn : 0 < q.num := by
    refine num_pos_of_toRat_pos (lt_of_lt_of_le ?_ h)
    have : (0 : ℚ) < m := by exact_mod_cast hm0
    positivity
  obtain ⟨e, he, hround, hden, hval, hlt, hnormal⟩ := round_spec hn hd
  rw [← hval] at h
  rw [hround]
  generalize q.scale 2 (-e) = s at hden h hlt hnormal ⊢
  rcases lt_trichotomy e d with hed | rfl | hed
  · -- the quotient would be less than every magnitude with this power of two
    exfalso
    have hmf : (fractions : ℚ) ≤ m := by
      rcases hmn with h | h
      · omega
      · exact_mod_cast h
    have hpow : (2 : ℚ) ^ (e + 1) ≤ 2 ^ d := zpow_le_zpow_right₀ one_le_two (by omega)
    refine absurd h (not_le.mpr ?_)
    calc s.toRat * 2 ^ e < 2 * fractions * 2 ^ e := by
          exact mul_lt_mul_of_pos_right hlt (by positivity)
      _ = fractions * 2 ^ (e + 1) := by rw [zpow_add_one₀ two_ne_zero]; ring
      _ ≤ m * 2 ^ d := mul_le_mul hmf hpow (by positivity) (by positivity)
  · have hsm : m ≤ s.nearest := le_nearest hden (le_of_mul_le_mul_right h (by positivity))
    omega
  · have hsf : fractions ≤ s.nearest := by
      refine le_nearest hden ?_
      rcases hnormal with h | h
      · omega
      · exact h
    unfold fractions at *
    omega

/-- The bits of magnitudes have the order of the magnitudes. -/
theorem toRat_ofBits_mono {a b : Nat} (h : a ≤ b) : (ofBits a).toRat ≤ (ofBits b).toRat := by
  by_contra hlt
  have hle : b ≤ a :=
    (le_round (den_ofBits b) (le_refl _)).trans (round_le (den_ofBits b) (not_le.mp hlt).le)
  exact hlt (le_of_eq (congrArg (fun bits => (ofBits bits).toRat) (le_antisymm h hle)))

/-- From one on, rounding adds at most one part in `2 ^ 53`. -/
theorem toRat_round_le {q : Quotient} (hd : 0 < q.den) (h : 1 ≤ q.toRat) :
    (ofBits q.round).toRat ≤ q.toRat * (1 + 1 / 2 ^ 53) := by
  have hn : 0 < q.num := num_pos_of_toRat_pos (lt_of_lt_of_le one_pos h)
  obtain ⟨e, he, hround, hden, hval, hlt, hnormal⟩ := round_spec hn hd
  rw [← hval] at h ⊢
  rw [hround]
  generalize q.scale 2 (-e) = s at hden h hlt hnormal ⊢
  have hsf : (fractions : ℚ) ≤ s.toRat := by
    rcases hnormal with rfl | hsf
    · have hpow : (2 : ℚ) ^ (-1074 : Int) * 2 ^ (1074 : Int) = 1 := by
        rw [← zpow_add₀ two_ne_zero]
        rfl
      have hbig : (fractions : ℚ) ≤ 2 ^ (1074 : Int) := by
        rw [show (fractions : ℚ) = (2 : ℚ) ^ (52 : Int) by norm_num [fractions]]
        exact zpow_le_zpow_right₀ one_le_two (by decide)
      refine hbig.trans ?_
      calc (2 : ℚ) ^ (1074 : Int) ≤ s.toRat * 2 ^ (-1074 : Int) * 2 ^ (1074 : Int) :=
            le_mul_of_one_le_left (by positivity) h
        _ = s.toRat := by rw [mul_assoc, hpow, mul_one]
    · exact hsf
  have hhalf : (1 : ℚ) / 2 ≤ s.toRat * (1 / 2 ^ 53) := by
    have hf : (1 : ℚ) / 2 = fractions * (1 / 2 ^ 53) := by norm_num [fractions]
    rw [hf]
    exact mul_le_mul_of_nonneg_right hsf (by positivity)
  rw [toRat_ofBits_add he (nearest_le hden (by push_cast; exact hlt.le))
    (Or.inr (le_nearest hden hsf)), mul_right_comm]
  refine mul_le_mul_of_nonneg_right ?_ (by positivity)
  have := nearest_le_add_half hden
  linarith

end Quotient

end TrafficRules.Json
