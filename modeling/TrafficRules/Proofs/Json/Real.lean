import Mathlib.Tactic.SplitIfs
import TrafficRules.Proofs.Json.Number
import TrafficRules.Proofs.Json.Rounding

/-! # Floating-point numbers written and read

A number is written in the form that JSON asks for (`written_formed`), never as an integer
(`integer?_written`), and what is written is read as a number again (`real?_written`). It need not be
the same number, but it is none beyond the finite ones: the digits lie below the upper bound of what
rounds to the number, and the three roundings of the reader do not lead beyond the finite numbers from
there. The three greatest numbers are too close to the end for that estimate and are tried out. -/

namespace TrafficRules.Json

/-! ### Digits -/

theorem le_ofDigitChars (ds : List Char) (n : Nat) :
    10 ^ ds.length * n ≤ Nat.ofDigitChars 10 ds n := by
  rw [Nat.ofDigitChars_eq_ofDigitChars_zero]
  exact Nat.le_add_right _ _

theorem ofDigitChars_lt {ds : List Char} (h : ∀ c ∈ ds, c.isDigit = true) :
    ∀ n, Nat.ofDigitChars 10 ds n < 10 ^ ds.length * (n + 1) := by
  induction ds with
  | nil => simp
  | cons c rest ih =>
      intro n
      have hc : c.toNat - '0'.toNat < 10 := by
        have := h c List.mem_cons_self
        simp only [Char.isDigit, Bool.and_eq_true, decide_eq_true_eq] at this
        have hle : c.toNat ≤ 57 := this.2
        change c.toNat - 48 < 10
        omega
      rw [Nat.ofDigitChars_cons, List.length_cons, pow_succ, mul_assoc]
      refine lt_of_lt_of_le (ih (fun d hd => h d (List.mem_cons_of_mem c hd)) _) ?_
      exact Nat.mul_le_mul_left _ (by omega)

/-- Digits that fit the significand are all taken. -/
theorem significand_of_lt {ds : List Char} : ∀ {n : Nat},
    Nat.ofDigitChars 10 ds n < UInt64.size → significand n ds = (Nat.ofDigitChars 10 ds n, 0) := by
  induction ds with
  | nil => exact fun _ => rfl
  | cons d rest ih =>
      intro n h
      rw [Nat.ofDigitChars_cons] at h ⊢
      have hnext := le_ofDigitChars rest (10 * n + (d.toNat - '0'.toNat))
      have hpos : 0 < 10 ^ rest.length := Nat.pow_pos (by decide)
      have hlt : 10 * n + (d.toNat - '0'.toNat) < UInt64.size :=
        lt_of_le_of_lt ((Nat.le_mul_of_pos_left _ hpos).trans hnext) h
      rw [significand, if_pos hlt]
      exact ih h

/-- The digits that are taken stand for no more than all of them. -/
theorem significand_spec (ds : List Char) : ∀ {n : Nat}, n < UInt64.size →
    (significand n ds).1 < UInt64.size ∧ (significand n ds).2 ≤ ds.length ∧
      (significand n ds).1 * 10 ^ (significand n ds).2 ≤ Nat.ofDigitChars 10 ds n := by
  induction ds with
  | nil => exact fun h => ⟨h, Nat.le_refl 0, by simp [significand]⟩
  | cons d rest ih =>
      intro n h
      rw [significand]
      split
      · rename_i hlt
        obtain ⟨h₁, h₂, h₃⟩ := ih hlt
        exact ⟨h₁, Nat.le_succ_of_le h₂, h₃⟩
      · refine ⟨h, Nat.le_refl _, ?_⟩
        rw [Nat.mul_comm]
        exact le_ofDigitChars (d :: rest) n

/-! ### Reading -/

/-- What is read from digits and a power of ten up to here is finite. -/
def readable : Nat := (2 ^ 54 - 7) * 2 ^ 970

/-- The integer that is the greatest finite magnitude. -/
def greatest : Nat := (2 ^ 53 - 1) * 2 ^ 971

theorem toRat_greatest : (Quotient.ofBits (infinite - 1)).toRat = greatest := by
  have h : magnitude (infinite - 1) = (2 ^ 53 - 1, ((971 : Nat) : Int)) := by decide
  rw [Quotient.toRat_ofBits, h, zpow_natCast, greatest, Nat.cast_mul, Nat.cast_pow]
  rfl

theorem readable_lt : (readable : ℚ) < 10 ^ (309 : Int) := by
  have h : readable < 10 ^ 309 := by decide +kernel
  rw [show (309 : Int) = (309 : Nat) from rfl, zpow_natCast]
  exact_mod_cast h

/-- Three roundings do not lead from there beyond the finite numbers. -/
theorem readable_mul_le : (readable : ℚ) * (1 + 1 / 2 ^ 53) ^ 2 ≤ greatest := by
  have h : readable * (2 ^ 53 + 1) ^ 2 ≤ greatest * (2 ^ 53) ^ 2 := by decide +kernel
  have hcast : (readable : ℚ) * (2 ^ 53 + 1) ^ 2 ≤ greatest * (2 ^ 53) ^ 2 := by exact_mod_cast h
  have hfactor : (1 + 1 / 2 ^ 53 : ℚ) = (2 ^ 53 + 1) / 2 ^ 53 := by norm_num
  rw [hfactor, div_pow, ← mul_div_assoc, div_le_iff₀ (by positivity)]
  exact hcast

namespace Real

theorem toRat_pow_ten (power : Nat) :
    (⟨Nat.pow 10 power, 1⟩ : Quotient).toRat = (10 : ℚ) ^ power := by
  simp [Quotient.toRat]

/-- The magnitude of a power of ten is at least one, and at most one part in `2 ^ 53` too great. -/
theorem toRat_powerOfTen (power : Nat) :
    1 ≤ (Quotient.ofBits (powerOfTen power)).toRat ∧
      (Quotient.ofBits (powerOfTen power)).toRat ≤ 10 ^ power * (1 + 1 / 2 ^ 53) := by
  have hten : (1 : ℚ) ≤ 10 ^ power := one_le_pow₀ (by norm_num)
  have hone : (Quotient.ofBits (1023 * fractions)).toRat = 1 := by
    have h : magnitude (1023 * fractions) = (fractions, -52) := by decide
    rw [Quotient.toRat_ofBits, h]
    norm_num [fractions]
  constructor
  · rw [← hone]
    refine Quotient.toRat_ofBits_mono (Quotient.le_round Nat.one_pos ?_)
    rw [hone, toRat_pow_ten]
    exact hten
  · rw [← toRat_pow_ten] at hten ⊢
    exact Quotient.toRat_round_le Nat.one_pos hten

/-- Scaling down makes no magnitude greater. -/
theorem divide_le (bits power : Nat) : divide bits power ≤ bits := by
  obtain ⟨hone, _⟩ := toRat_powerOfTen power
  have hpos : 0 < (Quotient.ofBits (powerOfTen power)).toRat := lt_of_lt_of_le one_pos hone
  refine Quotient.round_le (Nat.mul_pos (Quotient.den_ofBits bits)
    (Quotient.num_pos_of_toRat_pos hpos)) ?_
  rw [Quotient.toRat_div]
  exact div_le_self (Quotient.toRat_ofBits_nonneg bits) hone

theorem scaleDown_le : ∀ fuel bits power, scaleDown fuel bits power ≤ bits
  | 0, bits, _ => Nat.le_refl bits
  | fuel + 1, bits, power => by
      rw [scaleDown]
      split
      · exact divide_le bits power
      · split
        · exact Nat.le_refl bits
        · exact (scaleDown_le fuel _ _).trans (divide_le bits maxPower)

/-- Where digits with a power of ten are not too great, they are read as a finite number. -/
theorem ofParts?_isSome (negative : Bool) {s : Nat} {power : Int} (hs : s < UInt64.size)
    (h : (s : ℚ) * 10 ^ power ≤ readable) : (ofParts? negative s power).isSome := by
  have htoRat : (⟨s, 1⟩ : Quotient).toRat = s := by simp [Quotient.toRat]
  have hbits : Quotient.round ⟨s, 1⟩ ≤ infinite - 1 := by
    refine Quotient.round_le Nat.one_pos ?_
    have hle : UInt64.size ≤ greatest := by decide +kernel
    rw [htoRat, toRat_greatest]
    exact_mod_cast hs.le.trans hle
  rw [ofParts?]
  generalize hb : Quotient.round ⟨s, 1⟩ = bits at hbits
  have hsome : ∀ {b : Nat}, b ≤ infinite - 1 →
      (if finite : b < infinite then some (⟨negative, b, finite⟩ : Real) else none).isSome := by
    intro b hle
    rw [dif_pos (Nat.lt_of_le_of_lt hle (by decide))]
    rfl
  split
  · exact hsome ((scaleDown_le _ _ _).trans hbits)
  · rename_i hpower
    rcases Nat.eq_zero_or_pos s with rfl | hs0
    · have hzero : bits = 0 := hb.symm.trans (Quotient.round_zero rfl)
      subst hzero
      split
      · refine hsome ?_
        rw [Quotient.round_zero (by
          rw [Quotient.mul, show (Quotient.ofBits 0).num = 0 from rfl, Nat.zero_mul])]
        exact Nat.zero_le _
      · exact hsome hbits
    · obtain ⟨p, rfl⟩ := Int.eq_ofNat_of_zero_le (not_lt.mp hpower)
      have hs1 : (1 : ℚ) ≤ s := by exact_mod_cast hs0
      have hp : p ≤ maxPower := by
        have hlt : (10 : ℚ) ^ (p : Int) < 10 ^ (309 : Int) :=
          lt_of_le_of_lt ((le_mul_of_one_le_left (by positivity) hs1).trans h) readable_lt
        rw [zpow_lt_zpow_iff_right₀ (by norm_num)] at hlt
        unfold maxPower
        omega
      rw [if_pos (by exact_mod_cast hp), Int.toNat_natCast]
      refine hsome (Quotient.round_le
        (Nat.mul_pos (Quotient.den_ofBits _) (Quotient.den_ofBits _)) ?_)
      have hdigits : (Quotient.ofBits bits).toRat ≤ s * (1 + 1 / 2 ^ 53) := by
        rw [← hb, ← htoRat] at *
        exact Quotient.toRat_round_le Nat.one_pos hs1
      obtain ⟨_, hpow⟩ := toRat_powerOfTen p
      rw [Quotient.toRat_mul, toRat_greatest]
      rw [zpow_natCast] at h
      calc (Quotient.ofBits bits).toRat * (Quotient.ofBits (powerOfTen p)).toRat
          ≤ (s * (1 + 1 / 2 ^ 53)) * (10 ^ p * (1 + 1 / 2 ^ 53)) :=
            mul_le_mul hdigits hpow (Quotient.toRat_ofBits_nonneg _) (by positivity)
        _ = s * 10 ^ p * (1 + 1 / 2 ^ 53) ^ 2 := by ring
        _ ≤ readable * (1 + 1 / 2 ^ 53) ^ 2 := mul_le_mul_of_nonneg_right h (by positivity)
        _ ≤ greatest := readable_mul_le

/-! ### The shortest digits -/

theorem mul_pow_le_of_scaled {q : Quotient} (hd : 0 < q.den) {n : Nat} {e : Int}
    (h : n * (q.scale 10 (-e)).den ≤ (q.scale 10 (-e)).num) : (n : ℚ) * 10 ^ e ≤ q.toRat := by
  have hden : (0 : ℚ) < (q.scale 10 (-e)).den := by
    exact_mod_cast Quotient.den_scale (by decide) hd (-e)
  have hscaled : (n : ℚ) ≤ (q.scale 10 (-e)).toRat := by
    rw [Quotient.toRat, le_div_iff₀ hden]
    exact_mod_cast h
  rw [Quotient.toRat_scale (by decide), zpow_neg, ← div_eq_mul_inv, Nat.cast_ofNat,
    le_div_iff₀ (by positivity)] at hscaled
  exact hscaled

theorem le_of_inside {low high : Quotient} (hd : 0 < high.den) {closed : Bool} {n : Nat} {e : Int}
    (h : inside low high closed n e = true) : (n : ℚ) * 10 ^ e ≤ high.toRat := by
  refine mul_pow_le_of_scaled hd ?_
  unfold inside at h
  cases closed
  · simp only [Bool.false_eq_true, if_false, Bool.and_eq_true, decide_eq_true_eq] at h
    exact h.2.le
  · simp only [if_true, Bool.and_eq_true, decide_eq_true_eq] at h
    exact h.2

/-- The shortest digits are not zero, and not beyond the upper bound. -/
theorem shortestFrom_spec {value low high : Quotient} {closed : Bool} {top : Int}
    (hvalue : 0 < value.den) (hhigh : 0 < high.den) (hle : value.toRat ≤ high.toRat)
    (htop : (10 : ℚ) ^ top ≤ value.toRat) : ∀ more count, 0 < count →
      0 < (shortestFrom value low high closed top more count).1 ∧
        ((shortestFrom value low high closed top more count).1 : ℚ) *
          10 ^ (shortestFrom value low high closed top more count).2 ≤ high.toRat := by
  have hone : ∀ count : Nat, 0 < count →
      1 ≤ (value.scale 10 (-(top + 1 - (count : Int)))).toRat := by
    intro count hc
    rw [Quotient.toRat_scale (by decide), zpow_neg, ← div_eq_mul_inv, Nat.cast_ofNat,
      le_div_iff₀ (by positivity), one_mul]
    exact (zpow_le_zpow_right₀ (by norm_num) (by omega)).trans htop
  have hdiv : ∀ count : Nat, 0 < count → 0 < (value.scale 10 (-(top + 1 - (count : Int)))).num /
      (value.scale 10 (-(top + 1 - (count : Int)))).den := by
    intro count hc
    have hd : 0 < (value.scale 10 (-(top + 1 - (count : Int)))).den :=
      Quotient.den_scale (by decide) hvalue _
    refine Nat.div_pos (Nat.le_of_not_lt fun hlt => ?_) hd
    exact absurd (hone count hc) (not_le.mpr ((Quotient.num_lt_den_iff hd).mp hlt))
  intro more
  induction more with
  | zero =>
      intro count hc
      refine ⟨hdiv count hc, le_trans ?_ hle⟩
      exact mul_pow_le_of_scaled hvalue (Nat.div_mul_le_self _ _)
  | succ more ih =>
      intro count hc
      rw [shortestFrom]
      split_ifs with h₁ h₂ h₃
      · refine ⟨?_, le_of_inside hhigh h₁⟩
        exact Quotient.le_nearest (Quotient.den_scale (by decide) hvalue _)
          (by exact_mod_cast hone count hc)
      · exact ⟨hdiv count hc, le_of_inside hhigh h₂⟩
      · exact ⟨Nat.succ_pos _, le_of_inside hhigh h₃⟩
      · exact ih (count + 1) (Nat.succ_pos count)

theorem stripZeros_spec : ∀ fuel n (e : Int), 0 < n →
    0 < (stripZeros fuel (n, e)).1 ∧
      ((stripZeros fuel (n, e)).1 : ℚ) * 10 ^ (stripZeros fuel (n, e)).2 = n * 10 ^ e
  | 0, _, _, h => ⟨h, rfl⟩
  | fuel + 1, n, e, h => by
      rw [stripZeros]
      split
      · rename_i hmod
        have hn : 10 * (n / 10) = n := by omega
        obtain ⟨hpos, heq⟩ := stripZeros_spec fuel (n / 10) (e + 1) (by omega)
        refine ⟨hpos, heq.trans ?_⟩
        rw [zpow_add_one₀ (by norm_num), mul_comm ((10 : ℚ) ^ e) 10, ← mul_assoc,
          mul_comm ((n / 10 : Nat) : ℚ) 10]
        exact_mod_cast congrArg (fun k : Nat => (k : ℚ) * 10 ^ e) hn
      · exact ⟨h, rfl⟩

/-- The digits of a magnitude do not exceed the upper bound of what rounds to it. -/
theorem shortest_spec {bits : Nat} (h : 0 < bits) : 0 < (shortest bits).1 ∧
    ((shortest bits).1 : ℚ) * 10 ^ (shortest bits).2 ≤
      (4 * (magnitude bits).1 + 2) * 2 ^ ((magnitude bits).2 - 2) := by
  obtain ⟨hbits, _, _, _⟩ := magnitude_spec bits
  have hm : 0 < (magnitude bits).1 := by
    refine Nat.pos_of_ne_zero fun h0 => ?_
    unfold magnitude at h0
    unfold fractions at h0
    dsimp only at h0
    split at h0 <;> omega
  rw [shortest]
  generalize magnitude bits = x at hm ⊢
  obtain ⟨m, e⟩ := x
  dsimp only at hm ⊢
  have hval : ∀ n : Nat, (Quotient.scale 2 ⟨n, 1⟩ (e - 2)).toRat = n * (2 : ℚ) ^ (e - 2) := by
    intro n
    rw [Quotient.toRat_scale (by decide)]
    simp [Quotient.toRat]
  have hden : ∀ n : Nat, 0 < (Quotient.scale 2 ⟨n, 1⟩ (e - 2)).den :=
    fun n => Quotient.den_scale (by decide) Nat.one_pos _
  have hnum : 0 < (Quotient.scale 2 ⟨4 * m, 1⟩ (e - 2)).num :=
    Nat.mul_pos (Nat.mul_pos (by decide) hm) (Nat.pow_pos (by decide))
  have hle : (Quotient.scale 2 ⟨4 * m, 1⟩ (e - 2)).toRat ≤
      (Quotient.scale 2 ⟨4 * m + 2, 1⟩ (e - 2)).toRat := by
    rw [hval, hval]
    refine mul_le_mul_of_nonneg_right ?_ (by positivity)
    exact_mod_cast Nat.le_add_right (4 * m) 2
  have htop := (@Quotient.leadingPower_spec 10 _ (by decide) hnum (hden (4 * m))).1
  generalize Quotient.scale 2 ⟨4 * m - _, 1⟩ (e - 2) = low
  obtain ⟨hpos, hhigh⟩ := @shortestFrom_spec _ low _ (m % 2 == 0) _ (hden (4 * m))
    (hden (4 * m + 2)) hle htop 17 1 Nat.one_pos
  obtain ⟨hpos', heq⟩ := stripZeros_spec 17 _ _ hpos
  refine ⟨hpos', heq.trans_le (hhigh.trans ?_)⟩
  rw [hval]
  exact le_of_eq (by push_cast; rfl)

/-- The digits of all but the three greatest magnitudes are readable. -/
theorem shortest_le_readable {bits : Nat} (h : 0 < bits) (hb : bits ≤ infinite - 4) :
    ((shortest bits).1 : ℚ) * 10 ^ (shortest bits).2 ≤ readable := by
  refine (shortest_spec h).2.trans ?_
  obtain ⟨hbits, hlow, hlt, hnormal⟩ := magnitude_spec bits
  generalize magnitude bits = x at hbits hlow hlt hnormal ⊢
  obtain ⟨m, e⟩ := x
  dsimp only at hbits hlow hlt hnormal ⊢
  have hcases : (e = 971 ∧ 2 * m + 1 ≤ 2 ^ 54 - 7) ∨ (e ≤ 970 ∧ 4 * m + 2 ≤ 2 ^ 55) := by
    unfold fractions at *
    unfold infinite at hb
    omega
  have hreadable : (readable : ℚ) = (2 ^ 54 - 7 : Nat) * 2 ^ (970 : Int) := by
    rw [readable, Nat.cast_mul, Nat.cast_pow]
    rfl
  rw [hreadable]
  rcases hcases with ⟨rfl, hm⟩ | ⟨he, hm⟩
  · have hm' : (2 * m + 1 : ℚ) ≤ (2 ^ 54 - 7 : Nat) := by exact_mod_cast hm
    calc (4 * m + 2 : ℚ) * 2 ^ ((971 : Int) - 2) = (2 * m + 1) * 2 ^ ((969 : Int) + 1) := by
          rw [zpow_add_one₀ two_ne_zero, show (971 : Int) - 2 = 969 from rfl]
          generalize (2 : ℚ) ^ (969 : Int) = p
          ring
      _ ≤ (2 ^ 54 - 7 : Nat) * 2 ^ (970 : Int) := by
          exact mul_le_mul_of_nonneg_right hm' (by positivity)
  · have hm' : (4 * m + 2 : ℚ) ≤ 2 ^ 55 := by exact_mod_cast hm
    have hpow : (2 : ℚ) ^ (e - 2) ≤ 2 ^ (968 : Int) :=
      zpow_le_zpow_right₀ one_le_two (by omega)
    calc (4 * m + 2 : ℚ) * 2 ^ (e - 2) ≤ 2 ^ 55 * 2 ^ (968 : Int) :=
          mul_le_mul hm' hpow (by positivity) (by positivity)
      _ = 2 ^ 53 * 2 ^ ((968 : Int) + 2) := by
          rw [zpow_add₀ two_ne_zero]
          generalize (2 : ℚ) ^ (968 : Int) = p
          norm_num
          ring
      _ ≤ (2 ^ 54 - 7 : Nat) * 2 ^ (970 : Int) := by
          refine mul_le_mul_of_nonneg_right ?_ (by positivity)
          norm_num

/-! ### Writing -/

/-- Digits that do not start with a zero are placed in a well-formed number, which is no integer. -/
theorem place_formed (negative : Bool) {d : Char} {ds : List Char} (hd : d ≠ '0')
    (hds : ∀ c ∈ d :: ds, c.isDigit = true) (power : Int) :
    (place negative (d :: ds) power).Formed ∧ (place negative (d :: ds) power).integer? = none := by
  have hzeros : ∀ n : Nat, ∀ c ∈ List.replicate n '0', c.isDigit = true := by
    intro n c hc
    rw [List.eq_of_mem_replicate hc]
    decide
  have hlen : (d :: ds).length = ds.length + 1 := rfl
  have hint : ∀ {n : NumberText}, n.fraction ≠ [] ∨ n.exponent ≠ none → n.integer? = none := by
    rintro n (hf | he)
    · rw [NumberText.integer?, if_neg (by simp [hf])]
    · rw [NumberText.integer?, if_neg (by simp [Option.isNone_iff_eq_none, he])]
  unfold place
  dsimp only
  split_ifs with h₁ h₂ h₃
  · refine ⟨⟨⟨d, _, rfl, fun h => absurd h hd⟩, ?_, by simp, by simp⟩, hint (Or.inl (by simp))⟩
    intro c hc
    rcases List.mem_append.mp hc with hc | hc
    · exact hds c hc
    · exact hzeros _ c hc
  · obtain ⟨k, hk⟩ : ∃ k, (((d :: ds).length : Int) + power).toNat = k + 1 :=
      ⟨(((d :: ds).length : Int) + power).toNat - 1, by omega⟩
    rw [hk]
    refine ⟨⟨⟨d, _, rfl, fun h => absurd h hd⟩, fun c hc => hds c (List.mem_of_mem_take hc),
      fun c hc => hds c (List.mem_of_mem_drop hc), by simp⟩, hint (Or.inl ?_)⟩
    have : k + 1 < (d :: ds).length := by omega
    exact fun h => absurd (List.drop_eq_nil_iff.mp h) (by omega)
  · refine ⟨⟨⟨'0', [], rfl, fun _ => rfl⟩, by simp, ?_, by simp⟩, hint (Or.inl (by simp))⟩
    intro c hc
    rcases List.mem_append.mp hc with hc | hc
    · exact hzeros _ c hc
    · exact hds c hc
  · refine ⟨⟨⟨d, [], rfl, fun _ => rfl⟩, ?_, fun c hc => hds c (List.mem_cons_of_mem d hc), ?_⟩,
      hint (Or.inr (by simp))⟩
    · intro c hc
      exact hds c (List.mem_of_mem_take hc)
    · rintro minus es he
      cases he
      exact ⟨Nat.toDigits_ne_nil, isDigit_toDigits _⟩

theorem toDigits_shortest {bits : Nat} (h : 0 < bits) : ∃ d ds,
    Nat.toDigits 10 (shortest bits).1 = d :: ds ∧ d ≠ '0' ∧ ∀ c ∈ d :: ds, c.isDigit = true := by
  obtain ⟨d, ds, he, hd⟩ := toDigits_eq_cons (shortest bits).1
  refine ⟨d, ds, he, fun h0 => ?_, ?_⟩
  · exact absurd (hd h0).1 (shortest_spec h).1.ne'
  · rw [← he]
    exact isDigit_toDigits _

/-- What is written is a number in the form that JSON asks for. -/
theorem written_formed (r : Real) : r.written.Formed := by
  rw [written]
  split
  · refine ⟨⟨'0', [], rfl, fun _ => rfl⟩, by simp, by simp, by simp⟩
  · rename_i h
    obtain ⟨d, ds, he, hd, hds⟩ := toDigits_shortest (Nat.pos_of_ne_zero h)
    dsimp only
    rw [he]
    exact (place_formed r.negative hd hds _).1

/-- What is written is no integer. -/
theorem integer?_written (r : Real) : r.written.integer? = none := by
  rw [written]
  split
  · rfl
  · rename_i h
    obtain ⟨d, ds, he, hd, hds⟩ := toDigits_shortest (Nat.pos_of_ne_zero h)
    dsimp only
    rw [he]
    exact (place_formed r.negative hd hds _).2

/-! ### Reading what was written -/

theorem le_readable_of_nonpos {s : Nat} (hs : s < UInt64.size) {power : Int} (h : power ≤ 0) :
    (s : ℚ) * 10 ^ power ≤ readable := by
  have hle : UInt64.size ≤ readable := by decide +kernel
  have hpow : (10 : ℚ) ^ power ≤ 1 := zpow_le_one_of_nonpos₀ (by norm_num) h
  calc (s : ℚ) * 10 ^ power ≤ s := mul_le_of_le_one_right (Nat.cast_nonneg s) hpow
    _ ≤ readable := Nat.cast_le.mpr (hs.le.trans hle)

/-- Without an exponent, and with few digits before the point, nothing can go beyond the finite
numbers. -/
theorem real?_isSome_of_short {n : NumberText} (hexp : n.exponent = none)
    (hwhole : ∀ c ∈ n.whole, c.isDigit = true) (hlen : n.whole.length ≤ 16) : n.real?.isSome := by
  have hlt : Nat.ofDigitChars 10 n.whole 0 < UInt64.size := by
    have h := ofDigitChars_lt hwhole 0
    have hpow : 10 ^ n.whole.length ≤ 10 ^ 16 := Nat.pow_le_pow_right (by decide) hlen
    have hsize : (10 : Nat) ^ 16 < UInt64.size := by decide
    omega
  obtain ⟨hs, hunused, _⟩ := significand_spec n.fraction hlt
  rw [NumberText.real?, significand_of_lt hlt, hexp]
  exact ofParts?_isSome _ hs (le_readable_of_nonpos hs (by omega))

/-- A number with an exponent is read if the exponent is negative, or its digits are readable. -/
theorem real?_isSome_of_exponent (negative minus : Bool) {d : Char} {ds : List Char} {e : Nat}
    (hd : d.isDigit = true) (hplus : minus = false → e < 0x80000000 ∧
      (Nat.ofDigitChars 10 (d :: ds) 0 : ℚ) * 10 ^ ((e : Int) - ds.length) ≤ readable) :
    (NumberText.mk negative [d] ds (some (minus, Nat.toDigits 10 e))).real?.isSome := by
  have hwhole : Nat.ofDigitChars 10 [d] 0 < UInt64.size := by
    have hdigits : ∀ c ∈ [d], c.isDigit = true := by simpa using hd
    have h := ofDigitChars_lt hdigits 0
    exact h.trans (show 10 ^ 1 * 1 < UInt64.size by decide)
  obtain ⟨hs, hunused, hle⟩ := significand_spec ds hwhole
  rw [← Nat.ofDigitChars_append, List.singleton_append] at hle
  rw [NumberText.real?]
  dsimp only
  rw [significand_of_lt hwhole]
  dsimp only
  rw [if_pos rfl]
  generalize significand (Nat.ofDigitChars 10 [d] 0) ds = x at hs hunused hle ⊢
  obtain ⟨s, unused⟩ := x
  dsimp only at hs hunused hle ⊢
  rw [Nat.ofDigitChars_ten_toDigits]
  cases minus with
  | true =>
      split
      · rw [if_neg (by simp)]
        refine ofParts?_isSome _ (by decide) ?_
        rw [Nat.cast_zero, zero_mul]
        exact Nat.cast_nonneg _
      · rw [if_pos rfl]
        exact ofParts?_isSome _ hs (le_readable_of_nonpos hs (by omega))
  | false =>
      obtain ⟨hlt, hread⟩ := hplus rfl
      rw [if_neg (Nat.not_le.mpr hlt), if_neg (by simp)]
      refine ofParts?_isSome _ hs (le_trans ?_ hread)
      have hpower : (unused : Int) - ds.length + e = unused + ((e : Int) - ds.length) := by omega
      rw [hpower, zpow_add₀ (by norm_num), zpow_natCast, ← mul_assoc]
      refine mul_le_mul_of_nonneg_right ?_ (by positivity)
      exact_mod_cast hle

/-- Readable digits are placed in a number that is read. -/
theorem real?_place (negative : Bool) {n : Nat} (hn : 0 < n) {power : Int}
    (hread : (n : ℚ) * 10 ^ power ≤ readable) :
    (place negative (Nat.toDigits 10 n) power).real?.isSome := by
  have hdigits := isDigit_toDigits n
  have hvalue : Nat.ofDigitChars 10 (Nat.toDigits 10 n) 0 = n := Nat.ofDigitChars_ten_toDigits
  have hfirst := @Quotient.pow_digitCount_le 10 (by decide) n hn
  rw [Quotient.digitCount] at hfirst
  obtain ⟨d, ds, he, _⟩ := toDigits_eq_cons n
  rw [he] at hdigits hvalue hfirst ⊢
  have hlen : (d :: ds).length = ds.length + 1 := rfl
  unfold place
  dsimp only
  split_ifs with h₁ h₂ h₃
  · refine real?_isSome_of_short rfl ?_ ?_
    · intro c hc
      rcases List.mem_append.mp hc with hc | hc
      · exact hdigits c hc
      · rw [List.eq_of_mem_replicate hc]
        decide
    · rw [List.length_append, List.length_replicate]
      omega
  · refine real?_isSome_of_short rfl (fun c hc => hdigits c (List.mem_of_mem_take hc)) ?_
    rw [List.length_take]
    omega
  · exact real?_isSome_of_short rfl (by simp) (by simp)
  · refine real?_isSome_of_exponent negative _ (hdigits d List.mem_cons_self) fun hpoint => ?_
    have hpoint := of_decide_eq_false hpoint
    have hexp : (10 : ℚ) ^ ((ds.length : Int) + power) < 10 ^ (309 : Int) := by
      refine lt_of_le_of_lt (le_trans ?_ hread) readable_lt
      rw [zpow_add₀ (by norm_num), zpow_natCast]
      refine mul_le_mul_of_nonneg_right ?_ (by positivity)
      exact_mod_cast hfirst
    rw [zpow_lt_zpow_iff_right₀ (by norm_num)] at hexp
    have hpower : ((((d :: ds).length : Int) + power - 1).natAbs : Int) - ds.length = power := by
      omega
    refine ⟨by omega, ?_⟩
    rw [List.drop_succ_cons, List.drop_zero, hpower, hvalue]
    exact hread

/-- **Writing and reading**: what is written is read as a number. -/
theorem real?_written (r : Real) : r.written.real?.isSome := by
  obtain ⟨negative, bits, hfinite⟩ := r
  rcases Nat.eq_zero_or_pos bits with rfl | hpos
  · rw [written, if_pos rfl]
    exact real?_isSome_of_short rfl (by simp) (by simp)
  · have hw : (⟨negative, bits, hfinite⟩ : Real).written =
        place negative (Nat.toDigits 10 (shortest bits).1) (shortest bits).2 := by
      rw [written, if_neg hpos.ne']
    rw [hw]
    rcases Nat.lt_or_ge (infinite - 4) bits with hgreat | hle
    · have hcases : bits = infinite - 1 ∨ bits = infinite - 2 ∨ bits = infinite - 3 := by
        unfold infinite at *
        omega
      rcases hcases with rfl | rfl | rfl <;> cases negative <;> decide +kernel
    · exact real?_place negative (shortest_spec hpos).1 (shortest_le_readable hpos hle)

end Real
end TrafficRules.Json
