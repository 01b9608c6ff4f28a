import Mathlib.Algebra.Group.Nat.Defs
import TrafficRules.Text.Hex

/-! # Hexadecimal numerals read back

What `padded` writes, `numeral?` reads: the number itself, if the digits suffice for it
(`numeral?_padded`). Runs of digits of either case are read (`isSome_numeralFrom?`) and written back in
lowercase (`padded_of_numeralFrom?`). Numerals of one width are ordered as their numbers
(`padded_lt_iff`). -/

namespace TrafficRules.Hex

theorem digit?_digit {n : Nat} (h : n < 16) : digit? (digit n) = some n := by
  have hall : ∀ n < 16, digit? (digit n) = some n := by decide
  exact hall n h

theorem numeralFrom?_append (acc : Nat) (cs ds : List Char) :
    numeralFrom? acc (cs ++ ds) = (numeralFrom? acc cs).bind (numeralFrom? · ds) := by
  induction cs generalizing acc with
  | nil => rfl
  | cons c rest ih =>
      rw [List.cons_append, numeralFrom?, numeralFrom?]
      cases digit? c with
      | none => rfl
      | some d => exact ih _

theorem length_padded (width n : Nat) : (padded width n).length = width := by
  induction width generalizing n with
  | zero => rfl
  | succ width ih => rw [padded, List.length_append, ih, List.length_singleton]

theorem numeralFrom?_padded (acc width n : Nat) :
    numeralFrom? acc (padded width n) = some (acc * 16 ^ width + n % 16 ^ width) := by
  induction width generalizing n with
  | zero => simp [padded, numeralFrom?, Nat.mod_one]
  | succ width ih =>
      have hdigit := digit?_digit (Nat.mod_lt n (by decide : 16 > 0))
      have hmod : n % 16 ^ (width + 1) = n / 16 % 16 ^ width * 16 + n % 16 := by
        rw [Nat.pow_succ', Nat.mod_mul]
        omega
      rw [padded, numeralFrom?_append, ih, Option.bind_some, numeralFrom?, hdigit, hmod]
      simp only [Option.bind_eq_bind, Option.bind_some, numeralFrom?]
      rw [Nat.pow_succ', Nat.add_mul, Nat.mul_assoc, Nat.mul_comm (16 ^ width) 16]
      rw [Nat.add_assoc]

/-- Enough digits give the number back. -/
theorem numeral?_padded {width n : Nat} (h : n < 16 ^ width) :
    numeral? (padded width n) = some n := by
  rw [numeral?, numeralFrom?_padded, Nat.zero_mul, Nat.zero_add, Nat.mod_eq_of_lt h]

/-! ### Digits of either case -/

theorem toNat_of_isHexDigit {c : Char} (h : c.isHexDigit = true) : c.toNat < 128 := by
  simp only [Char.isHexDigit, Char.isDigit, Bool.or_eq_true, Bool.and_eq_true, decide_eq_true_eq,
    ge_iff_le, UInt32.le_iff_toNat_le] at h
  change ((48 ≤ c.toNat ∧ c.toNat ≤ 57) ∨ 97 ≤ c.toNat ∧ c.toNat ≤ 102) ∨
    65 ≤ c.toNat ∧ c.toNat ≤ 70 at h
  omega

theorem isSome_digit? (c : Char) : (digit? c).isSome = c.isHexDigit := by
  have hrange : c.isHexDigit = (decide ('0' ≤ c ∧ c ≤ '9') || decide ('a' ≤ c ∧ c ≤ 'f') ||
      decide ('A' ≤ c ∧ c ≤ 'F')) := by
    simp only [Char.isHexDigit, Char.isDigit, Bool.decide_and]
    rfl
  rw [hrange, digit?]
  by_cases h₁ : '0' ≤ c ∧ c ≤ '9'
  · rw [if_pos h₁, decide_eq_true h₁]
    rfl
  · rw [if_neg h₁, decide_eq_false h₁]
    by_cases h₂ : 'a' ≤ c ∧ c ≤ 'f'
    · rw [if_pos h₂, decide_eq_true h₂]
      rfl
    · rw [if_neg h₂, decide_eq_false h₂]
      by_cases h₃ : 'A' ≤ c ∧ c ≤ 'F'
      · rw [if_pos h₃, decide_eq_true h₃]
        rfl
      · rw [if_neg h₃, decide_eq_false h₃]
        rfl

/-- A digit is written back in lowercase. -/
theorem digit_of_digit? {c : Char} {d : Nat} (h : digit? c = some d) :
    d < 16 ∧ digit d = c.toLower := by
  have hall : ∀ n < 128, ∀ d ∈ digit? (Char.ofNat n), d < 16 ∧ digit d = (Char.ofNat n).toLower := by
    decide
  have hlt : c.toNat < 128 := toNat_of_isHexDigit (by rw [← isSome_digit?, h]; rfl)
  rw [← Char.ofNat_toNat c] at h ⊢
  exact hall _ hlt d h

theorem isSome_numeralFrom? (acc : Nat) (cs : List Char) :
    (numeralFrom? acc cs).isSome = cs.all Char.isHexDigit := by
  induction cs generalizing acc with
  | nil => rfl
  | cons c rest ih =>
      rw [numeralFrom?, List.all_cons, ← isSome_digit?]
      cases digit? c with
      | none => rfl
      | some d => exact ih _

/-! ### Digits from the front -/

theorem padded_add (v w n : Nat) : padded (v + w) n = padded v (n / 16 ^ w) ++ padded w n := by
  induction w generalizing n with
  | zero => simp [padded]
  | succ w ih =>
      rw [← Nat.add_assoc, padded, ih, padded, Nat.div_div_eq_div_mul, ← Nat.pow_succ',
        List.append_assoc]

theorem padded_succ (w n : Nat) : padded (w + 1) n = digit (n / 16 ^ w % 16) :: padded w n := by
  rw [Nat.add_comm, padded_add]
  rfl

/-- Only the last digits are written. -/
theorem padded_mod (w n : Nat) : padded w (n % 16 ^ w) = padded w n := by
  induction w generalizing n with
  | zero => rfl
  | succ w ih =>
      have hdiv : n % 16 ^ (w + 1) / 16 = n / 16 % 16 ^ w := by
        rw [Nat.pow_succ', Nat.mod_mul_right_div_self]
      have hmod : n % 16 ^ (w + 1) % 16 = n % 16 := by
        rw [Nat.pow_succ', Nat.mod_mul_right_mod]
      rw [padded, padded, hdiv, hmod, ih]

/-- What has been read is written back in lowercase. -/
theorem padded_of_numeralFrom? {cs : List Char} {acc n : Nat} (h : numeralFrom? acc cs = some n) :
    padded cs.length n = cs.map Char.toLower ∧ n / 16 ^ cs.length = acc := by
  induction cs generalizing acc with
  | nil =>
      rw [numeralFrom?, Option.some.injEq] at h
      exact ⟨rfl, by rw [h, List.length_nil, Nat.pow_zero, Nat.div_one]⟩
  | cons c rest ih =>
      rw [numeralFrom?] at h
      cases hd : digit? c with
      | none =>
          rw [hd] at h
          cases h
      | some d =>
          rw [hd] at h
          obtain ⟨hrest, hdiv⟩ := ih h
          obtain ⟨hlt, hdigit⟩ := digit_of_digit? hd
          have hlast : (acc * 16 + d) % 16 = d := by omega
          have hfirst : (acc * 16 + d) / 16 = acc := by omega
          refine ⟨?_, ?_⟩
          · rw [List.length_cons, padded_succ, hdiv, hlast, hdigit, hrest, List.map_cons]
          · rw [List.length_cons, Nat.pow_succ, ← Nat.div_div_eq_div_mul, hdiv, hfirst]

/-! ### Order -/

/-- Numbers of two places compare by the first one and by the second one next. -/
theorem place_lt_iff {m q r q' r' : Nat} (hr : r < m) (hr' : r' < m) :
    q * m + r < q' * m + r' ↔ q < q' ∨ q = q' ∧ r < r' := by
  rcases Nat.lt_trichotomy q q' with h | rfl | h
  · have := Nat.mul_le_mul_right m h
    rw [Nat.succ_mul] at this
    omega
  · omega
  · have := Nat.mul_le_mul_right m h
    rw [Nat.succ_mul] at this
    omega

theorem digit_lt_iff {a b : Nat} (ha : a < 16) (hb : b < 16) : digit a < digit b ↔ a < b := by
  have hall : ∀ a < 16, ∀ b < 16, digit a < digit b ↔ a < b := by decide
  exact hall a ha b hb

theorem digit_inj {a b : Nat} (ha : a < 16) (hb : b < 16) : digit a = digit b ↔ a = b := by
  refine ⟨fun h => ?_, congrArg digit⟩
  have := digit?_digit ha
  rw [h, digit?_digit hb, Option.some.injEq] at this
  exact this.symm

/-- Numerals of one width are ordered as their numbers. -/
theorem padded_lt_iff (w a b : Nat) : padded w a < padded w b ↔ a % 16 ^ w < b % 16 ^ w := by
  induction w with
  | zero => simp [padded, Nat.mod_one]
  | succ w ih =>
      have hpos : 0 < 16 ^ w := Nat.pow_pos (by decide)
      have hsplit : ∀ n, n % 16 ^ (w + 1) = n / 16 ^ w % 16 * 16 ^ w + n % 16 ^ w := by
        intro n
        rw [Nat.mod_pow_succ, Nat.mul_comm, Nat.add_comm]
      have ha := Nat.mod_lt (a / 16 ^ w) (by decide : 16 > 0)
      have hb := Nat.mod_lt (b / 16 ^ w) (by decide : 16 > 0)
      rw [padded_succ, padded_succ, List.cons_lt_cons_iff, digit_lt_iff ha hb, digit_inj ha hb, ih,
        hsplit a, hsplit b, place_lt_iff (Nat.mod_lt a hpos) (Nat.mod_lt b hpos)]

end TrafficRules.Hex
