import Mathlib.Data.List.TakeDrop
import TrafficRules.Json.Basic

/-! # Numbers as they are written

The text of a well-formed number (`NumberText.Formed`) is read as that number, as long as nothing
behind it could belong to it (`token?_number`). Integers are written in such a form, and those of
64 bits are read as themselves (`value?_ofInt`). -/

namespace TrafficRules.Json

/-! ### Digits -/

/-- What stands behind a number does not go on with it. -/
def Ended (rest : List Char) : Prop :=
  ∀ c more, rest = c :: more → c.isDigit = false ∧ c ≠ '.' ∧ c ≠ 'e' ∧ c ≠ 'E'

theorem ended_nil : Ended [] := by
  intro c more h
  cases h

theorem ended_cons {c : Char} (rest : List Char)
    (h : c.isDigit = false ∧ c ≠ '.' ∧ c ≠ 'e' ∧ c ≠ 'E') : Ended (c :: rest) := by
  intro d more he
  cases he
  exact h

theorem digits?_append {ds : List Char} (hne : ds ≠ []) (hd : ∀ c ∈ ds, c.isDigit = true)
    {rest : List Char} (hr : ∀ c more, rest = c :: more → c.isDigit = false) :
    digits? (ds ++ rest) = some (ds, rest) := by
  have hspan : (ds ++ rest).span Char.isDigit = (ds, rest) := by
    rw [List.span_eq_takeWhile_dropWhile, List.takeWhile_append_of_pos hd,
      List.dropWhile_append_of_pos hd]
    cases rest with
    | nil => simp
    | cons c more =>
        have hc := hr c more rfl
        rw [List.takeWhile_cons_of_neg (by simp [hc]), List.dropWhile_cons_of_neg (by simp [hc]),
          List.append_nil]
  obtain ⟨d, ds', rfl⟩ := List.exists_cons_of_ne_nil hne
  rw [digits?, hspan]

theorem isDigit_toDigits (n : Nat) : ∀ c ∈ Nat.toDigits 10 n, c.isDigit = true :=
  fun _ hc => Nat.isDigit_of_mem_toDigits (by decide) (by decide) hc

/-- Only zero is written with a zero in front. -/
theorem toDigits_eq_cons (n : Nat) :
    ∃ d ds, Nat.toDigits 10 n = d :: ds ∧ (d = '0' → n = 0 ∧ ds = []) := by
  induction n using Nat.strongRecOn with
  | ind n ih =>
      rw [Nat.toDigits_eq_if (by decide)]
      split
      · rename_i hlt
        refine ⟨Nat.digitChar n, [], rfl, fun hd => ⟨?_, rfl⟩⟩
        rw [← Nat.toNat_digitChar_sub_48_of_lt_ten hlt, hd]
        rfl
      · rename_i hge
        obtain ⟨d, ds, he, hd⟩ := ih (n / 10) (by omega)
        rw [he]
        refine ⟨d, ds ++ [Nat.digitChar (n % 10)], rfl, fun h => ?_⟩
        have := (hd h).1
        omega

/-! ### Well-formed numbers -/

/-- A number in the form that a JSON text asks for. -/
structure NumberText.Formed (n : NumberText) : Prop where
  leading : ∃ d ds, n.whole = d :: ds ∧ (d = '0' → ds = [])
  whole : ∀ c ∈ n.whole, c.isDigit = true
  fraction : ∀ c ∈ n.fraction, c.isDigit = true
  exponent : ∀ negative ds, n.exponent = some (negative, ds) →
    ds ≠ [] ∧ ∀ c ∈ ds, c.isDigit = true

theorem exponent?_text {x : Option (Bool × List Char)}
    (hx : ∀ negative ds, x = some (negative, ds) → ds ≠ [] ∧ ∀ c ∈ ds, c.isDigit = true)
    {rest : List Char} (hr : Ended rest) : exponent? (exponentText x ++ rest) = some (x, rest) := by
  match x with
  | none =>
      cases rest with
      | nil => rfl
      | cons c more =>
          obtain ⟨_, _, he, hE⟩ := hr c more rfl
          show exponent? (c :: more) = _
          unfold exponent?
          exact if_neg (by simp [he, hE])
  | some (negative, ds) =>
      obtain ⟨hne, hds⟩ := hx negative ds rfl
      have hdigits := digits?_append hne hds fun c more h => (hr c more h).1
      cases negative
      · show exponent? ('e' :: '+' :: (ds ++ rest)) = _
        rw [exponent?, if_pos (Or.inl rfl)]
        simp [hdigits]
      · show exponent? ('e' :: '-' :: (ds ++ rest)) = _
        rw [exponent?, if_pos (Or.inl rfl)]
        simp [hdigits]

theorem not_digit_exponentText {x : Option (Bool × List Char)} {rest : List Char} (hr : Ended rest) :
    ∀ c more, exponentText x ++ rest = c :: more → c.isDigit = false ∧ c ≠ '.' := by
  intro c more h
  match x with
  | none =>
      obtain ⟨hd, hp, _⟩ := hr c more h
      exact ⟨hd, hp⟩
  | some (negative, ds) =>
      cases h
      decide

theorem fraction?_text {ds : List Char} (hds : ∀ c ∈ ds, c.isDigit = true) {rest : List Char}
    (hr : ∀ c more, rest = c :: more → c.isDigit = false ∧ c ≠ '.') :
    fraction? (fractionText ds ++ rest) = some (ds, rest) := by
  cases ds with
  | nil =>
      show fraction? rest = _
      unfold fraction?
      split
      · rename_i more
        exact absurd rfl (hr '.' more rfl).2
      · rfl
  | cons d ds =>
      show fraction? ('.' :: (d :: ds ++ rest)) = _
      exact digits?_append (List.cons_ne_nil d ds) hds fun c more h => (hr c more h).1

/-- What can stand behind the whole part of a number. -/
theorem not_digit_fractionText (ds : List Char) {rest : List Char}
    (hr : ∀ c more, rest = c :: more → c.isDigit = false ∧ c ≠ '.') :
    ∀ c more, fractionText ds ++ rest = c :: more → c.isDigit = false := by
  intro c more h
  cases ds with
  | nil => exact (hr c more h).1
  | cons d ds =>
      cases h
      decide

theorem number?_text {n : NumberText} (hn : n.Formed) {rest : List Char} (hr : Ended rest) :
    number? n.negative (n.whole ++ (fractionText n.fraction ++ exponentText n.exponent) ++ rest) =
      some (n, rest) := by
  obtain ⟨negative, whole, fraction, exponent⟩ := n
  obtain ⟨⟨d, ds, rfl, hzero⟩, hwhole, hfraction, hexponent⟩ := hn
  have hbehind := not_digit_exponentText (x := exponent) hr
  have hexp := exponent?_text hexponent hr
  have hfrac := fraction?_text hfraction hbehind
  have hdig := digits?_append (List.cons_ne_nil d ds) hwhole
    (not_digit_fractionText fraction hbehind)
  dsimp only at hexp hfrac hdig ⊢
  rw [List.append_assoc, List.append_assoc]
  generalize fractionText fraction ++ (exponentText exponent ++ rest) = s at hfrac hdig ⊢
  unfold number?
  rw [List.cons_append] at hdig ⊢
  split
  · rename_i more heq
    obtain ⟨rfl, rfl⟩ := List.cons.inj heq
    obtain rfl := hzero rfl
    simp [hfrac, hexp]
  · simp [hdig, hfrac, hexp]

/-! ### Tokens -/

/-- A text starts with a digit or a sign, and is read as the number. -/
theorem token?_number {n : NumberText} (hn : n.Formed) {rest : List Char} (hr : Ended rest) :
    ∃ c s, n.text = c :: s ∧ isBlank c = false ∧ token? c (s ++ rest) = some (.number n, rest) := by
  have hread := number?_text hn hr
  obtain ⟨d, ds, hw, _⟩ := hn.leading
  have hd := hn.whole d (by rw [hw]; exact List.mem_cons_self)
  rw [NumberText.text]
  by_cases hneg : n.negative = true
  · rw [hneg] at hread
    rw [if_pos hneg]
    refine ⟨'-', n.whole ++ (fractionText n.fraction ++ exponentText n.exponent), rfl,
      by decide, ?_⟩
    rw [token?, hread]
    rfl
  · rw [Bool.not_eq_true] at hneg
    rw [hneg] at hread
    rw [hneg, hw, if_neg (by decide)]
    rw [hw] at hread
    refine ⟨d, ds ++ (fractionText n.fraction ++ exponentText n.exponent), rfl, ?_, ?_⟩
    · have hne : ∀ e : Char, e.isDigit = false → d ≠ e := by
        rintro e he rfl
        rw [hd] at he
        cases he
      simp [isBlank, hne]
    · have hne : ∀ e : Char, e.isDigit = false → d = e → False := by
        rintro e he rfl
        rw [hd] at he
        cases he
      rw [token?]
      · rw [if_pos hd]
        rw [List.cons_append, List.cons_append] at hread
        rw [hread]
        rfl
      all_goals exact hne _ (by decide)

/-! ### Integers -/

/-- An integer as it is written. -/
def NumberText.ofInt (n : Int) : NumberText where
  negative := decide (n < 0)
  whole := Nat.toDigits 10 n.natAbs

theorem formed_ofInt (n : Int) : (NumberText.ofInt n).Formed where
  leading := by
    obtain ⟨d, ds, he, hd⟩ := toDigits_eq_cons n.natAbs
    exact ⟨d, ds, he, fun h => (hd h).2⟩
  whole := isDigit_toDigits _
  fraction := by simp [NumberText.ofInt]
  exponent := by simp [NumberText.ofInt]

theorem text_ofInt (n : Int) : (NumberText.ofInt n).text = (toString n).toList := by
  have hdigits : (NumberText.ofInt n).whole ++ (fractionText [] ++ exponentText none) =
      Nat.toDigits 10 n.natAbs := by
    simp [NumberText.ofInt, fractionText, exponentText]
  rw [Int.toString_eq_repr, Int.repr_eq_if, NumberText.text]
  by_cases h : n < 0
  · have habs : (-n).toNat = n.natAbs := by omega
    rw [if_neg (show ¬ 0 ≤ n by omega), habs, String.toList_append, Nat.toList_repr, ← hdigits]
    simp [NumberText.ofInt, h]
  · have habs : n.toNat = n.natAbs := by omega
    rw [if_pos (show 0 ≤ n by omega), habs, Nat.toList_repr, ← hdigits]
    simp [NumberText.ofInt, h]

/-- The integers that a JSON value can hold. -/
def InRange (n : Int) : Prop := -0x8000000000000000 ≤ n ∧ n < 0x10000000000000000

theorem value?_ofInt {n : Int} (h : InRange n) :
    (NumberText.ofInt n).value? = some (.integer n) := by
  obtain ⟨hlow, hhigh⟩ := h
  have hsize : UInt64.size = 0x10000000000000000 := rfl
  rw [NumberText.value?, NumberText.integer?, if_pos ⟨rfl, rfl⟩]
  dsimp only [NumberText.ofInt]
  rw [Nat.ofDigitChars_ten_toDigits]
  by_cases hneg : n < 0
  · have hfits : ¬ (n.natAbs = 0 ∨ 0x8000000000000000 < n.natAbs) := by omega
    have habs : -(n.natAbs : Int) = n := by omega
    simp only [hneg, decide_true, if_true, if_neg hfits, habs]
  · have hfits : n.natAbs < UInt64.size := by omega
    have habs : (n.natAbs : Int) = n := by omega
    simp only [hneg, decide_false, Bool.false_eq_true, if_false, if_pos hfits, habs]

end TrafficRules.Json
